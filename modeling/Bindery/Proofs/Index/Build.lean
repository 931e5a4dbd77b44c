import Bindery.Index.Scan
import Bindery.Proofs.FirstFault

set_option autoImplicit false

/-! # What the index holds

The index is built from the documents below a directory in visiting order. Of several documents
with one identifier it holds the last (`get?_ofRecords`). What it holds is read off the file of the
document (`exists_of_get?_build`). -/

namespace Bindery

namespace Index

theorem get?_foldl_insert (records : List Record) (index : Index) (identifier : Text) :
    (records.foldl insert index).get? identifier =
      (records.reverse.find? fun r => r.identifier = identifier).or (index.get? identifier) := by
  induction records generalizing index with
  | nil => simp
  | cons record records ih =>
    rw [List.foldl_cons, ih, get?_insert, List.reverse_cons, List.find?_append, Option.or_assoc]
    congr 1
    by_cases h : record.identifier = identifier <;> simp [h]

/-- Of several records with one identifier the last counts. -/
theorem get?_ofRecords (records : List Record) (identifier : Text) :
    (ofRecords records).get? identifier =
      records.reverse.find? fun r => r.identifier = identifier := by
  rw [ofRecords, get?_foldl_insert]
  simp [get?, empty]

/-- An index holds no other records than those it is made of. -/
theorem mem_of_mem_ofRecords {records : List Record} {record : Record}
    (h : record ∈ (ofRecords records).records) : record ∈ records := by
  have hfold : ∀ (records : List Record) (index : Index),
      record ∈ (records.foldl insert index).records →
        record ∈ index.records ∨ record ∈ records := by
    intro records
    induction records with
    | nil => exact fun _ h => Or.inl h
    | cons next records ih =>
      intro index h
      rcases ih (index.insert next) h with h | h
      · rw [insert, List.mem_append, List.mem_singleton] at h
        rcases h with h | rfl
        · exact Or.inl (List.mem_of_mem_filter h)
        · exact Or.inr (List.mem_cons_self ..)
      · exact Or.inr (List.mem_cons_of_mem next h)
  rcases hfold records empty h with h | h
  · cases h
  · exact h

theorem readRecord_eq_ok_iff {w : Workspace} {path : Path} {name : Text} {record : Record} :
    readRecord w path name = .ok record ↔
      ∃ text, w.readText path = .ok text ∧
        record = ⟨(Path.splitName name).1, path, titleOf text⟩ := by
  unfold readRecord
  cases w.readText path <;> simp [eq_comm]

theorem readRecord_eq_error_iff {w : Workspace} {path : Path} {name : Text} {e : IndexError} :
    readRecord w path name = .error e ↔
      ∃ reason, w.readText path = .error reason ∧ e = .unreadable path reason := by
  unfold readRecord
  cases w.readText path <;> simp [eq_comm]

/-- An index is built when every document can be read. -/
theorem build_eq_ok_iff {w : Workspace} {root : Path} {index : Index} :
    build w root = .ok index ↔
      ∃ records, index = ofRecords records ∧
        List.Forall₂ (fun document record => readRecord w document.1 document.2 = .ok record)
          (documentPaths w root) records := by
  rw [build, map_eq_ok_iff]
  simp only [mapM_eq_ok_iff]
  constructor
  · rintro ⟨records, hrecords, rfl⟩
    exact ⟨records, rfl, hrecords⟩
  · rintro ⟨records, rfl, hrecords⟩
    exact ⟨records, hrecords, rfl⟩

/-- The first document that cannot be read is the error. -/
theorem build_eq_error_iff {w : Workspace} {root : Path} {e : IndexError} :
    build w root = .error e ↔
      FirstFault (fun document e => readRecord w document.1 document.2 = .error e)
        (documentPaths w root) e := by
  rw [build, map_eq_error_iff]
  exact mapM_eq_error_iff

/-- What the index holds stands in the file of a document below the directory. -/
theorem exists_of_get?_build {w : Workspace} {root : Path} {index : Index} {identifier : Text}
    {record : Record} (h : build w root = .ok index) (hget : index.get? identifier = some record) :
    ∃ name text, (record.path, name) ∈ documentPaths w root ∧
      identifier = (Path.splitName name).1 ∧ w.readText record.path = .ok text ∧
      record = ⟨identifier, record.path, titleOf text⟩ := by
  obtain ⟨records, rfl, hrecords⟩ := build_eq_ok_iff.1 h
  rw [get?_ofRecords] at hget
  have hmem := List.mem_reverse.1 (List.mem_of_find?_eq_some hget)
  have hidentifier : record.identifier = identifier := by
    simpa using List.find?_some hget
  obtain ⟨⟨path, name⟩, hdocument, hread⟩ :=
    exists_of_mem_forall₂ hrecords hmem
  obtain ⟨text, htext, rfl⟩ := readRecord_eq_ok_iff.1 hread
  subst hidentifier
  exact ⟨name, text, hdocument, rfl, htext, rfl⟩

end Index

end Bindery
