import Bindery.Proofs.Files.Fresh
import Bindery.Proofs.Index.Build
import Bindery.Proofs.Index.Lookup
import Bindery.Proofs.Text.Utf8

set_option autoImplicit false

/-! # The index of a tree with one more document

A new file below a directory may be a document there. If its path is not too long it can be read, so
the directory can be indexed again, and the other documents are visited in the order they had
(`filter_documentPaths`). So the index has all records it had, unless one of them has the identifier
of the new document (`exists_build_of_added`). -/

namespace Bindery

open Workspace

namespace Index

variable {w w' : Workspace} {p folder : Path} {place above : Location} {text : Text}
  {inside : Folder} {index : Index}

/-- Records besides those of one identifier make a smaller index. -/
theorem ofRecords_extends {records records' : List Record} {stem : Option Text}
    (h : records'.filter (fun r => decide (some r.identifier ≠ stem)) = records) :
    (ofRecords records).Extends (ofRecords records') := by
  intro identifier record hget
  rw [get?_ofRecords] at hget ⊢
  have hmem := List.mem_of_find?_eq_some hget
  have hidentifier : record.identifier = identifier := by simpa using List.find?_some hget
  rw [← h, List.mem_reverse, List.mem_filter, decide_eq_true_eq, hidentifier] at hmem
  rw [← h, ← List.filter_reverse, List.find?_filter] at hget
  rw [← hget]
  congr 1
  funext r
  by_cases hr : r.identifier = identifier
  · simp [hr, hmem.2]
  · simp [hr]

/-- The records with an identifier are those of the documents with that stem. -/
theorem filter_records (stem : Option Text) {documents : List (Path × Text)}
    {records : List Record}
    (h : List.Forall₂ (fun document record => readRecord w document.1 document.2 = .ok record)
      documents records) :
    List.Forall₂ (fun document record => readRecord w document.1 document.2 = .ok record)
      (documents.filter fun document => decide (some (Path.splitName document.2).1 ≠ stem))
      (records.filter fun record => decide (some record.identifier ≠ stem)) := by
  refine List.rel_filter ?_ h
  intro document record hrecord
  obtain ⟨_, _, rfl⟩ := readRecord_eq_ok_iff.1 hrecord
  exact Iff.rfl

/-- The document at a place below a directory: its path and its name. -/
def documentAt (folder : Path) (place : Location) : Path × Text :=
  (pathBelow folder place, place.getLast?.getD [])

theorem documentPaths_eq (h : w.resolve folder = .ok (.found above (.folder true inside))) :
    documentPaths w folder = (visit folder inside).map (documentAt folder) := by
  rw [documentPaths, list, entry, h]
  rfl

/-- Documents that are kept of a directory are kept of what is in reach. -/
theorem filter_visit {inside' : Folder} {keep : Location → Bool}
    (h : inside'.documents.filter keep = inside.documents.filter keep) :
    (visit folder inside').filter keep = (visit folder inside).filter keep := by
  unfold visit
  rw [List.filter_comm, h, List.filter_comm]

/-- The document at the new place has the stem of the path that led there as its identifier. -/
theorem stem_documentAt {content : Bytes} {below : Location} (h : Added w w' p place content)
    (hplace : above ++ below = place) (hne : below ≠ []) :
    some (Path.splitName (documentAt folder below).2).1 = Path.stem? p := by
  obtain ⟨name, hlast, hstem⟩ := h.stem
  rw [← hplace, List.getLast?_append, List.getLast?_eq_some_getLast hne, Option.some_or] at hlast
  rw [hstem, documentAt, List.getLast?_eq_some_getLast hne, hlast]
  rfl

variable (h : Added w w' p place (Utf8.encode text))

include h

/-- A new file is not a directory that was there. -/
theorem ne_nil_of_added {below : Location} {listable : Bool}
    (hresolve : w.resolve folder = .ok (.found above (.folder listable inside)))
    (hplace : above ++ below = place) : below ≠ [] := by
  rintro rfl
  obtain ⟨inside', hresolve', _⟩ := h.documents _ _ _ _ hresolve
  have hat : w'.root.at? above = some (.folder listable inside') :=
    (resolveNames_eq_ok_iff.1 hresolve').2.at?_place
  rw [List.append_nil] at hplace
  rw [hplace, h.file] at hat
  cases hat

/-- The documents below a directory are those that were there before, but for new ones with the
identifier of the new file. -/
theorem filter_documentPaths {inside' : Folder}
    (hresolve : w.resolve folder = .ok (.found above (.folder true inside)))
    (hsame : (visit folder inside').filter (fun document => decide (above ++ document ≠ place)) =
      (visit folder inside).filter fun document => decide (above ++ document ≠ place))
    (hstem : ∀ document ∈ (visit folder inside).map (documentAt folder),
      some (Path.splitName document.2).1 ≠ Path.stem? p) :
    ((visit folder inside').map (documentAt folder)).filter
        (fun document => decide (some (Path.splitName document.2).1 ≠ Path.stem? p)) =
      (visit folder inside).map (documentAt folder) := by
  have hother : ∀ below : Location,
      some (Path.splitName (documentAt folder below).2).1 ≠ Path.stem? p →
        above ++ below ≠ place :=
    fun below hne hplace =>
      hne (stem_documentAt h hplace (ne_nil_of_added h hresolve hplace))
  have hfilter : ∀ documents : List Location,
      (documents.map (documentAt folder)).filter
          (fun document => decide (some (Path.splitName document.2).1 ≠ Path.stem? p)) =
        ((documents.filter fun document => decide (above ++ document ≠ place)).map
          (documentAt folder)).filter
            (fun document => decide (some (Path.splitName document.2).1 ≠ Path.stem? p)) := by
    intro documents
    rw [List.filter_map, List.filter_map, List.filter_filter]
    congr 1
    refine List.filter_congr fun below _ => ?_
    by_cases hne : some (Path.splitName (documentAt folder below).2).1 = Path.stem? p
    · simp [hne]
    · simp [hne, hother below hne]
  rw [hfilter, hsame, ← hfilter]
  exact List.filter_eq_self.2 fun document hdocument => decide_eq_true (hstem document hdocument)

/-- A record that was read is read again. -/
theorem readRecord_of_added {path : Path} {name : Text} {record : Record}
    (hrecord : readRecord w path name = .ok record) : readRecord w' path name = .ok record := by
  obtain ⟨old, hold, rfl⟩ := readRecord_eq_ok_iff.1 hrecord
  exact readRecord_eq_ok_iff.2 ⟨old, readText_of_read (fun _ => h.read) hold, rfl⟩

/-- Every document below the directory can be read: the new one because it is a text, the others as
before. -/
theorem exists_readRecord {inside' : Folder} {below : Location}
    (hresolve : w.resolve folder = .ok (.found above (.folder true inside)))
    (hresolve' : w'.resolve folder = .ok (.found above (.folder true inside')))
    (hsame : (visit folder inside').filter (fun document => decide (above ++ document ≠ place)) =
      (visit folder inside).filter fun document => decide (above ++ document ≠ place))
    (hold : ∀ document ∈ visit folder inside, ∃ record,
      readRecord w (documentAt folder document).1 (documentAt folder document).2 = .ok record)
    (hshort : Text.byteLength (documentAt folder below).1 ≤ pathLimit)
    (hbelow : below ∈ visit folder inside') :
    ∃ record, readRecord w' (documentAt folder below).1 (documentAt folder below).2 =
      .ok record := by
  by_cases hplace : above ++ below = place
  · have hfile : w'.root.at? (above ++ below) = some (.file (Utf8.encode text)) :=
      hplace ▸ h.file
    have hread : w'.read (pathBelow folder below) = .ok (Utf8.encode text) :=
      read_eq_ok_iff.2 ⟨_, resolve_pathBelow hresolve' hfile (by simp)
        (ne_nil_of_added h hresolve hplace)
        (fun name hname => h.names name (hplace ▸ List.mem_append_right above hname)) hshort⟩
    refine ⟨_, readRecord_eq_ok_iff.2 ⟨text, ?_, rfl⟩⟩
    rw [documentAt, readText, hread]
    simp only [Utf8.decode?_encode]
  · have hkept : below ∈ (visit folder inside').filter
        fun document => decide (above ++ document ≠ place) :=
      List.mem_filter.2 ⟨hbelow, decide_eq_true hplace⟩
    rw [hsame] at hkept
    obtain ⟨record, hrecord⟩ := hold below (List.mem_filter.1 hkept).1
    exact ⟨record, readRecord_of_added h hrecord⟩

/-- Only a directory whose entries can be listed has documents, and it stays one. -/
theorem documentPaths_of_not_listable {entry : Entry}
    (hresolve : w.resolve folder = .ok (.found above entry))
    (hentry : ∀ inside, entry ≠ .folder true inside) :
    documentPaths w folder = [] ∧ documentPaths w' folder = [] := by
  have hnone : ∀ {w : Workspace} {entry : Entry},
      w.resolve folder = .ok (.found above entry) → (∀ inside, entry ≠ .folder true inside) →
        documentPaths w folder = [] := by
    intro w entry hresolve hentry
    rw [documentPaths, list, Workspace.entry, hresolve]
    cases entry with
    | file content => rfl
    | link goal => rfl
    | folder listable inside =>
      cases listable with
      | false => rfl
      | true => exact absurd rfl (hentry inside)
  obtain ⟨entry', hresolve'⟩ := h.grows.exists_found hresolve
  refine ⟨hnone hresolve hentry, hnone hresolve' ?_⟩
  rintro inside' rfl
  have hat : w.root.at? above = some entry := (resolveNames_eq_ok_iff.1 hresolve).2.at?_place
  have hat' : w'.root.at? above = some (.folder true inside') :=
    (resolveNames_eq_ok_iff.1 hresolve').2.at?_place
  have hkind : w.root.kindAt? above = some entry.kind := by
    rw [Folder.kindAt?, hat, Option.map_some]
  have hkind' := h.keeps _ _ hkind
  rw [Folder.kindAt?_eq_folder_iff.2 ⟨inside', hat'⟩] at hkind'
  obtain ⟨inside, hinside⟩ := Folder.kindAt?_eq_folder_iff.1 (hkind.trans hkind'.symm)
  rw [hat] at hinside
  exact hentry inside (Option.some.inj hinside)

omit h in
/-- The empty path leads nowhere. -/
theorem documentPaths_nil (w : Workspace) : documentPaths w [] = [] := by
  rw [documentPaths, list, Workspace.entry, Workspace.resolve, resolveNames]
  rfl

/-- A directory that was indexed can be indexed again with the new file. The index has all records
it had, unless one has the identifier of the new file. -/
theorem exists_build_of_added (hbuild : build w folder = .ok index)
    (hexists : folder = [] ∨ w.exists? folder = true)
    (hstem : ∀ document ∈ documentPaths w folder,
      some (Path.splitName document.2).1 ≠ Path.stem? p)
    (hshort : ∀ document ∈ documentPaths w' folder, Text.byteLength document.1 ≤ pathLimit) :
    ∃ index', build w' folder = .ok index' ∧ index.Extends index' := by
  obtain ⟨records, rfl, hrecords⟩ := build_eq_ok_iff.1 hbuild
  -- without documents nothing has to be read
  have hempty : documentPaths w folder = [] ∧ documentPaths w' folder = [] →
      ∃ index', build w' folder = .ok index' ∧ (ofRecords records).Extends index' := by
    rintro ⟨hnone, hnone'⟩
    rw [hnone, List.forall₂_nil_left_iff] at hrecords
    refine ⟨_, build_eq_ok_iff.2 ⟨records, rfl, ?_⟩, .refl _⟩
    rw [hnone', hrecords]
    exact .nil
  rcases hexists with rfl | hexists
  · exact hempty ⟨documentPaths_nil w, documentPaths_nil w'⟩
  obtain ⟨above, entry, hresolve⟩ := exists?_iff.1 hexists
  by_cases hlistable : ∃ inside, entry = .folder true inside
  · obtain ⟨inside, rfl⟩ := hlistable
    obtain ⟨inside', hresolve', hdocuments⟩ := h.documents folder above true inside hresolve
    have hsame : (visit folder inside').filter (fun document => decide (above ++ document ≠ place)) =
        (visit folder inside).filter fun document => decide (above ++ document ≠ place) :=
      filter_visit hdocuments
    rw [documentPaths_eq hresolve] at hrecords hstem
    rw [documentPaths_eq hresolve'] at hshort
    have hold := exists_mapM_eq_ok_iff.1 ⟨records, mapM_eq_ok_iff.2 hrecords⟩
    have hread : ∀ document ∈ (visit folder inside').map (documentAt folder),
        ∃ record, readRecord w' document.1 document.2 = .ok record := by
      intro document hdocument
      have hlength := hshort document hdocument
      obtain ⟨below, hbelow, rfl⟩ := List.mem_map.1 hdocument
      refine exists_readRecord h hresolve hresolve' hsame (fun place hplace => ?_) hlength hbelow
      exact hold _ (List.mem_map_of_mem hplace)
    obtain ⟨records', hmapM⟩ :=
      (exists_mapM_eq_ok_iff (f := fun d : Path × Text => readRecord w' d.1 d.2)).2 hread
    have hrecords' := mapM_eq_ok_iff.1 hmapM
    have hkept : records'.filter
        (fun record => decide (some record.identifier ≠ Path.stem? p)) = records := by
      have hfiltered := filter_records (Path.stem? p) hrecords'
      rw [filter_documentPaths h hresolve hsame hstem] at hfiltered
      have hagain := hrecords.imp fun _ _ => readRecord_of_added h
      have heq := (mapM_eq_ok_iff.2 hfiltered).symm.trans (mapM_eq_ok_iff.2 hagain)
      exact Except.ok.inj heq
    refine ⟨ofRecords records', ?_, ofRecords_extends hkept⟩
    exact build_eq_ok_iff.2 ⟨records', rfl, documentPaths_eq hresolve' ▸ hrecords'⟩
  · exact hempty (documentPaths_of_not_listable h hresolve fun inside heq =>
      hlistable ⟨inside, heq⟩)

end Index

end Bindery
