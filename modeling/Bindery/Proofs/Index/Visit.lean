import Bindery.Index.Scan
import Bindery.Proofs.Files.Place

set_option autoImplicit false

/-! # Documents of a tree that has got an entry

The documents of a directory are visited in the order of names, whatever the order of the entries
is. So an entry that is put at a free place brings in its own documents and leaves the others in
their order (`filter_documents_putAt`). That names are not compared with each other but sorted
leaves one thing to show: sorting goes with leaving out (`filter_mergeSort`). -/

namespace Bindery

/-! ## Sorting -/

section

variable {α : Type} {le : α → α → Bool}

/-- A cut between elements that have a property and elements that do not is in one place only. -/
theorem append_inj_of_forall {q : α → Bool} {as bs cs ds : List α} (h : as ++ bs = cs ++ ds)
    (has : ∀ x ∈ as, q x = true) (hbs : ∀ x ∈ bs, q x = false) (hcs : ∀ x ∈ cs, q x = true)
    (hds : ∀ x ∈ ds, q x = false) : as = cs ∧ bs = ds := by
  have hfront : as = cs := by
    have hfilter := congrArg (List.filter q) h
    rwa [List.filter_append, List.filter_append, List.filter_eq_self.2 has,
      List.filter_eq_self.2 hcs, List.filter_eq_nil_iff.2 fun x hx => by simp [hbs x hx],
      List.filter_eq_nil_iff.2 fun x hx => by simp [hds x hx], List.append_nil,
      List.append_nil] at hfilter
  subst hfront
  exact ⟨rfl, List.append_cancel_left h⟩

/-- An element goes between those it may not stand before and those it may. -/
theorem exists_cut_mergeSort (trans : ∀ a b c, le a b = true → le b c = true → le a c = true)
    (total : ∀ a b, (le a b || le b a) = true) (a : α) (l : List α) :
    ∃ l₁ l₂, (a :: l).mergeSort le = l₁ ++ a :: l₂ ∧ l.mergeSort le = l₁ ++ l₂ ∧
      (∀ b ∈ l₁, (!le a b) = true) ∧ ∀ b ∈ l₂, (!le a b) = false := by
  obtain ⟨l₁, l₂, hcons, hl, hbefore⟩ := List.mergeSort_cons trans total a l
  refine ⟨l₁, l₂, hcons, hl, hbefore, fun b hb => ?_⟩
  have hsorted := List.pairwise_mergeSort trans total (a :: l)
  rw [hcons, List.pairwise_append, List.pairwise_cons] at hsorted
  rw [hsorted.2.1.1 b hb, Bool.not_true]

/-- Leaving elements out before or after sorting is the same. -/
theorem filter_mergeSort (trans : ∀ a b c, le a b = true → le b c = true → le a c = true)
    (total : ∀ a b, (le a b || le b a) = true) (p : α → Bool) (l : List α) :
    (l.mergeSort le).filter p = (l.filter p).mergeSort le := by
  induction l with
  | nil => simp
  | cons a l ih =>
    obtain ⟨l₁, l₂, hcons, hl, hbefore, hbehind⟩ := exists_cut_mergeSort trans total a l
    rw [hl, List.filter_append] at ih
    rw [hcons, List.filter_append]
    by_cases ha : p a = true
    · obtain ⟨m₁, m₂, hcons', hm, hbefore', hbehind'⟩ :=
        exists_cut_mergeSort trans total a (l.filter p)
      -- both are cut where `a` belongs
      obtain ⟨hfront, hback⟩ := append_inj_of_forall (ih.trans hm)
        (fun b hb => hbefore b (List.mem_filter.1 hb).1)
        (fun b hb => hbehind b (List.mem_filter.1 hb).1) hbefore' hbehind'
      rw [List.filter_cons_of_pos ha, List.filter_cons_of_pos ha, hcons', hfront, hback]
    · rw [List.filter_cons_of_neg ha, List.filter_cons_of_neg ha, ih]

end

namespace Text

theorem le_trans (a b c : Text) (hab : le a b = true) (hbc : le b c = true) :
    le a c = true := by
  induction a generalizing b c with
  | nil => rfl
  | cons x a ih =>
    cases b with
    | nil => cases hab
    | cons y b =>
      cases c with
      | nil => cases hbc
      | cons z c =>
        simp only [le] at hab hbc ⊢
        by_cases hxy : x.toNat = y.toNat
        · rw [if_pos hxy] at hab
          rw [← hxy] at hbc
          by_cases hxz : x.toNat = z.toNat
          · rw [if_pos hxz] at hbc ⊢
            exact ih b c hab hbc
          · rwa [if_neg hxz] at hbc ⊢
        · rw [if_neg hxy, decide_eq_true_eq] at hab
          by_cases hyz : y.toNat = z.toNat
          · rw [if_neg (hyz ▸ hxy), decide_eq_true_eq]
            exact hyz ▸ hab
          · rw [if_neg hyz, decide_eq_true_eq] at hbc
            rw [if_neg (by omega), decide_eq_true_eq]
            exact Nat.lt_trans hab hbc

theorem le_total (a b : Text) : (le a b || le b a) = true := by
  induction a generalizing b with
  | nil => rfl
  | cons x a ih =>
    cases b with
    | nil => rfl
    | cons y b =>
      simp only [le]
      by_cases h : x.toNat = y.toNat
      · rw [if_pos h, if_pos h.symm]
        exact ih b
      · rw [if_neg h, if_neg (Ne.symm h), Bool.or_eq_true, decide_eq_true_eq, decide_eq_true_eq]
        exact Nat.lt_or_gt_of_ne h

end Text

/-! ## Documents of a directory -/

namespace Folder

variable {root inside : Folder} {entry : Entry} {place : Location} {name : Text}
  {found : List (Text × List Location)} {keep : Location → Bool}

/-- The documents that are in an entry or are the entry, with its name in front. -/
def entryDocuments (name : Text) (entry : Entry) : List Location :=
  (cons name entry .empty).documents

theorem documentsByEntry_cons (name : Text) (entry : Entry) (rest : Folder) :
    (cons name entry rest).documentsByEntry =
      (name, entryDocuments name entry) :: rest.documentsByEntry := by
  cases entry <;> simp [cons, documentsByEntry, entryDocuments, documents, inNameOrder]

theorem entryDocuments_folder (name : Text) (listable : Bool) (inside : Folder) :
    entryDocuments name (.folder listable inside) =
      if isHidden name || !listable then [] else inside.documents.map (name :: ·) := by
  simp [cons, documentsByEntry, entryDocuments, documents, inNameOrder]

theorem entryDocuments_empty (name : Text) (listable : Bool) :
    entryDocuments name (.folder listable .empty) = [] := by
  simp [entryDocuments_folder, documents, documentsByEntry, inNameOrder]

theorem entryDocuments_file (name : Text) (content : Bytes) :
    entryDocuments name (.file content) = if isDocumentName name then [[name]] else [] := by
  simp [cons, documentsByEntry, entryDocuments, documents, inNameOrder]

theorem entryDocuments_link (name : Text) (target : Path) :
    entryDocuments name (.link target) = if isDocumentName name then [[name]] else [] := by
  simp [cons, documentsByEntry, entryDocuments, documents, inNameOrder]

/-- What is kept of the documents is what is kept at each entry. -/
theorem filter_inNameOrder (keep : Location → Bool) (found : List (Text × List Location)) :
    (inNameOrder found).filter keep = inNameOrder (found.map fun e => (e.1, e.2.filter keep)) := by
  have hsort := List.map_mergeSort (r := fun a b : Text × List Location => Text.le a.1 b.1)
    (s := fun a b : Text × List Location => Text.le a.1 b.1)
    (f := fun e : Text × List Location => (e.1, e.2.filter keep)) (l := found)
    fun _ _ _ _ => rfl
  rw [inNameOrder, inNameOrder, ← hsort, List.filter_flatMap, List.flatMap_map]

/-- Entries without documents do not matter. -/
theorem inNameOrder_filter (found : List (Text × List Location)) :
    inNameOrder (found.filter fun e => !e.2.isEmpty) = inNameOrder found := by
  rw [inNameOrder, ← filter_mergeSort (fun a b c => Text.le_trans a.1 b.1 c.1)
    (fun a b => Text.le_total a.1 b.1), inNameOrder]
  generalize found.mergeSort (fun a b => Text.le a.1 b.1) = sorted
  induction sorted with
  | nil => rfl
  | cons e sorted ih => cases hdocuments : e.2 <;> simp [hdocuments, ih]

/-- The documents at each entry, as far as they are kept. -/
def keptByEntry (keep : Location → Bool) (root : Folder) : List (Text × List Location) :=
  root.documentsByEntry.map fun e => (e.1, e.2.filter keep)

theorem filter_documents (keep : Location → Bool) (root : Folder) :
    root.documents.filter keep = inNameOrder (keptByEntry keep root) :=
  filter_inNameOrder keep root.documentsByEntry

theorem keptByEntry_cons (entry : Entry) (rest : Folder) :
    keptByEntry keep (cons name entry rest) =
      (name, (entryDocuments name entry).filter keep) :: keptByEntry keep rest := by
  rw [keptByEntry, documentsByEntry_cons, List.map_cons, keptByEntry]

theorem keptByEntry_put_of_free (hfree : root.find? name = none) :
    keptByEntry keep (root.put name entry) =
      keptByEntry keep root ++ [(name, (entryDocuments name entry).filter keep)] := by
  induction root using cons_induction with
  | empty => exact keptByEntry_cons entry .empty
  | cons n e rest ih =>
    rw [find?_cons] at hfree
    by_cases hn : n = name
    · rw [if_pos hn] at hfree
      cases hfree
    · rw [if_neg hn] at hfree
      rw [put_cons, if_neg hn, keptByEntry_cons, keptByEntry_cons, ih hfree, List.cons_append]

theorem keptByEntry_put {old : Entry} (hfind : root.find? name = some old)
    (hsame : (entryDocuments name entry).filter keep = (entryDocuments name old).filter keep) :
    keptByEntry keep (root.put name entry) = keptByEntry keep root := by
  induction root using cons_induction with
  | empty => cases hfind
  | cons n e rest ih =>
    rw [find?_cons] at hfind
    by_cases hn : n = name
    · rw [if_pos hn] at hfind
      cases hfind
      rw [put_cons, if_pos hn, hn, keptByEntry_cons, keptByEntry_cons, hsame]
    · rw [if_neg hn] at hfind
      rw [put_cons, if_neg hn, keptByEntry_cons, keptByEntry_cons, ih hfind]

/-- An entry that is put at a free place brings in its own documents. The others stay, in their
order. -/
theorem filter_documents_putAt (hfolder : root.HasFolder place)
    (hfree : root.at? (place ++ [name]) = none)
    (hkeep : ∀ document ∈ entryDocuments name entry, keep (place ++ document) = false) :
    (root.putAt (place ++ [name]) entry).documents.filter keep = root.documents.filter keep := by
  induction place generalizing root keep with
  | nil =>
    have hnone : (entryDocuments name entry).filter keep = [] :=
      List.filter_eq_nil_iff.2 fun document hdocument => by
        rw [show keep document = false from hkeep document hdocument]
        exact Bool.false_ne_true
    rw [filter_documents, filter_documents]
    show inNameOrder (keptByEntry keep (root.put name entry)) = _
    rw [keptByEntry_put_of_free hfree, hnone, ← inNameOrder_filter, List.filter_append]
    simp only [List.isEmpty_nil, Bool.not_true, Bool.false_eq_true, not_false_eq_true,
      List.filter_cons_of_neg, List.filter_nil, List.append_nil]
    exact inNameOrder_filter _
  | cons step place ih =>
    obtain ⟨listable, inside, hfind, hbelow⟩ := hfolder.cons
    have hne : place ++ [name] ≠ [] := List.append_ne_nil_of_right_ne_nil _ (List.cons_ne_nil _ _)
    rw [List.cons_append, at?_cons hne, hfind] at hfree
    have hinside : (inside.putAt (place ++ [name]) entry).documents.filter (keep ∘ (step :: ·)) =
        inside.documents.filter (keep ∘ (step :: ·)) := ih hbelow hfree hkeep
    rw [List.cons_append, putAt_cons hne hfind, filter_documents, filter_documents,
      keptByEntry_put hfind]
    rw [entryDocuments_folder, entryDocuments_folder]
    split
    · rfl
    · rw [List.filter_map, List.filter_map, hinside]

end Folder

end Bindery
