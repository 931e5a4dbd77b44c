import Bindery.Proofs.Index.Visit
import Mathlib.Data.Char
import Mathlib.Data.List.Lex

set_option autoImplicit false

/-! # Which documents a visit finds, and in which order

Where a document stands is said place by place, without reference to a visit: `HoldsDocument` looks
at one entry and at the names above it. A visit finds the documents to which a way of listable
directories leads (`mem_documents_iff`), each of them in its turn (`pairwise_documents`): places are
compared name by name, so a directory and the files beside it come in the order of their names,
whatever is inside. Neither depends on the order in which directories list their entries. -/

namespace Bindery

namespace Text

theorem lt_iff_of_ne {x y : Char} (h : x.toNat ≠ y.toNat) (a b : Text) :
    x :: a < y :: b ↔ x.toNat < y.toNat := by
  have hne : x ≠ y := fun heq => h (congrArg Char.toNat heq)
  simp only [List.cons_lt_cons_iff, hne, false_and, or_false]
  exact Iff.rfl

/-- The order of names is the order of their characters. -/
theorem le_iff {a b : Text} : le a b = true ↔ a ≤ b := by
  induction a generalizing b with
  | nil => exact iff_of_true rfl (not_lt.1 (List.not_lt_nil b))
  | cons x a ih =>
    cases b with
    | nil => simp [le]
    | cons y b =>
      simp only [le]
      by_cases h : x.toNat = y.toNat
      · obtain rfl : x = y := Char.toNat_inj.1 h
        rw [if_pos rfl, ih, ← not_lt, ← not_lt, List.cons_lt_cons_iff]
        simp
      · rw [if_neg h, decide_eq_true_eq, ← not_lt, lt_iff_of_ne (Ne.symm h)]
        omega

end Text

namespace Folder

variable {root inside : Folder} {name : Text} {entry : Entry} {place : Location}

/-! ## Names that tell entries apart -/

/-- No directory of the tree has two entries with one name. -/
def HasDistinctNames : Folder → Prop
  | .empty => True
  | .file name _ rest => rest.find? name = none ∧ HasDistinctNames rest
  | .link name _ rest => rest.find? name = none ∧ HasDistinctNames rest
  | .folder name _ inside rest =>
    rest.find? name = none ∧ HasDistinctNames inside ∧ HasDistinctNames rest

/-- Whether names are distinct can be computed. -/
def decideHasDistinctNames : (root : Folder) → Decidable (HasDistinctNames root)
  | .empty => isTrue trivial
  | .file _ _ rest =>
    have := decideHasDistinctNames rest
    inferInstanceAs (Decidable (_ ∧ _))
  | .link _ _ rest =>
    have := decideHasDistinctNames rest
    inferInstanceAs (Decidable (_ ∧ _))
  | .folder _ _ inside rest =>
    have := decideHasDistinctNames inside
    have := decideHasDistinctNames rest
    inferInstanceAs (Decidable (_ ∧ _ ∧ _))

instance (root : Folder) : Decidable (HasDistinctNames root) := decideHasDistinctNames root

theorem hasDistinctNames_cons {rest : Folder} :
    (cons name entry rest).HasDistinctNames ↔
      rest.find? name = none ∧ entry.inside.HasDistinctNames ∧ rest.HasDistinctNames := by
  cases entry <;> simp [cons, HasDistinctNames, Entry.inside]

theorem find?_eq_none_iff : root.find? name = none ↔ ∀ e ∈ root.toList, e.1 ≠ name := by
  induction root using cons_induction with
  | empty => simp [find?, toList]
  | cons n e rest ih =>
    rw [find?_cons, toList_cons, List.forall_mem_cons, ← ih]
    by_cases hn : n = name <;> simp [hn]

theorem HasDistinctNames.nodup (h : root.HasDistinctNames) :
    root.toList.Pairwise fun a b => a.1 ≠ b.1 := by
  induction root using cons_induction with
  | empty => exact .nil
  | cons n e rest ih =>
    obtain ⟨hfind, _, hrest⟩ := hasDistinctNames_cons.1 h
    rw [toList_cons, List.pairwise_cons]
    exact ⟨fun other hother => Ne.symm (find?_eq_none_iff.1 hfind other hother), ih hrest⟩

/-- An entry is found under its name. -/
theorem HasDistinctNames.find?_eq_some_iff (h : root.HasDistinctNames) :
    root.find? name = some entry ↔ (name, entry) ∈ root.toList := by
  induction root using cons_induction with
  | empty => simp [find?, toList]
  | cons n e rest ih =>
    obtain ⟨hfind, _, hrest⟩ := hasDistinctNames_cons.1 h
    rw [find?_cons, toList_cons, List.mem_cons, ← ih hrest]
    by_cases hn : n = name
    · subst hn
      simp [hfind, eq_comm]
    · simp [hn, Ne.symm hn]

theorem HasDistinctNames.find? (h : root.HasDistinctNames) (hfind : root.find? name = some entry) :
    entry.inside.HasDistinctNames := by
  induction root using cons_induction with
  | empty => cases hfind
  | cons n e rest ih =>
    obtain ⟨_, hinside, hrest⟩ := hasDistinctNames_cons.1 h
    rw [find?_cons] at hfind
    by_cases hn : n = name
    · rw [if_pos hn] at hfind
      cases hfind
      exact hinside
    · rw [if_neg hn] at hfind
      exact ih hrest hfind

/-- A tree with distinct names has them below every place. -/
theorem HasDistinctNames.at? (h : root.HasDistinctNames) (hat : root.at? place = some entry) :
    entry.inside.HasDistinctNames := by
  induction place generalizing root with
  | nil =>
    cases hat
    exact h
  | cons name place ih =>
    by_cases hplace : place = []
    · subst hplace
      exact h.find? hat
    · obtain ⟨listable, inside, hfind, hbelow⟩ := exists_folder_of_cons hplace hat
      exact ih (h.find? hfind) hbelow

/-! ## Documents at places -/

/-- A document stands at a place below the folder: an entry that is no directory and has the
extension of documents, and neither its name nor one above it starts with a dot. -/
structure HoldsDocument (root : Folder) (place : Location) : Prop where
  entry : ∃ entry, root.at? place = some entry ∧
    ∀ listable inside, entry ≠ .folder listable inside
  extension : ∃ name, place.getLast? = some name ∧
    (Path.splitName name).2 = some documentExtension
  shown : ∀ name ∈ place, name.head? ≠ some '.'

/-- All directories that a place is in, from the folder on, can be listed. -/
def ListsAbove (root : Folder) (place : Location) : Prop :=
  ∀ above below, place = above ++ below → below ≠ [] →
    ∃ inside, root.at? above = some (.folder true inside)

theorem HoldsDocument.ne_nil (h : root.HoldsDocument place) : place ≠ [] := by
  rintro rfl
  obtain ⟨_, hlast, _⟩ := h.extension
  cases hlast

theorem isHidden_eq_false_iff : isHidden name = false ↔ name.head? ≠ some '.' := by
  simp [isHidden]

theorem holdsDocument_singleton_iff : root.HoldsDocument [name] ↔
    isDocumentName name = true ∧
      ∃ entry, root.find? name = some entry ∧
        ∀ listable inside, entry ≠ .folder listable inside := by
  simp only [isDocumentName, Bool.and_eq_true, Bool.not_eq_true', beq_iff_eq,
    isHidden_eq_false_iff]
  constructor
  · rintro ⟨hentry, ⟨_, hlast, hextension⟩, hshown⟩
    cases hlast
    exact ⟨⟨hshown name (List.mem_singleton_self name), hextension⟩, hentry⟩
  · rintro ⟨⟨hshown, hextension⟩, hentry⟩
    exact ⟨hentry, ⟨name, rfl, hextension⟩, List.forall_mem_singleton.2 hshown⟩

theorem holdsDocument_cons_iff (hplace : place ≠ []) : root.HoldsDocument (name :: place) ↔
    isHidden name = false ∧ ∃ listable inside,
      root.find? name = some (.folder listable inside) ∧ inside.HoldsDocument place := by
  have hlast : (name :: place).getLast? = place.getLast? := by
    rw [List.getLast?_cons, List.getLast?_eq_some_getLast hplace, Option.getD_some]
  rw [isHidden_eq_false_iff]
  constructor
  · rintro ⟨⟨entry, hat, hentry⟩, hextension, hshown⟩
    obtain ⟨listable, inside, hfind, hbelow⟩ := exists_folder_of_cons hplace hat
    rw [hlast] at hextension
    rw [List.forall_mem_cons] at hshown
    exact ⟨hshown.1, listable, inside, hfind, ⟨entry, hbelow, hentry⟩, hextension, hshown.2⟩
  · rintro ⟨hname, listable, inside, hfind, ⟨entry, hbelow, hentry⟩, hextension, hshown⟩
    refine ⟨⟨entry, ?_, hentry⟩, hlast ▸ hextension, List.forall_mem_cons.2 ⟨hname, hshown⟩⟩
    rw [at?_cons hplace, hfind]
    exact hbelow

theorem listsAbove_singleton (root : Folder) (name : Text) : root.ListsAbove [name] := by
  intro above below hsplit hbelow
  rcases List.append_eq_singleton_iff.1 hsplit.symm with ⟨rfl, _⟩ | ⟨_, rfl⟩
  · exact ⟨root, rfl⟩
  · exact absurd rfl hbelow

theorem listsAbove_cons_iff (hplace : place ≠ []) {listable : Bool}
    (hfind : root.find? name = some (.folder listable inside)) :
    root.ListsAbove (name :: place) ↔ listable = true ∧ inside.ListsAbove place := by
  have hat : ∀ above, above ≠ [] → root.at? (name :: above) = inside.at? above := by
    intro above habove
    rw [at?_cons habove, hfind]
    rfl
  constructor
  · intro h
    have hfirst : listable = true := by
      obtain ⟨inside', hinside'⟩ := h [name] place rfl hplace
      rw [show root.at? [name] = root.find? name from rfl, hfind] at hinside'
      cases hinside'
      rfl
    refine ⟨hfirst, fun above below hsplit hbelow => ?_⟩
    by_cases habove : above = []
    · exact ⟨inside, habove ▸ rfl⟩
    · rw [← hat above habove]
      exact h (name :: above) below (hsplit ▸ rfl) hbelow
  · rintro ⟨rfl, h⟩ above below hsplit hbelow
    rcases List.cons_eq_append_iff.1 hsplit with ⟨rfl, _⟩ | ⟨above, rfl, hrest⟩
    · exact ⟨root, rfl⟩
    · by_cases habove : above = []
      · exact ⟨inside, habove ▸ hfind⟩
      · rw [hat above habove]
        exact h above below hrest hbelow

/-! ## What a visit finds -/

theorem documentsByEntry_eq (root : Folder) :
    root.documentsByEntry = root.toList.map fun e => (e.1, entryDocuments e.1 e.2) := by
  induction root using cons_induction with
  | empty => rfl
  | cons n e rest ih => rw [documentsByEntry_cons, toList_cons, List.map_cons, ih]

theorem mem_documents_iff_exists : place ∈ root.documents ↔
    ∃ e ∈ root.toList, place ∈ entryDocuments e.1 e.2 := by
  rw [documents, inNameOrder, List.mem_flatMap]
  simp only [List.mem_mergeSort, documentsByEntry_eq, List.mem_map]
  constructor
  · rintro ⟨_, ⟨e, he, rfl⟩, hplace⟩
    exact ⟨e, he, hplace⟩
  · rintro ⟨e, he, hplace⟩
    exact ⟨_, ⟨e, he, rfl⟩, hplace⟩

/-- The documents of an entry are places that start with its name. -/
theorem exists_of_mem_entryDocuments (h : place ∈ entryDocuments name entry) :
    ∃ below, place = name :: below := by
  cases entry with
  | file content =>
    rw [entryDocuments_file] at h
    split at h
    · exact ⟨[], List.mem_singleton.1 h⟩
    · cases h
  | link target =>
    rw [entryDocuments_link] at h
    split at h
    · exact ⟨[], List.mem_singleton.1 h⟩
    · cases h
  | folder listable inside =>
    rw [entryDocuments_folder] at h
    split at h
    · cases h
    · obtain ⟨below, _, rfl⟩ := List.mem_map.1 h
      exact ⟨below, rfl⟩

theorem ne_nil_of_mem_documents (h : place ∈ root.documents) : place ≠ [] := by
  obtain ⟨_, _, hplace⟩ := mem_documents_iff_exists.1 h
  obtain ⟨_, rfl⟩ := exists_of_mem_entryDocuments hplace
  exact List.cons_ne_nil _ _

/-- A document below a name is one of the entry with that name. -/
theorem HasDistinctNames.cons_mem_documents_iff (h : root.HasDistinctNames) :
    name :: place ∈ root.documents ↔
      ∃ entry, root.find? name = some entry ∧ name :: place ∈ entryDocuments name entry := by
  rw [mem_documents_iff_exists]
  constructor
  · rintro ⟨⟨n, e⟩, he, hplace⟩
    obtain ⟨below, hbelow⟩ := exists_of_mem_entryDocuments hplace
    obtain ⟨rfl, -⟩ := List.cons.inj hbelow
    exact ⟨e, h.find?_eq_some_iff.2 he, hplace⟩
  · rintro ⟨e, hfind, hplace⟩
    exact ⟨(name, e), h.find?_eq_some_iff.1 hfind, hplace⟩

theorem singleton_mem_entryDocuments_iff : [name] ∈ entryDocuments name entry ↔
    isDocumentName name = true ∧ ∀ listable inside, entry ≠ .folder listable inside := by
  cases entry with
  | file content => simp [entryDocuments_file]
  | link target => simp [entryDocuments_link]
  | folder listable inside =>
    simp only [ne_eq, Entry.folder.injEq, not_and, entryDocuments_folder]
    constructor
    · intro h
      split at h
      · cases h
      · obtain ⟨below, hbelow, heq⟩ := List.mem_map.1 h
        exact absurd (List.cons.inj heq).2 (ne_nil_of_mem_documents hbelow)
    · rintro ⟨_, h⟩
      exact absurd rfl (h listable inside rfl)

theorem cons_mem_entryDocuments_iff (hplace : place ≠ []) :
    name :: place ∈ entryDocuments name entry ↔
      isHidden name = false ∧ ∃ inside, entry = .folder true inside ∧ place ∈ inside.documents := by
  cases entry with
  | file content => simp [entryDocuments_file, hplace]
  | link target => simp [entryDocuments_link, hplace]
  | folder listable inside =>
    cases listable <;> by_cases hname : isHidden name = true <;>
      simp [entryDocuments_folder, hname]

/-- A visit finds the documents to which listable directories lead. -/
theorem mem_documents_iff (h : root.HasDistinctNames) :
    place ∈ root.documents ↔ root.HoldsDocument place ∧ root.ListsAbove place := by
  induction place generalizing root with
  | nil =>
    constructor
    · exact fun hmem => absurd rfl (ne_nil_of_mem_documents hmem)
    · exact fun hholds => absurd rfl hholds.1.ne_nil
  | cons name place ih =>
    rw [h.cons_mem_documents_iff]
    by_cases hplace : place = []
    · subst hplace
      simp only [holdsDocument_singleton_iff, singleton_mem_entryDocuments_iff,
        listsAbove_singleton, and_true]
      constructor
      · rintro ⟨entry, hfind, hname, hentry⟩
        exact ⟨hname, entry, hfind, hentry⟩
      · rintro ⟨hname, entry, hfind, hentry⟩
        exact ⟨entry, hfind, hname, hentry⟩
    · simp only [cons_mem_entryDocuments_iff hplace, holdsDocument_cons_iff hplace]
      constructor
      · rintro ⟨_, hfind, hname, inside, rfl, hmem⟩
        obtain ⟨hholds, habove⟩ := (ih (h.find? hfind)).1 hmem
        exact ⟨⟨hname, true, inside, hfind, hholds⟩,
          (listsAbove_cons_iff hplace hfind).2 ⟨rfl, habove⟩⟩
      · rintro ⟨⟨hname, listable, inside, hfind, hholds⟩, habove⟩
        obtain ⟨rfl, hinside⟩ := (listsAbove_cons_iff hplace hfind).1 habove
        exact ⟨_, hfind, hname, inside, rfl, (ih (h.find? hfind)).2 ⟨hholds, hinside⟩⟩

/-! ## In which order -/

/-- Entries in order of their names, each with documents in order, make documents in order. -/
theorem pairwise_documents_of_forall (h : root.HasDistinctNames)
    (hentries : ∀ e ∈ root.toList, (entryDocuments e.1 e.2).Pairwise (· < ·)) :
    root.documents.Pairwise (· < ·) := by
  have hperm := List.mergeSort_perm root.documentsByEntry fun a b => Text.le a.1 b.1
  have hsorted : (root.documentsByEntry.mergeSort fun a b => Text.le a.1 b.1).Pairwise
      fun a b => Text.le a.1 b.1 = true :=
    List.pairwise_mergeSort (fun a b c => Text.le_trans a.1 b.1 c.1)
      (fun a b => Text.le_total a.1 b.1) _
  have hdistinct : (root.documentsByEntry.mergeSort fun a b => Text.le a.1 b.1).Pairwise
      fun a b => a.1 ≠ b.1 := by
    refine (hperm.pairwise_iff fun hne => Ne.symm hne).2 ?_
    rw [documentsByEntry_eq, List.pairwise_map]
    exact h.nodup
  have hentry : ∀ {e}, e ∈ root.documentsByEntry.mergeSort (fun a b => Text.le a.1 b.1) →
      ∃ entry, (e.1, entry) ∈ root.toList ∧ e.2 = entryDocuments e.1 entry := by
    intro e he
    rw [hperm.mem_iff, documentsByEntry_eq, List.mem_map] at he
    obtain ⟨⟨n, entry⟩, hmem, rfl⟩ := he
    exact ⟨entry, hmem, rfl⟩
  rw [documents, inNameOrder, List.pairwise_flatMap]
  constructor
  · intro e he
    obtain ⟨entry, hmem, heq⟩ := hentry he
    rw [heq]
    exact hentries _ hmem
  · refine (hsorted.and hdistinct).imp_of_mem ?_
    rintro a b ha hb ⟨hle, hne⟩ x hx y hy
    obtain ⟨first, _, hfirst⟩ := hentry ha
    obtain ⟨second, _, hsecond⟩ := hentry hb
    obtain ⟨_, rfl⟩ := exists_of_mem_entryDocuments (hfirst ▸ hx)
    obtain ⟨_, rfl⟩ := exists_of_mem_entryDocuments (hsecond ▸ hy)
    exact List.cons_lt_cons_iff.2 (.inl (lt_of_le_of_ne (Text.le_iff.1 hle) hne))

theorem pairwise_entryDocuments
    (hinside : ∀ listable inside, entry = .folder listable inside →
      inside.documents.Pairwise (· < ·)) :
    (entryDocuments name entry).Pairwise (· < ·) := by
  cases entry with
  | file content =>
    rw [entryDocuments_file]
    split <;> simp
  | link target =>
    rw [entryDocuments_link]
    split <;> simp
  | folder listable inside =>
    rw [entryDocuments_folder]
    split
    · exact .nil
    · refine List.pairwise_map.2 ((hinside listable inside rfl).imp fun hlt => ?_)
      exact List.cons_lt_cons_iff.2 (.inr ⟨rfl, hlt⟩)

/-- A visit finds documents in the order of their places, and none of them twice. -/
theorem pairwise_documents (h : root.HasDistinctNames) : root.documents.Pairwise (· < ·) := by
  have hentries : ∀ e ∈ root.toList, (entryDocuments e.1 e.2).Pairwise (· < ·) := by
    induction root with
    | empty => simp [toList]
    | file name content rest ih =>
      rw [toList, List.forall_mem_cons]
      exact ⟨pairwise_entryDocuments (by simp), ih h.2⟩
    | link name target rest ih =>
      rw [toList, List.forall_mem_cons]
      exact ⟨pairwise_entryDocuments (by simp), ih h.2⟩
    | folder name listable inside rest ihInside ih =>
      rw [toList, List.forall_mem_cons]
      have hinside := pairwise_documents_of_forall h.2.1 (ihInside h.2.1)
      refine ⟨pairwise_entryDocuments ?_, ih h.2.2⟩
      rintro _ _ ⟨⟩
      exact hinside
  exact pairwise_documents_of_forall h hentries

end Folder

end Bindery
