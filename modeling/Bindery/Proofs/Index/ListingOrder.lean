import Bindery.Proofs.Index.Coverage
import Mathlib.Data.List.Sort

set_option autoImplicit false

/-! # Documents and the order of listings

Directories list their entries in any order. `Folder.Reordered` relates trees that differ in nothing
else. In such trees the same stands at every place (`Folder.Reordered.kindAt?_eq`), and the
documents at places are found in the order of the places, so they are found in the same order
(`Folder.documents_congr`). `documentPaths_of_isProper` sums up what is found below a directory:
each visible document once, in the order of the names that their paths go through. -/

namespace Bindery

open Workspace

/-! ## Trees with the same entries in another order -/

/-- The trees have the same entries, but their directories may list them in different orders. -/
inductive Folder.Reordered : Folder → Folder → Prop
  | empty : Reordered .empty .empty
  /-- The first entry is the same. -/
  | same {rest rest' : Folder} (name : Text) (entry : Entry) :
      Reordered rest rest' → Reordered (.cons name entry rest) (.cons name entry rest')
  /-- The first entry is a directory that may list its own entries in another order. -/
  | folder {inside inside' rest rest' : Folder} (name : Text) (listable : Bool) :
      Reordered inside inside' → Reordered rest rest' →
      Reordered (.folder name listable inside rest) (.folder name listable inside' rest')
  /-- The first two entries have changed places. -/
  | swap (first second : Text) (entry entry' : Entry) (rest : Folder) :
      Reordered (.cons first entry (.cons second entry' rest))
        (.cons second entry' (.cons first entry rest))
  | trans {root root' root'' : Folder} :
      Reordered root root' → Reordered root' root'' → Reordered root root''

/-- The files are the same, but for the order in which directories list their entries. -/
structure Workspace.Reordered (w w' : Workspace) : Prop where
  here : w'.here = w.here
  root : Folder.Reordered w.root w'.root

namespace Folder

variable {root root' : Folder} {place : Location} {name : Text} {entry : Entry}

theorem Reordered.refl (root : Folder) : Reordered root root := by
  induction root using cons_induction with
  | empty => exact .empty
  | cons name entry rest ih => exact .same name entry ih

theorem Reordered.perm_names (h : Reordered root root') :
    (root.toList.map (·.1)).Perm (root'.toList.map (·.1)) := by
  induction h with
  | empty => exact .nil
  | same name entry _ ih =>
    rw [toList_cons, toList_cons]
    exact ih.cons name
  | folder name listable _ _ _ ih => exact ih.cons name
  | swap first second entry entry' rest =>
    simp only [toList_cons, List.map_cons]
    exact .swap second first _
  | trans _ _ ih ih' => exact ih.trans ih'

theorem Reordered.find?_eq_none_iff (h : Reordered root root') :
    root'.find? name = none ↔ root.find? name = none := by
  have hnames : ∀ root : Folder, root.find? name = none ↔ name ∉ root.toList.map (·.1) := by
    intro root
    rw [Folder.find?_eq_none_iff, List.mem_map]
    simp only [not_exists, not_and, ne_eq]
  rw [hnames, hnames, h.perm_names.mem_iff]

theorem Reordered.hasDistinctNames (h : Reordered root root') (hdistinct : root.HasDistinctNames) :
    root'.HasDistinctNames := by
  induction h with
  | empty => exact hdistinct
  | same name entry hrest ih =>
    rw [hasDistinctNames_cons] at hdistinct ⊢
    exact ⟨hrest.find?_eq_none_iff.2 hdistinct.1, hdistinct.2.1, ih hdistinct.2.2⟩
  | folder name listable hinside hrest ihInside ih =>
    exact ⟨hrest.find?_eq_none_iff.2 hdistinct.1, ihInside hdistinct.2.1, ih hdistinct.2.2⟩
  | swap first second entry entry' rest =>
    simp only [hasDistinctNames_cons] at hdistinct ⊢
    obtain ⟨hfirst, hinside, hsecond, hinside', hrest⟩ := hdistinct
    rw [find?_cons] at hfirst
    split at hfirst
    · cases hfirst
    · next hne =>
      refine ⟨?_, hinside', hfirst, hinside, hrest⟩
      rw [find?_cons, if_neg (Ne.symm hne)]
      exact hsecond
  | trans _ _ ih ih' => exact ih' (ih hdistinct)

/-! ## The same at every place -/

/-- What stands at a place is told by the entry with the first name of the place. -/
theorem kindAt?_cons (name next : Text) (place : Location) (entry : Entry) (rest : Folder) :
    (cons name entry rest).kindAt? (next :: place) =
      if name = next then if place = [] then some entry.kind else entry.inside.kindAt? place
      else rest.kindAt? (next :: place) := by
  by_cases hplace : place = []
  · subst hplace
    rw [if_pos rfl, kindAt?, kindAt?]
    show ((cons name entry rest).find? next).map Entry.kind = _
    rw [find?_cons]
    split <;> rfl
  · rw [if_neg hplace, kindAt?, kindAt?, kindAt?, at?_cons hplace, at?_cons hplace, find?_cons]
    split <;> rfl

/-- At every place stands the same, whatever the order of the entries is. -/
theorem Reordered.kindAt?_eq (h : Reordered root root') (hdistinct : root.HasDistinctNames)
    (place : Location) : root'.kindAt? place = root.kindAt? place := by
  cases place with
  | nil => rfl
  | cons next place =>
    induction h generalizing next place with
    | empty => rfl
    | same name entry _ ih =>
      rw [kindAt?_cons, kindAt?_cons, ih (hasDistinctNames_cons.1 hdistinct).2.2]
    | @folder inside inside' rest rest' name listable _ _ ihInside ih =>
      have hinside : inside'.kindAt? place = inside.kindAt? place := by
        cases place with
        | nil => rfl
        | cons next' place => exact ihInside hdistinct.2.1 next' place
      have hrest := ih hdistinct.2.2 next place
      show (cons name (.folder listable inside') rest').kindAt? (next :: place) =
        (cons name (.folder listable inside) rest).kindAt? (next :: place)
      rw [kindAt?_cons, kindAt?_cons, hrest]
      simp only [Entry.kind, Entry.inside, hinside]
    | swap first second entry entry' rest =>
      have hne : first ≠ second := by
        rintro rfl
        have hfree := (hasDistinctNames_cons.1 hdistinct).1
        rw [find?_cons, if_pos rfl] at hfree
        cases hfree
      simp only [kindAt?_cons]
      by_cases hfirst : first = next
      · rw [if_pos hfirst, if_pos hfirst, if_neg (hfirst ▸ hne.symm)]
      · rw [if_neg hfirst, if_neg hfirst]
    | trans h _ ih ih' =>
      rw [ih' (h.hasDistinctNames hdistinct), ih hdistinct]

/-- Below a directory stands what is inside it. -/
theorem kindAt?_append {inside : Folder} (hat : root.at? place = some (.folder true inside))
    (below : Location) : root.kindAt? (place ++ below) = inside.kindAt? below := by
  by_cases hbelow : below = []
  · subst hbelow
    rw [List.append_nil, kindAt?, hat]
    rfl
  · rw [kindAt?, at?_append hbelow, hat]
    rfl

/-! ## The same documents -/

variable (h : ∀ place, root'.kindAt? place = root.kindAt? place)

include h

theorem HoldsDocument.congr (hholds : root.HoldsDocument place) : root'.HoldsDocument place := by
  obtain ⟨⟨entry, hat, hentry⟩, hextension, hshown⟩ := hholds
  refine ⟨?_, hextension, hshown⟩
  cases entry with
  | file content =>
    have hat' := h place
    rw [kindAt?_eq_file_iff.2 hat] at hat'
    exact ⟨_, kindAt?_eq_file_iff.1 hat', by simp⟩
  | link target =>
    have hat' := h place
    rw [kindAt?_eq_link_iff.2 hat] at hat'
    exact ⟨_, kindAt?_eq_link_iff.1 hat', by simp⟩
  | folder listable inside => exact absurd rfl (hentry listable inside)

theorem ListsAbove.congr (hlists : root.ListsAbove place) : root'.ListsAbove place := by
  intro above below hsplit hbelow
  have hat := kindAt?_eq_folder_iff.2 (hlists above below hsplit hbelow)
  exact kindAt?_eq_folder_iff.1 ((h above).trans hat)

/-- Where the same stands at every place, the same documents are found in the same order. -/
theorem documents_congr (hdistinct : root.HasDistinctNames)
    (hdistinct' : root'.HasDistinctNames) : root'.documents = root.documents := by
  refine (pairwise_documents hdistinct').eq_of_mem_iff (pairwise_documents hdistinct) fun place => ?_
  rw [mem_documents_iff hdistinct', mem_documents_iff hdistinct]
  constructor
  · rintro ⟨hholds, hlists⟩
    exact ⟨hholds.congr fun place => (h place).symm, hlists.congr fun place => (h place).symm⟩
  · rintro ⟨hholds, hlists⟩
    exact ⟨hholds.congr h, hlists.congr h⟩

end Folder

theorem Workspace.Reordered.grows {w w' : Workspace} (h : w.Reordered w')
    (hdistinct : w.root.HasDistinctNames) : w.Grows w' :=
  ⟨h.here, Folder.grows_of_kindAt? fun place => .inl (h.root.kindAt?_eq hdistinct place)⟩

theorem Workspace.Reordered.grows' {w w' : Workspace} (h : w.Reordered w')
    (hdistinct : w.root.HasDistinctNames) : w'.Grows w :=
  ⟨h.here.symm,
    Folder.grows_of_kindAt? fun place => .inl (h.root.kindAt?_eq hdistinct place).symm⟩

namespace Index

variable {w w' : Workspace} {root : Path} {place : Location}

/-- A directory has the same documents when its listings are reordered. -/
theorem visited_reordered (h : w.Reordered w') (hdistinct : w.root.HasDistinctNames)
    (root : Path) : visited w' root = visited w root := by
  cases hlist : w.list root with
  | error e =>
    -- a directory that can be listed now could be listed before
    cases hlist' : w'.list root with
    | error e' => rw [visited, visited, hlist, hlist']
    | ok folder' =>
      obtain ⟨base, hresolve'⟩ := list_eq_ok_iff.1 hlist'
      obtain ⟨folder, hresolve⟩ := (h.grows' hdistinct).resolve_folder hresolve'
      rw [list_eq_ok_iff.2 ⟨base, hresolve⟩] at hlist
      cases hlist
  | ok folder =>
    obtain ⟨base, hresolve⟩ := list_eq_ok_iff.1 hlist
    obtain ⟨folder', hresolve'⟩ := (h.grows hdistinct).resolve_folder hresolve
    have hbase : w.root.at? base = some (.folder true folder) :=
      (resolveNames_eq_ok_iff.1 hresolve).2.at?_place
    have hbase' : w'.root.at? base = some (.folder true folder') :=
      (resolveNames_eq_ok_iff.1 hresolve').2.at?_place
    have hkind : ∀ place, folder'.kindAt? place = folder.kindAt? place := by
      intro place
      have hwhole := h.root.kindAt?_eq hdistinct (base ++ place)
      rwa [Folder.kindAt?_append hbase, Folder.kindAt?_append hbase'] at hwhole
    have hdocuments : folder'.documents = folder.documents :=
      Folder.documents_congr hkind (hdistinct.at? hbase)
        ((h.root.hasDistinctNames hdistinct).at? hbase')
    rw [visited, visited, hlist, list_eq_ok_iff.2 ⟨base, hresolve'⟩]
    simp only [visit, hdocuments]

/-- The path of a document goes through the names of the directory's path and those of its place. -/
theorem names_of_mem_visited (hw : w.IsProper) (hdistinct : w.root.HasDistinctNames)
    (hplace : place ∈ visited w root) : names (pathBelow root place) = names root ++ place := by
  cases hlist : w.list root with
  | error e =>
    rw [visited, hlist] at hplace
    cases hplace
  | ok folder =>
    obtain ⟨base, hresolve⟩ := list_eq_ok_iff.1 hlist
    obtain ⟨hsystem, hleads⟩ := resolveNames_eq_ok_iff.1 hresolve
    have hbase : w.root.at? base = some (.folder true folder) := hleads.at?_place
    rw [visited, hlist] at hplace
    have hholds : folder.HoldsDocument place :=
      ((Folder.mem_documents_iff (hdistinct.at? hbase)).1 (List.mem_filter.1 hplace).1).1
    exact (names_pathBelow hsystem.nonempty hsystem.noNul
      (isPiece_of_holdsDocument hw hlist hholds) hholds.ne_nil).1

/-- Documents are found in the order of the names that their paths go through. -/
theorem pairwise_documentPaths (hw : w.IsProper) (hdistinct : w.root.HasDistinctNames)
    (root : Path) :
    (documentPaths w root).Pairwise fun first second => names first.1 < names second.1 := by
  rw [documentPaths_eq_map, List.pairwise_map]
  refine (pairwise_visited hdistinct).imp_of_mem fun {first second} hfirst hsecond hlt => ?_
  show names (pathBelow root first) < names (pathBelow root second)
  rw [names_of_mem_visited hw hdistinct hfirst, names_of_mem_visited hw hdistinct hsecond]
  exact List.append_left_lt hlt

theorem mem_documentPaths_iff (hw : w.IsProper) (hdistinct : w.root.HasDistinctNames)
    {document : Path × Text} : document ∈ documentPaths w root ↔
      ∃ place, IsVisible w root place ∧ document = documentAt root place := by
  rw [documentPaths_eq_map, List.mem_map]
  simp only [mem_visited_iff hw hdistinct, eq_comm]

/-- What is found below a directory are the visible documents, each of them once, in the order of
the names that their paths go through. A directory that cannot be listed has none of them, and the
order in which directories list their entries does not matter. -/
theorem documentPaths_of_isProper (hw : w.IsProper) (hdistinct : w.root.HasDistinctNames)
    (root : Path) :
    (∀ document, document ∈ documentPaths w root ↔
        ∃ place, IsVisible w root place ∧ document = documentAt root place) ∧
      (∀ place, IsVisible w root place →
        (documentPaths w root).count (documentAt root place) = 1) ∧
      ((documentPaths w root).Pairwise fun first second => names first.1 < names second.1) ∧
      ∀ w', w.Reordered w' → documentPaths w' root = documentPaths w root := by
  have hsorted := pairwise_documentPaths hw hdistinct root
  have hnodup : (documentPaths w root).Nodup :=
    hsorted.imp fun hlt => ne_of_apply_ne (fun document => names document.1) hlt.ne
  refine ⟨fun _ => mem_documentPaths_iff hw hdistinct, fun place hvisible => ?_, hsorted,
    fun w' h => ?_⟩
  · exact List.count_eq_one_of_mem hnodup
      ((mem_documentPaths_iff hw hdistinct).2 ⟨place, hvisible, rfl⟩)
  · rw [documentPaths_eq_map, documentPaths_eq_map, visited_reordered h hdistinct]

/-! ### A directory in two orders -/

/-- The entries that stand behind the others in both orders. -/
def shelfEnds : Folder :=
  .link "a-b.md".toList "nowhere".toList
    (.folder "locked".toList false (.file "z.md".toList [] .empty) .empty)

/-- A directory with a document, a directory of nearly the same name with a document and a hidden
file, a link that counts as a document, and a directory that cannot be listed. -/
def shelves : Workspace :=
  ⟨.folder "book".toList true
    (.file "a.md".toList []
      (.folder "a".toList true (.file ".y.md".toList [] (.file "x.md".toList [] .empty)) shelfEnds))
    .empty, []⟩

/-- The same directory when its listings begin with other entries. -/
def shuffledShelves : Workspace :=
  ⟨.folder "book".toList true
    (.folder "a".toList true (.file "x.md".toList [] (.file ".y.md".toList [] .empty))
      (.file "a.md".toList [] shelfEnds))
    .empty, []⟩

theorem shelves_reordered : shelves.Reordered shuffledShelves := by
  refine ⟨rfl, .folder _ true (.trans (.swap "a.md".toList "a".toList (.file []) (.folder true _) _)
    ?_) .empty⟩
  exact .folder _ true (.swap ".y.md".toList "x.md".toList (.file []) (.file []) .empty) (.refl _)

/-- What is inside the directory `a` comes before the documents beside it, in both orders. -/
theorem documentPaths_of_isProper_shelves :
    shelves.IsProper ∧ shelves.root.HasDistinctNames ∧ shelves.Reordered shuffledShelves ∧
      documentPaths shuffledShelves "book".toList =
        [("book/a/x.md".toList, "x.md".toList), ("book/a-b.md".toList, "a-b.md".toList),
          ("book/a.md".toList, "a.md".toList)] ∧
      (∃ place, IsVisible shelves "book".toList place ∧
        ("book/a-b.md".toList, "a-b.md".toList) = documentAt "book".toList place) ∧
      ¬ IsVisible shelves "book".toList ["locked".toList, "z.md".toList] := by
  have hproper : shelves.IsProper := ⟨Folder.hasFolder_nil _, by decide⟩
  have hdistinct : shelves.root.HasDistinctNames := by
    decide
  obtain ⟨hmem, hcount, _, hreordered⟩ :=
    documentPaths_of_isProper hproper hdistinct "book".toList
  have hpaths : documentPaths shelves "book".toList =
      [("book/a/x.md".toList, "x.md".toList), ("book/a-b.md".toList, "a-b.md".toList),
        ("book/a.md".toList, "a.md".toList)] := by
    cbv
  refine ⟨hproper, hdistinct, shelves_reordered,
    (hreordered _ shelves_reordered).trans hpaths, (hmem _).1 ?_, fun hvisible => ?_⟩
  · rw [hpaths]
    simp
  · -- it would be found once
    have hfound := hcount _ hvisible
    rw [hpaths] at hfound
    exact absurd hfound (by decide)

end Index

end Bindery
