import Bindery.Proofs.Files.Stays
import Bindery.Proofs.Index.Documents
import Bindery.Proofs.Index.Growth
import Bindery.Proofs.Index.Title
import Mathlib

set_option autoImplicit false

/-! # What the index of a directory covers

A document below a directory is visible when every directory it is in can be listed. The visible
documents are what is visited, in the order of their places (`mem_visited_iff`, `pairwise_visited`).
So the index of a directory can be told without a visit (`build_of_isVisible`): it has a record for
each stem of a visible document, made from the document with that stem that comes last, and the
first visible document that cannot be read is the error. -/

namespace Bindery

open Workspace

/-! ## The last of related elements -/

/-- Lists with related elements have related last elements, or none. -/
theorem getLast?_of_forall₂ {α β : Type} {R : α → β → Prop} {xs : List α} {ys : List β}
    (h : List.Forall₂ R xs ys) : Option.Rel R xs.getLast? ys.getLast? := by
  have hreverse := List.forall₂_reverse_iff.2 h
  rw [List.getLast?_eq_head?_reverse, List.getLast?_eq_head?_reverse]
  generalize xs.reverse = first at hreverse ⊢
  generalize ys.reverse = second at hreverse ⊢
  cases hreverse with
  | nil => exact .none
  | cons hlast _ => exact .some hlast

/-- The last element of an ascending list is the greatest. -/
theorem le_of_getLast? {α : Type} [Preorder α] {xs : List α} {x y : α}
    (h : xs.Pairwise (· < ·)) (hlast : xs.getLast? = some x) (hy : y ∈ xs) : y ≤ x := by
  obtain ⟨front, rfl⟩ := List.getLast?_eq_some_iff.1 hlast
  rw [List.pairwise_append] at h
  rcases List.mem_append.1 hy with hy | hy
  · exact (h.2.2 y hy x (List.mem_singleton_self x)).le
  · exact (List.mem_singleton.1 hy).le

namespace Index

variable {w : Workspace} {root : Path} {folder : Folder} {place : Location} {identifier : Text}
  {index : Index} {record : Record}

/-! ## Visible documents -/

/-- A document stands at a place below the directory that a path leads to. -/
def HoldsDocument (w : Workspace) (root : Path) (place : Location) : Prop :=
  ∃ listable inside, w.entry root = .ok (.folder listable inside) ∧ inside.HoldsDocument place

/-- All directories that a place is in, from the one that the path leads to on, can be listed. -/
def ListsAbove (w : Workspace) (root : Path) (place : Location) : Prop :=
  ∀ above below, place = above ++ below → below ≠ [] →
    ∃ inside, w.list (pathBelow root above) = .ok inside

/-- A document stands at the place, and all directories that it is in can be listed. -/
structure IsVisible (w : Workspace) (root : Path) (place : Location) : Prop where
  holds : HoldsDocument w root place
  lists : ListsAbove w root place

/-- The places that are visited below a directory, in order. -/
def visited (w : Workspace) (root : Path) : List Location :=
  match w.list root with
  | .error _ => []
  | .ok folder => visit root folder

/-- The stem of the name at a place. -/
def stemAt (place : Location) : Text := (Path.splitName (place.getLast?.getD [])).1

theorem documentPaths_eq_map (w : Workspace) (root : Path) :
    documentPaths w root = (visited w root).map (documentAt root) := by
  rw [documentPaths, visited]
  cases w.list root <;> rfl

theorem list_eq_ok_iff {p : Path} : w.list p = .ok folder ↔
    ∃ place, w.resolve p = .ok (.found place (.folder true folder)) := by
  rw [list, entry]
  rcases w.resolve p with _ | (⟨_, _ | _ | ⟨_ | _, _⟩⟩ | _) <;> simp

theorem pathBelow_append (root : Path) (above below : Location) :
    pathBelow root (above ++ below) = pathBelow (pathBelow root above) below :=
  List.foldl_append

/-- The path of a place starts with that of the directory. -/
theorem prefix_pathBelow (hnames : ∀ name ∈ place, IsPiece name) (root : Path) :
    root <+: pathBelow root place := by
  induction place generalizing root with
  | nil => exact List.prefix_rfl
  | cons name place ih =>
    rw [List.forall_mem_cons] at hnames
    exact (prefix_join hnames.1.not_isAbsolute).trans (ih hnames.2 (Path.join root name))

/-- The path of a directory above a place is no longer than that of the place. -/
theorem byteLength_pathBelow_le {above below : Location}
    (hnames : ∀ name ∈ below, IsPiece name) :
    Text.byteLength (pathBelow root above) ≤ Text.byteLength (pathBelow root (above ++ below)) := by
  rw [pathBelow_append]
  obtain ⟨rest, hrest⟩ := prefix_pathBelow hnames (pathBelow root above)
  rw [← hrest, Text.byteLength_append]
  exact Nat.le_add_right _ _

/-- A directory below one that can be listed can be listed itself exactly if it may be and its path
is not too long. -/
theorem list_pathBelow_iff (hw : w.IsProper) (hlist : w.list root = .ok folder)
    {above : Location} {listable : Bool} {inside : Folder}
    (hat : folder.at? above = some (.folder listable inside)) :
    (∃ inside, w.list (pathBelow root above) = .ok inside) ↔
      listable = true ∧ Text.byteLength (pathBelow root above) ≤ pathLimit := by
  obtain ⟨base, hresolve⟩ := list_eq_ok_iff.1 hlist
  have hshort : (∃ inside, w.list (pathBelow root above) = .ok inside) →
      Text.byteLength (pathBelow root above) ≤ pathLimit := by
    rintro ⟨_, hbelow⟩
    obtain ⟨_, hbelow⟩ := list_eq_ok_iff.1 hbelow
    exact (resolveNames_eq_ok_iff.1 hbelow).1.short
  by_cases habove : above = []
  · subst habove
    cases hat
    exact ⟨fun h => ⟨rfl, hshort h⟩, fun _ => ⟨folder, hlist⟩⟩
  · have hbase : w.root.at? base = some (.folder true folder) :=
      (resolveNames_eq_ok_iff.1 hresolve).2.at?_place
    have hplace : w.root.at? (base ++ above) = some (.folder listable inside) := by
      rw [Folder.at?_append habove, hbase]
      exact hat
    have hnames : ∀ name ∈ above, IsName name := fun name hname =>
      (hw.root.at? hplace).1 name (List.mem_append_right base hname)
    constructor
    · intro h
      have hbelow := resolve_pathBelow hresolve hplace (by simp) habove hnames (hshort h)
      obtain ⟨_, h⟩ := h
      obtain ⟨_, hfound⟩ := list_eq_ok_iff.1 h
      rw [hbelow] at hfound
      cases hfound
      exact ⟨rfl, (resolveNames_eq_ok_iff.1 hbelow).1.short⟩
    · rintro ⟨rfl, hshort⟩
      exact ⟨inside, list_eq_ok_iff.2
        ⟨_, resolve_pathBelow hresolve hplace (by simp) habove hnames hshort⟩⟩

/-- The place of a document has proper names. -/
theorem isPiece_of_holdsDocument (hw : w.IsProper) (hlist : w.list root = .ok folder)
    (hholds : folder.HoldsDocument place) : ∀ name ∈ place, IsPiece name := by
  intro name hname
  obtain ⟨base, hresolve⟩ := list_eq_ok_iff.1 hlist
  have hbase : w.root.at? base = some (.folder true folder) :=
    (resolveNames_eq_ok_iff.1 hresolve).2.at?_place
  obtain ⟨entry, hat, _⟩ := hholds.entry
  have hplace : w.root.at? (base ++ place) = some entry := by
    rw [Folder.at?_append hholds.ne_nil, hbase]
    exact hat
  exact ((hw.root.at? hplace).1 name (List.mem_append_right base hname)).toIsPiece

/-- The visible documents are those that are visited. -/
theorem mem_visited_iff (hw : w.IsProper) (hdistinct : w.root.HasDistinctNames) :
    place ∈ visited w root ↔ IsVisible w root place := by
  cases hlist : w.list root with
  | error e =>
    simp only [visited, hlist, List.not_mem_nil, false_iff]
    rintro ⟨⟨_, _, _, hholds⟩, hlists⟩
    obtain ⟨_, hroot⟩ := hlists [] place rfl hholds.ne_nil
    rw [show pathBelow root [] = root from rfl, hlist] at hroot
    cases hroot
  | ok folder =>
    obtain ⟨base, hresolve⟩ := list_eq_ok_iff.1 hlist
    have hbase : w.root.at? base = some (.folder true folder) :=
      (resolveNames_eq_ok_iff.1 hresolve).2.at?_place
    have hentry : w.entry root = .ok (.folder true folder) := by
      rw [entry, hresolve]
    have hfolder : folder.HasDistinctNames := hdistinct.at? hbase
    simp only [visited, hlist, visit, List.mem_filter, isInReach, decide_eq_true_eq,
      Folder.mem_documents_iff hfolder]
    constructor
    · rintro ⟨⟨hholds, habove⟩, hreach⟩
      refine ⟨⟨true, folder, hentry, hholds⟩, fun above below hsplit hbelow => ?_⟩
      obtain ⟨inside, hat⟩ := habove above below hsplit hbelow
      refine (list_pathBelow_iff hw hlist hat).2 ⟨rfl, Nat.le_trans ?_ hreach⟩
      rw [hsplit, List.dropLast_append_of_ne_nil hbelow]
      -- the names of the place are proper, so the paths above it are shorter than its own
      refine byteLength_pathBelow_le fun name hname =>
        isPiece_of_holdsDocument hw hlist hholds name ?_
      exact hsplit ▸ List.mem_append_right above (List.dropLast_subset _ hname)
    · rintro ⟨⟨listable, inside, hinside, hholds⟩, hlists⟩
      rw [hentry] at hinside
      cases hinside
      have hdown : ∀ above below, place = above ++ below → below ≠ [] →
          (∃ inside, folder.at? above = some (.folder true inside)) ∧
            Text.byteLength (pathBelow root above) ≤ pathLimit := by
        intro above below hsplit hbelow
        obtain ⟨entry, hat, _⟩ := hholds.entry
        rw [hsplit] at hat
        obtain ⟨listable, inside, hinside, _⟩ := Folder.exists_folder_of_at? hbelow hat
        obtain ⟨rfl, hshort⟩ :=
          (list_pathBelow_iff hw hlist hinside).1 (hlists above below hsplit hbelow)
        exact ⟨⟨inside, hinside⟩, hshort⟩
      refine ⟨⟨hholds, fun above below hsplit hbelow => (hdown above below hsplit hbelow).1⟩, ?_⟩
      exact (hdown place.dropLast [place.getLast hholds.ne_nil]
        (List.dropLast_append_getLast hholds.ne_nil).symm (List.cons_ne_nil _ _)).2

/-- Documents are visited in the order of their places. -/
theorem pairwise_visited (hdistinct : w.root.HasDistinctNames) :
    (visited w root).Pairwise (· < ·) := by
  rw [visited]
  cases hlist : w.list root with
  | error e => exact .nil
  | ok folder =>
    obtain ⟨base, hresolve⟩ := list_eq_ok_iff.1 hlist
    have hbase : w.root.at? base = some (.folder true folder) :=
      (resolveNames_eq_ok_iff.1 hresolve).2.at?_place
    exact (Folder.pairwise_documents (hdistinct.at? hbase)).filter _

/-! ## The records of an index -/

/-- No identifier is in the index twice. -/
theorem nodup_insert (h : (index.records.map (·.identifier)).Nodup) (record : Record) :
    ((index.insert record).records.map (·.identifier)).Nodup := by
  rw [insert, List.map_append, List.nodup_append]
  refine ⟨h.sublist (List.filter_sublist.map _), List.nodup_singleton _, ?_⟩
  rintro _ hother _ hsame rfl
  obtain ⟨other, hmem, hidentifier⟩ := List.mem_map.1 hother
  obtain ⟨_, hrecord, rfl⟩ := List.mem_map.1 hsame
  rw [List.mem_singleton.1 hrecord] at hidentifier
  exact of_decide_eq_true (List.mem_filter.1 hmem).2 hidentifier

theorem nodup_ofRecords (records : List Record) :
    ((ofRecords records).records.map (·.identifier)).Nodup := by
  have hfold : ∀ (records : List Record) (index : Index),
      (index.records.map (·.identifier)).Nodup →
        ((records.foldl insert index).records.map (·.identifier)).Nodup := by
    intro records
    induction records with
    | nil => exact fun _ h => h
    | cons record records ih => exact fun index h => ih _ (nodup_insert h record)
  exact hfold records empty List.nodup_nil

theorem mem_identifiers_iff :
    identifier ∈ index.records.map (·.identifier) ↔
      ∃ record, index.get? identifier = some record := by
  rw [get?, ← Option.isSome_iff_exists, List.find?_isSome]
  simp

/-- The size of an index is the number of its identifiers. -/
theorem size_of_nodup (h : (index.records.map (·.identifier)).Nodup) :
    index.size = {identifier | ∃ record, index.get? identifier = some record}.ncard := by
  have hset : {identifier | ∃ record, index.get? identifier = some record} =
      ((index.records.map (·.identifier)).toFinset : Set Text) := by
    ext identifier
    simp only [Set.mem_ofPred_eq, List.coe_toFinset, mem_identifiers_iff]
  rw [hset, Set.ncard_coe_finset, List.toFinset_card_of_nodup h, List.length_map, size]

/-- The record of an identifier is made from the last document with that stem. -/
theorem get?_build_iff (hbuild : build w root = .ok index) :
    index.get? identifier = some record ↔
      ∃ place, ((visited w root).filter fun place => stemAt place = identifier).getLast? =
          some place ∧
        readRecord w (documentAt root place).1 (documentAt root place).2 = .ok record := by
  obtain ⟨records, rfl, hrecords⟩ := build_eq_ok_iff.1 hbuild
  rw [documentPaths_eq_map, List.forall₂_map_left_iff] at hrecords
  have hkept := List.rel_filter
    (p := fun place => decide (stemAt place = identifier))
    (q := fun record : Record => decide (record.identifier = identifier)) ?_ hrecords
  · rw [get?_ofRecords, ← List.getLast?_filter]
    have hlast := getLast?_of_forall₂ hkept
    generalize List.getLast? _ = first at hlast ⊢
    generalize List.getLast? _ = second at hlast ⊢
    cases hlast with
    | none => simp
    | some hread => simp [hread, eq_comm]
  · intro place record hrecord
    obtain ⟨_, _, rfl⟩ := readRecord_eq_ok_iff.1 hrecord
    exact Iff.rfl

/-! ## The index of a directory -/

/-- The document at a place counts for an identifier: of the visible documents with that stem it is
the last, in the order of their places and when they are visited. -/
structure CountsFor (w : Workspace) (root : Path) (identifier : Text) (place : Location) :
    Prop where
  visible : IsVisible w root place
  stem : stemAt place = identifier
  greatest : ∀ other, IsVisible w root other → stemAt other = identifier → other ≤ place
  last : ((documentPaths w root).filter fun document =>
    (Path.splitName document.2).1 = identifier).getLast? = some (documentAt root place)

theorem countsFor_of_getLast? (hw : w.IsProper) (hdistinct : w.root.HasDistinctNames)
    (h : ((visited w root).filter fun place => stemAt place = identifier).getLast? =
      some place) : CountsFor w root identifier place := by
  have hmem := List.mem_of_getLast? h
  rw [List.mem_filter, decide_eq_true_eq, mem_visited_iff hw hdistinct] at hmem
  refine ⟨hmem.1, hmem.2, fun other hother hstem => ?_, ?_⟩
  · refine le_of_getLast? ((pairwise_visited hdistinct).filter _) h (List.mem_filter.2 ⟨?_, ?_⟩)
    · exact (mem_visited_iff hw hdistinct).2 hother
    · exact decide_eq_true hstem
  · rw [documentPaths_eq_map, List.filter_map, List.getLast?_map]
    show Option.map _ ((visited w root).filter fun place => stemAt place = identifier).getLast? = _
    rw [h, Option.map_some]

/-- An index is built when all visible documents can be read. -/
theorem exists_build_of_readable (hw : w.IsProper) (hdistinct : w.root.HasDistinctNames)
    (hread : ∀ place, IsVisible w root place →
      ∃ text, w.readText (pathBelow root place) = .ok text) :
    ∃ index, build w root = .ok index := by
  have hrecords : ∀ document ∈ documentPaths w root,
      ∃ record, readRecord w document.1 document.2 = .ok record := by
    intro document hdocument
    rw [documentPaths_eq_map, List.mem_map] at hdocument
    obtain ⟨place, hplace, rfl⟩ := hdocument
    obtain ⟨text, htext⟩ := hread place ((mem_visited_iff hw hdistinct).1 hplace)
    exact ⟨_, readRecord_eq_ok_iff.2 ⟨text, htext, rfl⟩⟩
  obtain ⟨records, hmapM⟩ := exists_mapM_eq_ok_iff.2 hrecords
  exact ⟨ofRecords records, build_eq_ok_iff.2 ⟨records, rfl, mapM_eq_ok_iff.1 hmapM⟩⟩

/-- The identifiers of the index are the stems of the visible documents. -/
theorem exists_get?_build_iff (hw : w.IsProper) (hdistinct : w.root.HasDistinctNames)
    (hbuild : build w root = .ok index) :
    (∃ record, index.get? identifier = some record) ↔
      ∃ place, IsVisible w root place ∧ stemAt place = identifier := by
  simp only [get?_build_iff hbuild]
  constructor
  · rintro ⟨_, place, hlast, _⟩
    have hcounts := countsFor_of_getLast? hw hdistinct hlast
    exact ⟨place, hcounts.visible, hcounts.stem⟩
  · rintro ⟨place, hvisible, hstem⟩
    have hmem : place ∈ (visited w root).filter fun place => stemAt place = identifier :=
      List.mem_filter.2 ⟨(mem_visited_iff hw hdistinct).2 hvisible, decide_eq_true hstem⟩
    have hlast := List.getLast?_eq_some_getLast (List.ne_nil_of_mem hmem)
    have hcounts := (List.mem_filter.1 (List.mem_of_getLast? hlast)).1
    -- every document was read when the index was built
    obtain ⟨records, _, hrecords⟩ := build_eq_ok_iff.1 hbuild
    obtain ⟨record, hrecord⟩ := exists_mapM_eq_ok_iff.1 ⟨records, mapM_eq_ok_iff.2 hrecords⟩ _
      (documentPaths_eq_map w root ▸ List.mem_map_of_mem hcounts)
    exact ⟨record, _, hlast, hrecord⟩

/-- A record of the index is made from the document that counts for its identifier. -/
theorem exists_countsFor_of_get?_build (hw : w.IsProper) (hdistinct : w.root.HasDistinctNames)
    (hbuild : build w root = .ok index) (hget : index.get? identifier = some record) :
    ∃ place text, CountsFor w root identifier place ∧
      w.readText (pathBelow root place) = .ok text ∧ record.identifier = identifier ∧
      record.path = pathBelow root place ∧ HasTitle text record.title := by
  obtain ⟨place, hlast, hrecord⟩ := (get?_build_iff hbuild).1 hget
  have hcounts := countsFor_of_getLast? hw hdistinct hlast
  obtain ⟨text, htext, rfl⟩ := readRecord_eq_ok_iff.1 hrecord
  exact ⟨place, text, hcounts, htext, hcounts.stem, rfl, hasTitle_iff.2 rfl⟩

theorem size_build (hbuild : build w root = .ok index) :
    index.size = {identifier | ∃ record, index.get? identifier = some record}.ncard := by
  obtain ⟨records, rfl, _⟩ := build_eq_ok_iff.1 hbuild
  exact size_of_nodup (nodup_ofRecords records)

/-- The first visible document that cannot be read is the error. -/
theorem exists_first_of_unreadable (hw : w.IsProper) (hdistinct : w.root.HasDistinctNames)
    {reason : ReadError} (hvisible : IsVisible w root place)
    (hread : w.readText (pathBelow root place) = .error reason) :
    ∃ first reason, IsVisible w root first ∧
      w.readText (pathBelow root first) = .error reason ∧
      (∀ earlier, IsVisible w root earlier → earlier < first →
        ∃ text, w.readText (pathBelow root earlier) = .ok text) ∧
      (∃ before behind, documentPaths w root = before ++ documentAt root first :: behind ∧
        ∀ document ∈ before, ∃ text, w.readText document.1 = .ok text) ∧
      build w root = .error (.unreadable (pathBelow root first) reason) := by
  have hreadable : ∀ {path : Path} {name : Text}, (∀ e, ¬ readRecord w path name = .error e) →
      ∃ text, w.readText path = .ok text := by
    intro path name hnone
    cases htext : w.readText path with
    | ok text => exact ⟨text, rfl⟩
    | error reason => exact absurd (readRecord_eq_error_iff.2 ⟨reason, htext, rfl⟩) (hnone _)
  have hfault : readRecord w (documentAt root place).1 (documentAt root place).2 =
      .error (.unreadable (pathBelow root place) reason) :=
    readRecord_eq_error_iff.2 ⟨reason, hread, rfl⟩
  obtain ⟨e, hfirst⟩ : ∃ e, FirstFault (fun place e =>
      readRecord w (documentAt root place).1 (documentAt root place).2 = .error e)
      (visited w root) e :=
    FirstFault.exists_iff.2 ⟨place, (mem_visited_iff hw hdistinct).2 hvisible, _, hfault⟩
  have hbuild : build w root = .error e := by
    rw [build_eq_error_iff, documentPaths_eq_map, FirstFault.map_iff]
    exact hfirst
  obtain ⟨before, first, behind, hsplit, hunreadable, hbefore⟩ := hfirst.exists_split
  obtain ⟨reason, hreason, rfl⟩ := readRecord_eq_error_iff.1 hunreadable
  have hsorted : (visited w root).Pairwise (· < ·) := pairwise_visited hdistinct
  rw [hsplit, List.pairwise_append, List.pairwise_cons] at hsorted
  refine ⟨first, reason, (mem_visited_iff hw hdistinct).1 ?_, hreason, ?_, ?_, hbuild⟩
  · rw [hsplit]
    exact List.mem_append_right _ (List.mem_cons_self ..)
  · intro earlier hearlier hlt
    have hmem := (mem_visited_iff hw hdistinct).2 hearlier
    rw [hsplit, List.mem_append, List.mem_cons] at hmem
    rcases hmem with hmem | rfl | hmem
    · exact hreadable (hbefore earlier hmem)
    · exact absurd hlt (lt_irrefl _)
    · exact absurd (hsorted.2.1.1 earlier hmem) (lt_asymm hlt)
  · refine ⟨before.map (documentAt root), behind.map (documentAt root), ?_, ?_⟩
    · rw [documentPaths_eq_map, hsplit, List.map_append, List.map_cons]
    · intro document hdocument
      obtain ⟨earlier, hearlier, rfl⟩ := List.mem_map.1 hdocument
      exact hreadable (hbefore earlier hearlier)

/-- The index of a directory in which all visible documents can be read has one record for each stem
of a visible document. The record is that of the document which counts for the stem: it has its path
and the title of its text. Otherwise the first visible document that cannot be read is the error,
even if a later one has its stem. -/
theorem build_of_isVisible (hw : w.IsProper) (hdistinct : w.root.HasDistinctNames) (root : Path) :
    ((∀ place, IsVisible w root place → ∃ text, w.readText (pathBelow root place) = .ok text) →
      ∃ index, build w root = .ok index ∧
        (∀ identifier, (∃ record, index.get? identifier = some record) ↔
          ∃ place, IsVisible w root place ∧ stemAt place = identifier) ∧
        (∀ identifier record, index.get? identifier = some record →
          ∃ place text, CountsFor w root identifier place ∧
            w.readText (pathBelow root place) = .ok text ∧ record.identifier = identifier ∧
            record.path = pathBelow root place ∧ HasTitle text record.title) ∧
        index.size =
          {identifier | ∃ place, IsVisible w root place ∧ stemAt place = identifier}.ncard) ∧
    (∀ place reason, IsVisible w root place →
      w.readText (pathBelow root place) = .error reason →
      ∃ first reason, IsVisible w root first ∧
        w.readText (pathBelow root first) = .error reason ∧
        (∀ earlier, IsVisible w root earlier → earlier < first →
          ∃ text, w.readText (pathBelow root earlier) = .ok text) ∧
        (∃ before behind, documentPaths w root = before ++ documentAt root first :: behind ∧
          ∀ document ∈ before, ∃ text, w.readText document.1 = .ok text) ∧
        build w root = .error (.unreadable (pathBelow root first) reason)) := by
  constructor
  · intro hread
    obtain ⟨index, hbuild⟩ := exists_build_of_readable hw hdistinct hread
    have hidentifiers : ∀ identifier, (∃ record, index.get? identifier = some record) ↔
        ∃ place, IsVisible w root place ∧ stemAt place = identifier :=
      fun _ => exists_get?_build_iff hw hdistinct hbuild
    refine ⟨index, hbuild, hidentifiers, fun identifier record hget => ?_, ?_⟩
    · exact exists_countsFor_of_get?_build hw hdistinct hbuild hget
    · rw [size_build hbuild]
      simp only [hidentifiers]
  · intro place reason hvisible hread
    exact exists_first_of_unreadable hw hdistinct hvisible hread

/-! ### Two documents with one stem -/

/-- A directory with a first document and one with the same stem in a directory further down. -/
def twins (first : Entry) : Workspace :=
  ⟨.folder "book".toList true (.cons "x.md".toList first
    (.folder "z".toList true (.file "x.md".toList (Utf8.encode "# Deep".toList) .empty) .empty))
    .empty, []⟩

/-- Where the document further down stands. -/
def deepTwin : Location := ["z".toList, "x.md".toList]

/-- If the first of the two can be read, the other counts. If it cannot, it is the error all the
same. -/
theorem build_of_isVisible_twins :
    ((twins (.file (Utf8.encode "# Flat".toList))).IsProper ∧
      (twins (.file (Utf8.encode "# Flat".toList))).root.HasDistinctNames ∧
      ∃ index, build (twins (.file (Utf8.encode "# Flat".toList))) "book".toList = .ok index ∧
        index.get? "x".toList = some ⟨"x".toList, "book/z/x.md".toList, some "Deep".toList⟩ ∧
        index.size = 1) ∧
    ((twins (.link "nowhere".toList)).IsProper ∧
      (twins (.link "nowhere".toList)).root.HasDistinctNames ∧
      IsVisible (twins (.link "nowhere".toList)) "book".toList deepTwin ∧
      build (twins (.link "nowhere".toList)) "book".toList =
        .error (.unreadable "book/x.md".toList (.os .noEntry))) := by
  have hproper : (twins (.file (Utf8.encode "# Flat".toList))).IsProper :=
    ⟨Folder.hasFolder_nil _, by decide⟩
  have hdistinct : (twins (.file (Utf8.encode "# Flat".toList))).root.HasDistinctNames := by
    decide
  have hproper' : (twins (.link "nowhere".toList)).IsProper := ⟨Folder.hasFolder_nil _, by decide⟩
  have hdistinct' : (twins (.link "nowhere".toList)).root.HasDistinctNames := by
    decide
  have hvisited : ∀ first, first = .file (Utf8.encode "# Flat".toList) ∨
      first = .link "nowhere".toList →
        visited (twins first) "book".toList = [["x.md".toList], deepTwin] := by
    rintro _ (rfl | rfl)
    · cbv
    · cbv
  have hvisible : ∀ place, IsVisible (twins (.file (Utf8.encode "# Flat".toList)))
      "book".toList place ↔ place = ["x.md".toList] ∨ place = deepTwin := by
    intro place
    rw [← mem_visited_iff hproper hdistinct, hvisited _ (.inl rfl)]
    simp
  have hvisible' : ∀ place, IsVisible (twins (.link "nowhere".toList)) "book".toList place ↔
      place = ["x.md".toList] ∨ place = deepTwin := by
    intro place
    rw [← mem_visited_iff hproper' hdistinct', hvisited _ (.inr rfl)]
    simp
  refine ⟨⟨hproper, hdistinct, ?_⟩, ⟨hproper', hdistinct', (hvisible' _).2 (.inr rfl), ?_⟩⟩
  · obtain ⟨index, hbuild, hidentifiers, hrecords, hsize⟩ :=
      (build_of_isVisible hproper hdistinct "book".toList).1 (by
        intro place hplace
        rcases (hvisible place).1 hplace with rfl | rfl
        · exact ⟨"# Flat".toList, by cbv⟩
        · exact ⟨"# Deep".toList, by cbv⟩)
    refine ⟨index, hbuild, ?_, ?_⟩
    · obtain ⟨record, hget⟩ :=
        (hidentifiers "x".toList).2 ⟨deepTwin, (hvisible _).2 (.inr rfl), by decide⟩
      obtain ⟨place, text, hcounts, htext, hidentifier, hpath, htitle⟩ := hrecords _ _ hget
      obtain rfl : place = deepTwin := by
        rcases (hvisible place).1 hcounts.visible with rfl | rfl
        · have hle := hcounts.greatest deepTwin ((hvisible _).2 (.inr rfl)) (by decide)
          exact absurd hle (by decide)
        · rfl
      obtain rfl : text = "# Deep".toList := Except.ok.inj (htext.symm.trans (by cbv))
      obtain ⟨identifier, path, title⟩ := record
      rw [hget, show identifier = _ from hidentifier, show path = _ from hpath,
        show title = _ from (hasTitle_iff.1 htitle).symm]
      decide
    · have hset : {identifier | ∃ place, IsVisible (twins (.file (Utf8.encode "# Flat".toList)))
          "book".toList place ∧ stemAt place = identifier} = {"x".toList} := by
        ext identifier
        simp only [hvisible, Set.mem_ofPred_eq, Set.mem_singleton_iff]
        constructor
        · rintro ⟨_, rfl | rfl, rfl⟩
          · decide
          · decide
        · rintro rfl
          exact ⟨deepTwin, .inr rfl, by decide⟩
      rw [hsize, hset, Set.ncard_singleton]
  · obtain ⟨first, reason, hfirst, hreason, hearlier, _, hbuild⟩ :=
      (build_of_isVisible hproper' hdistinct' "book".toList).2 ["x.md".toList] (.os .noEntry)
        ((hvisible' _).2 (.inl rfl)) (by cbv)
    rcases (hvisible' first).1 hfirst with rfl | rfl
    · obtain rfl : reason = .os .noEntry := Except.error.inj (hreason.symm.trans (by cbv))
      exact hbuild
    · obtain ⟨text, htext⟩ := hearlier ["x.md".toList] ((hvisible' _).2 (.inl rfl)) (by decide)
      cases htext.symm.trans (show _ = .error (.os .noEntry) by cbv)

/-! ### A document in a directory that cannot be listed -/

/-- A directory with nothing but a document further down. -/
def shelf : Folder :=
  .folder "chapters".toList true (.file "x.md".toList (Utf8.encode "# X".toList) .empty) .empty

/-- That directory and nothing else. -/
def shelfFiles : Workspace := ⟨.folder "b".toList true shelf .empty, []⟩

/-- A path to that directory which leaves no room for what is in it. -/
def farShelf : Path := stays 2044 ++ "b".toList

/-- Where the document stands. -/
def shelved : Location := ["chapters".toList, "x.md".toList]

/-- An index is built although a document that is there cannot be read: its directory cannot be
listed, so the document is not visited. -/
theorem build_farShelf :
    shelfFiles.IsProper ∧ shelfFiles.root.HasDistinctNames ∧
      HoldsDocument shelfFiles farShelf shelved ∧
      shelfFiles.readText (pathBelow farShelf shelved) = .error (.os .nameTooLong) ∧
      build shelfFiles farShelf = .ok empty := by
  have hshort : Text.byteLength farShelf ≤ pathLimit := by
    rw [farShelf, Text.byteLength_append, byteLength_stays]
    decide
  have hentry : shelfFiles.entry farShelf = .ok (.folder true shelf) := by
    rw [entry, farShelf, resolve_stays shelfFiles (by decide) (by decide) hshort]
    cbv
  have hdocuments : shelf.documents = [shelved] := by
    simp [shelf, shelved, Folder.documents, Folder.documentsByEntry, Folder.inNameOrder,
      isDocumentName, isHidden, documentExtension]
    decide
  have hchapters : Path.join farShelf "chapters".toList = stays 2044 ++ "b/chapters".toList :=
    join_stays (by decide) (by decide)
  have hpath : pathBelow farShelf shelved = stays 2044 ++ "b/chapters/x.md".toList := by
    simp only [pathBelow, shelved, List.foldl_cons, List.foldl_nil, hchapters]
    exact join_stays (by decide) (by decide)
  have hreach : isInReach farShelf shelved = false := by
    have hparent : shelved.dropLast = ["chapters".toList] := by
      decide
    rw [isInReach, hparent, pathBelow, List.foldl_cons, List.foldl_nil, hchapters,
      Text.byteLength_append, byteLength_stays]
    decide
  refine ⟨⟨Folder.hasFolder_nil _, by decide⟩, by decide, ⟨true, shelf, hentry, ?_⟩, ?_, ?_⟩
  · refine ((Folder.mem_documents_iff (by decide)).1 ?_).1
    rw [hdocuments]
    exact List.mem_singleton_self shelved
  · rw [hpath]
    refine readText_stays_of_long shelfFiles (by decide) (by decide) ?_
    rw [Text.byteLength_append, byteLength_stays]
    decide
  · rw [build, documentPaths, list, hentry]
    simp only [visit, hdocuments, List.filter_cons, hreach]
    rfl

end Index

end Bindery
