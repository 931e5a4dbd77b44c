import Bindery.Proofs.Files.Names
import Bindery.Proofs.Files.Write
import Bindery.Proofs.Index.Visit

set_option autoImplicit false

/-! # Writing where nothing was

A file that is written where nothing was is put at a free place (`exists_of_write_vacant`), so all
that was there stays. `Added` says what that means for what the book tools look at: files keep their
content, directories have their documents and perhaps the new file, and writing the same file again
changes nothing. -/

namespace Bindery

namespace Workspace

variable {w w' : Workspace} {p : Path} {paths : List Path} {place : Location} {content : Bytes}

/-- Files as a system has them: the working directory is there, every entry has a proper name, and no
link holds NUL. -/
structure IsProper (w : Workspace) : Prop where
  here : w.HasWorkingFolder
  root : w.root.IsProper

/-- Nothing is where the path leads once the directories above it are made, not even a link that
leads nowhere. -/
def IsVacant (w : Workspace) (p : Path) : Prop :=
  ∀ place entry, (w.makeFolders (Path.parents p)).2.resolveNames false p (names p) ≠
    .ok (.found place entry)

/-! ## Directories that stand -/

theorem isFolder_iff : w.isFolder p = true ↔
    ∃ place listable inside, w.resolve p = .ok (.found place (.folder listable inside)) := by
  rw [isFolder, entry]
  rcases w.resolve p with _ | (⟨_, _ | _ | _⟩ | _) <;> simp

theorem exists?_iff : w.exists? p = true ↔
    ∃ place entry, w.resolve p = .ok (.found place entry) := by
  rw [exists?, entry]
  rcases w.resolve p with _ | (⟨_, _⟩ | _) <;> simp [Except.isOk, Except.toBool]

/-- A path leads to a directory, and not only through a link that leads nowhere. -/
structure Stands (w : Workspace) (p : Path) : Prop where
  isFolder : w.isFolder p = true
  found : ∃ place entry, w.resolveNames false p (names p) = .ok (.found place entry)

/-- What a walk has found it still finds when the tree has grown. -/
theorem Grows.exists_found {follow : Bool} {names : List Text} {entry : Entry}
    (hgrows : w.Grows w') (h : w.resolveNames follow p names = .ok (.found place entry)) :
    ∃ entry', w'.resolveNames follow p names = .ok (.found place entry') := by
  have hat : w.root.at? place = some entry := (resolveNames_eq_ok_iff.1 h).2.at?_place
  cases hat' : w'.root.at? place with
  | none =>
    rw [hgrows.root.at?_eq_none hat'] at hat
    cases hat
  | some entry' => exact ⟨entry', hgrows.resolveNames h hat' (by simp [Target.entry?])⟩

theorem Grows.stands (hgrows : w.Grows w') (h : w.Stands p) : w'.Stands p := by
  obtain ⟨hfolder, place, entry, hfound⟩ := h
  obtain ⟨place', listable, inside, hresolve⟩ := isFolder_iff.1 hfolder
  obtain ⟨inside', hresolve'⟩ := hgrows.resolve_folder hresolve
  obtain ⟨entry', hfound'⟩ := hgrows.exists_found hfound
  exact ⟨isFolder_iff.2 ⟨place', listable, inside', hresolve'⟩, place, entry', hfound'⟩

/-- Directories that stand are not made again. -/
theorem makeFolders_of_stands (h : w.Stands p) : w.makeFolders (p :: paths) = (.ok (), w) := by
  obtain ⟨hfolder, place, entry, hfound⟩ := h
  rw [makeFolders, makeFolder, hfound]
  simp only [hfolder, if_true]

/-- A directory that was made stands. -/
theorem stands_of_makeFolder (hw : w.HasWorkingFolder) (h : w.makeFolder p = (.ok (), w')) :
    w'.Stands p := by
  rw [makeFolder] at h
  split at h
  · next place hfree =>
    cases h
    have hplain : (Target.free place).IsPlain := Target.isPlain_of_free rfl
    have hgrows : w.Grows (w.put place (.folder true .empty)) :=
      grows_put hw hfree hplain rfl (.inl rfl)
    exact ⟨isFolder_iff.2 ⟨place, true, .empty, resolve_made hw hfree⟩, place, _,
      hgrows.resolveNames hfree (at?_put hw hfree hplain) (by simp)⟩
  · cases h
  · cases h

/-- No walk fails because something exists. -/
theorem walk_ne_alreadyExists {root : Folder} {follow : Bool} {links : Nat} {names : List Text} :
    walk root follow links place names ≠ .error .alreadyExists := by
  fun_induction walk root follow links place names
  case case3 ih | case4 ih | case10 ih | case14 ih => exact ih
  all_goals
    intro h
    cases h

/-- Only a path that leads to something is refused because of it. -/
theorem exists_found_of_makeFolder (h : w.makeFolder p = (.error .alreadyExists, w')) :
    ∃ place entry, w.resolveNames false p (names p) = .ok (.found place entry) := by
  rw [makeFolder] at h
  split at h
  · cases h
  · next place entry hfound => exact ⟨place, entry, hfound⟩
  · next e herror =>
    cases h
    rw [resolveNames] at herror
    split at herror
    · cases herror
    · split at herror
      · cases herror
      · split at herror
        · cases herror
        · exact absurd herror walk_ne_alreadyExists

/-- When making directories succeeds, the first one stands. -/
theorem stands_of_makeFolders (hw : w.HasWorkingFolder)
    (h : w.makeFolders (p :: paths) = (.ok (), w')) : w'.Stands p := by
  rw [makeFolders] at h
  split at h
  · next hmade =>
    cases h
    exact stands_of_makeFolder hw hmade
  · split at h
    · cases h
    · next middle hparents =>
      have hmakes := makes_makeFolders w paths
      rw [hparents] at hmakes
      have hmiddle := (hmakes.madeOnly hw).grows.hasWorkingFolder hw
      split at h
      · next hexists =>
        split at h
        · next hfolder =>
          cases h
          exact ⟨hfolder, exists_found_of_makeFolder hexists⟩
        · cases h
      · exact stands_of_makeFolder hmiddle h
  · next hexists =>
    split at h
    · next hfolder =>
      cases h
      exact ⟨hfolder, exists_found_of_makeFolder hexists⟩
    · cases h
  · cases h

/-! ## Documents of a directory that a path leads to -/

/-- A path that leads to a directory in `w` leads to one in `w'` with the same documents, in the same
order, as far as they are at places that are kept. -/
def KeepsDocuments (keep : Location → Bool) (w w' : Workspace) : Prop :=
  ∀ p place listable inside, w.resolve p = .ok (.found place (.folder listable inside)) →
    ∃ inside', w'.resolve p = .ok (.found place (.folder listable inside')) ∧
      inside'.documents.filter (fun document => keep (place ++ document)) =
        inside.documents.filter fun document => keep (place ++ document)

theorem keepsDocuments_put {follow : Bool} {names : List Text} {entry : Entry}
    {keep : Location → Bool} (hw : w.HasWorkingFolder)
    (hfree : w.resolveNames follow p names = .ok (.free place)) (hinside : entry.inside = .empty)
    (hkeep : ∀ above name, place = above ++ [name] →
      ∀ document ∈ Folder.entryDocuments name entry, keep (above ++ document) = false) :
    KeepsDocuments keep w (w.put place entry) := by
  intro path folder listable inside hresolve
  have hplain : (Target.free place).IsPlain := Target.isPlain_of_free rfl
  have hgrows : w.Grows (w.put place entry) := grows_put hw hfree hplain hinside (.inl rfl)
  obtain ⟨inside', hresolve'⟩ := hgrows.resolve_folder hresolve
  refine ⟨inside', hresolve', ?_⟩
  have hat : w.root.at? folder = some (.folder listable inside) :=
    (resolveNames_eq_ok_iff.1 hresolve).2.at?_place
  have hat' : (w.root.putAt place entry).at? folder = some (.folder listable inside') :=
    (resolveNames_eq_ok_iff.1 hresolve').2.at?_place
  have hnone : w.root.at? place = none := (resolveNames_eq_ok_iff.1 hfree).2.at?_place
  by_cases hbelow : folder <+: place
  · -- the entry is put into the directory
    obtain ⟨rest, rfl⟩ := hbelow
    rcases List.eq_nil_or_concat rest with rfl | ⟨above, name, rfl⟩
    · rw [List.append_nil, hat] at hnone
      cases hnone
    · rw [List.concat_eq_append] at *
      have hrest : above ++ [name] ≠ [] := by simp
      rw [Folder.at?_putAt_append hrest hat] at hat'
      cases hat'
      obtain ⟨above', name', hsplit, hfolder⟩ := exists_above hw hfree hplain
      obtain ⟨habove, -⟩ : folder ++ above = above' ∧ name = name' := by
        rw [Target.place, ← List.append_assoc] at hsplit
        exact List.append_inj' hsplit rfl |>.imp_right List.singleton_inj.1
      rw [Folder.at?_append hrest, hat] at hnone
      refine Folder.filter_documents_putAt (Folder.HasFolder.of_append hat (habove ▸ hfolder)) hnone
        fun document hdocument => ?_
      rw [← List.append_assoc]
      exact hkeep (folder ++ above) name (List.append_assoc ..).symm document hdocument
  · -- the entry is put elsewhere
    have habove : ¬ place <+: folder := by
      rintro ⟨rest, rfl⟩
      by_cases hrest : rest = []
      · rw [hrest, List.append_nil, hnone] at hat
        cases hat
      · obtain ⟨_, _, hplace, _⟩ := Folder.exists_folder_of_at? hrest hat
        rw [hnone] at hplace
        cases hplace
    rw [Folder.at?_putAt_of_not_prefix hbelow habove, hat] at hat'
    cases hat'
    rfl

theorem KeepsDocuments.trans {keep : Location → Bool} {w'' : Workspace}
    (h : KeepsDocuments keep w w') (h' : KeepsDocuments keep w' w'') :
    KeepsDocuments keep w w'' := by
  intro p folder listable inside hresolve
  obtain ⟨inside', hresolve', hsame⟩ := h p folder listable inside hresolve
  obtain ⟨inside'', hresolve'', hsame'⟩ := h' p folder listable inside' hresolve'
  exact ⟨inside'', hresolve'', hsame'.trans hsame⟩

theorem Makes.keepsDocuments (hw : w.HasWorkingFolder) (h : Makes paths w w')
    (keep : Location → Bool) : KeepsDocuments keep w w' := by
  induction h with
  | nothing => exact fun p place listable inside hresolve => ⟨inside, hresolve, rfl⟩
  | @folder middle _ place hmakes _ hfree ih =>
    have hmiddle := (hmakes.madeOnly hw).grows.hasWorkingFolder hw
    refine ih.trans (keepsDocuments_put hmiddle hfree rfl fun above name _ document hdocument => ?_)
    rw [Folder.entryDocuments_empty] at hdocument
    cases hdocument

/-! ## A new file -/

/-- `w'` is `w` with a new file to which the path leads. All that was there stays, the directories
have no other new documents, and writing the file again changes nothing. -/
structure Added (w w' : Workspace) (p : Path) (place : Location) (content : Bytes) : Prop where
  grows : w.Grows w'
  keeps : ∀ other kind, w.root.kindAt? other = some kind → w'.root.kindAt? other = some kind
  file : w'.root.at? place = some (.file content)
  names : ∀ name ∈ place, IsName name
  stem : ∃ name, place.getLast? = some name ∧ Path.stem? p = some (Path.splitName name).1
  documents : KeepsDocuments (fun other => decide (other ≠ place)) w w'
  again : w'.writeBelow p content = (.ok (), w')

theorem put_self {entry : Entry} (h : w.root.at? place = some entry) : w.put place entry = w := by
  rw [put, Folder.putAt_self h]

/-- Where nothing was a file is written at a free place. -/
theorem exists_of_write_vacant (hw : w.HasWorkingFolder) (h : w.write p content = (.ok (), w'))
    (hvacant : ∀ place entry, w.resolveNames false p (names p) ≠ .ok (.found place entry)) :
    ∃ place, w.resolveNames false p (names p) = .ok (.free place) ∧
      w.resolveNames true p (names p) = .ok (.free place) ∧ asksFolder p = false ∧
      w' = w.put place (.file content) := by
  obtain ⟨target, hfollow, -, hslash, hput⟩ := exists_of_write hw h
  obtain ⟨hp, hleads⟩ := resolveNames_eq_ok_iff.1 hfollow
  obtain ⟨target', hleads'⟩ := hleads.exists_of_follow
  have hresolve := resolveNames_eq_ok_iff.2 ⟨hp, hleads'⟩
  cases target' with
  | found place entry => exact absurd hresolve (hvacant place entry)
  | free place =>
    have hfree := resolveNames_eq_ok_iff.2 ⟨hp, hleads'.of_free rfl⟩
    rw [hfree] at hfollow
    cases hfollow
    exact ⟨place, hresolve, hfree, hslash, hput⟩

/-- Making directories leaves links as they are. -/
theorem MadeOnly.link {goal : Path} (h : MadeOnly paths w w')
    (hat : w'.root.at? place = some (.link goal)) : w.root.at? place = some (.link goal) := by
  rcases h.only place with hkind | ⟨_, p, _, inside, hresolve⟩
  · rw [Folder.kindAt?_eq_link_iff.2 hat, eq_comm] at hkind
    exact Folder.kindAt?_eq_link_iff.1 hkind
  · have hat' : w'.root.at? place = some (.folder true inside) :=
      (resolveNames_eq_ok_iff.1 hresolve).2.at?_place
    rw [hat] at hat'
    cases hat'

theorem IsProper.isName_start (hw : w.IsProper) (p : Path) : ∀ name ∈ w.start p, IsName name := by
  obtain ⟨listable, inside, hat⟩ := hw.here
  unfold start
  split
  · simp
  · exact (hw.root.at? hat).1

/-- Writing below directories where nothing was adds a file. -/
theorem exists_added (hw : w.IsProper) (hvacant : w.IsVacant p)
    (h : w.writeBelow p content = (.ok (), w')) : ∃ place, Added w w' p place content := by
  unfold Workspace.writeBelow at h
  split at h
  · cases h
  · next made hmade =>
    have hmakes := makes_makeFolders w (Path.parents p)
    have hnothing := hvacant
    rw [IsVacant, hmade] at hnothing
    rw [hmade] at hmakes
    have honly := hmakes.madeOnly hw.here
    have hhere := honly.grows.hasWorkingFolder hw.here
    obtain ⟨place, hresolve, hfree, hslash, rfl⟩ := exists_of_write_vacant hhere h hnothing
    have hplain : (Target.free place).IsPlain := Target.isPlain_of_free rfl
    have hgrows : made.Grows (made.put place (.file content)) :=
      grows_put hhere hfree hplain rfl (.inl rfl)
    have hat : (made.put place (.file content)).root.at? place = some (.file content) :=
      at?_put hhere hfree hplain
    have hnone : made.root.at? place = none := (resolveNames_eq_ok_iff.1 hfree).2.at?_place
    obtain ⟨hp, hleads⟩ := resolveNames_eq_ok_iff.1 hresolve
    refine ⟨place, honly.grows.trans hgrows, ?_, hat, ?_, ?_, ?_, ?_⟩
    · -- what was there stays
      intro other kind hkind
      have hmade : made.root.kindAt? other = some kind := by
        rcases honly.only other with hsame | ⟨hnone, _⟩
        · exact hsame.trans hkind
        · rw [Folder.kindAt?, hnone] at hkind
          cases hkind
      have hother : place ≠ other := by
        rintro rfl
        rw [Folder.kindAt?, hnone] at hmade
        cases hmade
      exact ((kindAt?_put hhere hfree hplain rfl other).trans (if_neg hother)).trans hmade
    · have hstart : made.start p = w.start p := by rw [start, start, honly.grows.here]
      exact hleads.isName (fun _ _ hlink => (hw.root.at? (honly.link hlink)).2 _ rfl)
        (hstart ▸ hw.isName_start p) fun _ => isPiece_of_mem_names hp.noNul
    · obtain ⟨name, hname, hlast, hplace⟩ := hleads.getLast?_of_free rfl
      exact ⟨name, hplace, stem?_of_getLast?_names hlast hname⟩
    · refine (hmakes.keepsDocuments hw.here _).trans
        (keepsDocuments_put hhere hfree rfl fun above name hplace document hdocument => ?_)
      rw [Folder.entryDocuments_file] at hdocument
      split at hdocument
      · rw [List.mem_singleton.1 hdocument, ← hplace]
        exact decide_eq_false fun hne => hne rfl
      · cases hdocument
    · have hagain : (made.put place (.file content)).makeFolders (Path.parents p) =
          (.ok (), made.put place (.file content)) := by
        cases hparents : Path.parents p with
        | nil => rfl
        | cons first rest =>
          rw [hparents] at hmade
          exact makeFolders_of_stands (hgrows.stands (stands_of_makeFolders hw.here hmade))
      have hfound := hgrows.resolveNames hfree hat (by simp)
      rw [writeBelow, hagain]
      simp only [write, hfound, hslash, Bool.false_eq_true, if_false]
      exact congrArg (Prod.mk _) (put_self hat)

/-! ## What is read afterwards -/

theorem read_eq_ok_iff : w.read p = .ok content ↔
    ∃ place, w.resolve p = .ok (.found place (.file content)) := by
  rw [read, entry]
  rcases w.resolve p with _ | (⟨_, _ | _ | _⟩ | _) <;> simp

/-- A text is read from a file. -/
theorem exists_read_of_readText {text : Text} (h : w.readText p = .ok text) :
    ∃ content, w.read p = .ok content := by
  unfold readText at h
  split at h
  · cases h
  · next content hread => exact ⟨content, hread⟩

/-- Files that were there are read as before. -/
theorem Added.read {path : Path} {old : Bytes} (h : Added w w' p place content)
    (hread : w.read path = .ok old) : w'.read path = .ok old := by
  obtain ⟨found, hresolve⟩ := read_eq_ok_iff.1 hread
  have hat : w.root.at? found = some (.file old) := (resolveNames_eq_ok_iff.1 hresolve).2.at?_place
  have hat' : w'.root.at? found = some (.file old) :=
    Folder.kindAt?_eq_file_iff.1 (h.keeps _ _ (Folder.kindAt?_eq_file_iff.2 hat))
  exact read_eq_ok_iff.2 ⟨found, h.grows.resolveNames hresolve hat' (by simp [Target.entry?])⟩

/-- The path of an entry below a directory leads to it, unless it is a link. -/
theorem resolve_pathBelow {folder : Path} {above below : Location} {listable : Bool}
    {inside : Folder} {entry : Entry}
    (hfolder : w.resolve folder = .ok (.found above (.folder listable inside)))
    (hat : w.root.at? (above ++ below) = some entry) (hentry : ∀ goal, entry ≠ .link goal)
    (hne : below ≠ []) (hnames : ∀ name ∈ below, IsName name)
    (hshort : Text.byteLength (Index.pathBelow folder below) ≤ pathLimit) :
    w.resolve (Index.pathBelow folder below) = .ok (.found (above ++ below) entry) := by
  obtain ⟨hpath, hleads⟩ := resolveNames_eq_ok_iff.1 hfolder
  obtain ⟨hpieces, habsolute, hslash, hnul, hnonempty⟩ :=
    names_pathBelow hpath.nonempty hpath.noNul (fun name hname => (hnames name hname).toIsPiece) hne
  have hdirectory : Leads w.root true linkLimit (w.start folder) (names folder)
      (.found above (.folder listable inside)) := by
    split at hleads
    · exact hleads.of_append_here
    · rwa [List.append_nil] at hleads
  obtain ⟨left, hleft⟩ := hdirectory.append rfl
  have hdown : Leads w.root true left above below (.found (above ++ below) entry) :=
    leads_below hat hentry hne fun name hname => (hnames name hname).toIsStep
  refine resolveNames_eq_ok_iff.2 ⟨⟨hnul, hnonempty, hshort⟩, ?_⟩
  rw [hpieces, hslash, start, habsolute, if_neg Bool.false_ne_true, List.append_nil]
  exact hleft hdown

/-- A file can be read at a relative path below a directory only if the directory exists. -/
theorem exists?_of_read_join {base : Path} (hw : w.HasWorkingFolder) (hbase : base ≠ [])
    (hp : ¬ Path.isAbsolute p = true) (hread : w.read (Path.join base p) = .ok content) :
    w.exists? base = true := by
  obtain ⟨front, hjoin, hfront, -, -⟩ := exists_join hbase hp
  obtain ⟨_, hresolve⟩ := read_eq_ok_iff.1 hread
  obtain ⟨hpath, hleads⟩ := resolveNames_eq_ok_iff.1 hresolve
  have hstart : w.start (Path.join base p) = w.start base := by
    rw [start, start, isAbsolute_join hbase hp]
  have hnames : names (Path.join base p) = names base ++ names p := by
    rw [hjoin, names_append_slash, hfront]
  rw [hstart, hnames, List.append_assoc] at hleads
  have hrest : names p ++ (if asksFolder (Path.join base p) then [['.']] else []) ≠ [] := by
    by_cases hempty : p = []
    · subst hempty
      have hslash : asksFolder (Path.join base []) = true := by
        rw [hjoin, asksFolder, List.getLast?_concat]
        rfl
      rw [if_pos hslash]
      exact List.append_ne_nil_of_right_ne_nil _ (List.cons_ne_nil _ _)
    · exact List.append_ne_nil_of_left_ne_nil (names_ne_nil hp hempty) _
  obtain ⟨last, listable, inside, hdirectory⟩ :=
    hleads.exists_directory (hw.hasFolder_start base) hrest
  obtain ⟨tail, htail⟩ : base <+: Path.join base p := prefix_join hp
  have hsystem : IsSystemPath base := by
    refine ⟨fun hnul => hpath.noNul (htail ▸ List.mem_append_left tail hnul), hbase, ?_⟩
    have hshort := hpath.short
    rw [← htail, Text.byteLength_append] at hshort
    exact Nat.le_trans (Nat.le_add_right _ _) hshort
  exact exists?_iff.2 ⟨last, _, resolve_of_names (resolveNames_eq_ok_iff.2 ⟨hsystem, hdirectory⟩)⟩

end Workspace

end Bindery
