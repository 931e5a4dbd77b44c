import Bindery.Proofs.Files.Walk

set_option autoImplicit false

/-! # What writing changes

Writing a file below directories that may be missing puts empty directories at free places, one
after the other (`Makes`), and then the file at its place. Each of these steps lets the tree grow, so
what a path has led to before it still leads to. `Saved` says what has become of the files when the
writing succeeds: the file has its content, and apart from it and the directories that were missing
above it everything is as it was. -/

namespace Bindery

namespace Folder

variable {root root' : Folder} {place above : Location} {name : Text} {entry : Entry}

theorem kindAt?_eq_file_iff {content : Bytes} :
    root.kindAt? place = some (.file content) ↔ root.at? place = some (.file content) := by
  rw [kindAt?]
  rcases root.at? place with _ | (_ | _ | _) <;> simp [Entry.kind]

theorem kindAt?_eq_link_iff {goal : Path} :
    root.kindAt? place = some (.link goal) ↔ root.at? place = some (.link goal) := by
  rw [kindAt?]
  rcases root.at? place with _ | (_ | _ | _) <;> simp [Entry.kind]

theorem kindAt?_eq_folder_iff {listable : Bool} :
    root.kindAt? place = some (.folder listable) ↔
      ∃ inside, root.at? place = some (.folder listable inside) := by
  rw [kindAt?]
  rcases root.at? place with _ | (_ | _ | _) <;> simp [Entry.kind]

/-- A tree grows when changes are made at free places and in files only. -/
theorem grows_of_kindAt? (h : ∀ place, root'.kindAt? place = root.kindAt? place ∨
    root.at? place = none ∨
    ∃ content content', root.at? place = some (.file content) ∧
      root'.at? place = some (.file content')) : root.Grows root' where
  file {place content} hat := by
    rcases h place with hkind | hnone | ⟨_, content', _, hat'⟩
    · rw [kindAt?_eq_file_iff.2 hat] at hkind
      exact ⟨content, kindAt?_eq_file_iff.1 hkind⟩
    · rw [hnone] at hat
      cases hat
    · exact ⟨content', hat'⟩
  link {place goal} hat := by
    rcases h place with hkind | hnone | ⟨_, _, hfile, _⟩
    · rw [kindAt?_eq_link_iff.2 hat] at hkind
      exact kindAt?_eq_link_iff.1 hkind
    · rw [hnone] at hat
      cases hat
    · rw [hfile] at hat
      cases hat
  folder {place listable inside} hat := by
    rcases h place with hkind | hnone | ⟨_, _, hfile, _⟩
    · rw [kindAt?_eq_folder_iff.2 ⟨inside, hat⟩] at hkind
      exact kindAt?_eq_folder_iff.1 hkind
    · rw [hnone] at hat
      cases hat
    · rw [hfile] at hat
      cases hat

/-- What is not in the tree when it has grown was not there before. -/
theorem Grows.at?_eq_none (h : root.Grows root') (hnone : root'.at? place = none) :
    root.at? place = none := by
  cases hat : root.at? place with
  | none => rfl
  | some e =>
    cases e with
    | file content =>
      obtain ⟨_, hat'⟩ := h.file hat
      rw [hnone] at hat'
      cases hat'
    | link goal =>
      rw [h.link hat] at hnone
      cases hnone
    | folder listable inside =>
      obtain ⟨_, hat'⟩ := h.folder hat
      rw [hnone] at hat'
      cases hat'

theorem Grows.hasFolder (h : root.Grows root') (hfolder : root.HasFolder place) :
    root'.HasFolder place := by
  obtain ⟨listable, inside, hat⟩ := hfolder
  obtain ⟨inside', hat'⟩ := h.folder hat
  exact ⟨listable, inside', hat'⟩

end Folder

namespace Workspace

variable {w w' w'' : Workspace} {p : Path} {paths : List Path} {place : Location}

/-! ## Where paths lead -/

/-- The working directory is there, and it is a directory. -/
def HasWorkingFolder (w : Workspace) : Prop := w.root.HasFolder w.here

/-- The place that a path starts from. -/
def start (w : Workspace) (p : Path) : Location := if p.isAbsolute then [] else w.here

theorem HasWorkingFolder.hasFolder_start (h : w.HasWorkingFolder) (p : Path) :
    w.root.HasFolder (w.start p) :=
  hasFolder_from h p

/-- A path that the system takes. -/
structure IsSystemPath (p : Path) : Prop where
  noNul : '\x00' ∉ p
  nonempty : p ≠ []
  short : Text.byteLength p ≤ pathLimit

theorem resolveNames_eq_ok_iff {follow : Bool} {names : List Text} {target : Target} :
    w.resolveNames follow p names = .ok target ↔
      IsSystemPath p ∧ Leads w.root follow linkLimit (w.start p) names target := by
  rw [resolveNames]
  constructor
  · intro h
    split at h
    · cases h
    · next hnul =>
      split at h
      · cases h
      · next hempty =>
        split at h
        · cases h
        · next hlong => exact ⟨⟨hnul, hempty, Nat.le_of_not_lt hlong⟩, walk_eq_ok_iff.1 h⟩
  · rintro ⟨hp, h⟩
    rw [if_neg hp.noNul, if_neg hp.nonempty, if_neg (Nat.not_lt.2 hp.short)]
    exact walk_eq_ok_iff.2 h

/-- `w'` is `w` with a tree that has grown. -/
structure Grows (w w' : Workspace) : Prop where
  here : w'.here = w.here
  root : w.root.Grows w'.root

theorem Grows.refl (w : Workspace) : w.Grows w := ⟨rfl, .refl _⟩

theorem Grows.trans (h : w.Grows w') (h' : w'.Grows w'') : w.Grows w'' :=
  ⟨h'.here.trans h.here, h.root.trans h'.root⟩

theorem Grows.hasWorkingFolder (h : w.Grows w') (hw : w.HasWorkingFolder) :
    w'.HasWorkingFolder := by
  rw [HasWorkingFolder, h.here]
  exact h.root.hasFolder hw

theorem Grows.resolveNames {follow : Bool} {names : List Text} {target : Target} {entry : Entry}
    (hgrows : w.Grows w') (h : w.resolveNames follow p names = .ok target)
    (hentry : w'.root.at? target.place = some entry)
    (hlink : target.entry? = none → ∀ goal, entry ≠ .link goal) :
    w'.resolveNames follow p names = .ok (.found target.place entry) := by
  rw [resolveNames_eq_ok_iff] at h ⊢
  rw [start, hgrows.here]
  exact ⟨h.1, h.2.grows hgrows.root hentry hlink⟩

/-- A directory that a path has led to it still leads to when the tree has grown. -/
theorem Grows.resolve_folder {listable : Bool} {inside : Folder} (hgrows : w.Grows w')
    (h : w.resolve p = .ok (.found place (.folder listable inside))) :
    ∃ inside', w'.resolve p = .ok (.found place (.folder listable inside')) := by
  have hat := (resolveNames_eq_ok_iff.1 h).2.at?_place
  obtain ⟨inside', hat'⟩ := hgrows.root.folder hat
  exact ⟨inside', hgrows.resolveNames h hat' (by simp [Target.entry?])⟩

/-- A text is read again when its file is. -/
theorem readText_of_read {path : Path} {text : Text}
    (hread : ∀ content, w.read path = .ok content → w'.read path = .ok content)
    (h : w.readText path = .ok text) : w'.readText path = .ok text := by
  unfold readText at h ⊢
  split at h
  · cases h
  · next content hcontent =>
    rw [hread content hcontent]
    exact h

/-- A path that leads to a directory leads there with a slash at its end too. -/
theorem resolve_of_names {listable : Bool} {inside : Folder}
    (h : w.resolveNames true p (names p) = .ok (.found place (.folder listable inside))) :
    w.resolve p = .ok (.found place (.folder listable inside)) := by
  rw [resolve]
  split
  · rw [resolveNames_eq_ok_iff] at h ⊢
    exact ⟨h.1, h.2.append_here rfl⟩
  · rwa [List.append_nil]

/-! ## Putting an entry where a path leads -/

/-- The target is a file, or it is free. -/
def Target.IsPlain (target : Target) : Prop :=
  ∀ entry, target.entry? = some entry → ∃ content, entry = .file content

theorem Target.isPlain_of_free {target : Target} (hfree : target.entry? = none) :
    target.IsPlain := by
  intro entry hentry
  rw [hfree] at hentry
  cases hentry

section

variable {follow : Bool} {names : List Text} {target : Target} {entry : Entry}

theorem exists_above (hw : w.HasWorkingFolder) (h : w.resolveNames follow p names = .ok target)
    (hplain : target.IsPlain) :
    ∃ above name, target.place = above ++ [name] ∧ w.root.HasFolder above := by
  have hleads := (resolveNames_eq_ok_iff.1 h).2
  cases hentry : target.entry? with
  | none => exact hleads.exists_folder (hw.hasFolder_start p) hentry
  | some entry =>
    obtain ⟨content, rfl⟩ := hplain entry hentry
    have hat := hleads.at?_place.trans hentry
    rcases List.eq_nil_or_concat target.place with hnil | ⟨above, name, hconcat⟩
    · rw [hnil] at hat
      cases hat
    · rw [List.concat_eq_append] at hconcat
      rw [hconcat] at hat
      obtain ⟨listable, inside, habove, _⟩ :=
        Folder.exists_folder_of_at? (List.cons_ne_nil _ _) hat
      exact ⟨above, name, hconcat, listable, inside, habove⟩

theorem at?_put (hw : w.HasWorkingFolder) (h : w.resolveNames follow p names = .ok target)
    (hplain : target.IsPlain) :
    (w.put target.place entry).root.at? target.place = some entry := by
  obtain ⟨above, name, hplace, listable, inside, habove⟩ := exists_above hw h hplain
  rw [hplace]
  exact Folder.at?_putAt_self habove

/-- Only what is at the place changes. -/
theorem kindAt?_put (hw : w.HasWorkingFolder) (h : w.resolveNames follow p names = .ok target)
    (hplain : target.IsPlain) (hinside : entry.inside = .empty) (other : Location) :
    (w.put target.place entry).root.kindAt? other =
      if target.place = other then some entry.kind else w.root.kindAt? other := by
  obtain ⟨above, name, hplace, listable, inside, habove⟩ := exists_above hw h hplain
  have hat := (resolveNames_eq_ok_iff.1 h).2.at?_place
  rw [hplace] at hat ⊢
  refine Folder.kindAt?_putAt habove (fun e he => ?_) hinside
  obtain ⟨content, rfl⟩ := hplain e (hat.symm.trans he)
  rfl

/-- The tree grows when an entry is put at a free place, or a file over another. -/
theorem grows_put (hw : w.HasWorkingFolder) (h : w.resolveNames follow p names = .ok target)
    (hplain : target.IsPlain) (hinside : entry.inside = .empty)
    (hentry : target.entry? = none ∨ ∃ content, entry = .file content) :
    w.Grows (w.put target.place entry) := by
  refine ⟨rfl, Folder.grows_of_kindAt? fun other => ?_⟩
  rw [kindAt?_put hw h hplain hinside]
  have hat := (resolveNames_eq_ok_iff.1 h).2.at?_place
  by_cases hother : target.place = other
  · subst hother
    cases hold : target.entry? with
    | none => exact .inr (.inl (hat.trans hold))
    | some old =>
      obtain ⟨content, rfl⟩ := hplain old hold
      obtain ⟨content', rfl⟩ := hentry.resolve_left (by simp [hold])
      exact .inr (.inr ⟨content, content', hat.trans hold, at?_put hw h hplain⟩)
  · exact .inl (if_neg hother)

end

/-! ## Making directories -/

/-- `w'` is `w` with empty directories put, one after the other, at free places that some of the
paths lead to. -/
inductive Makes (paths : List Path) (w : Workspace) : Workspace → Prop
  | nothing : Makes paths w w
  | folder {w' : Workspace} {p : Path} {place : Location} :
      Makes paths w w' → p ∈ paths → w'.resolveNames false p (names p) = .ok (.free place) →
      Makes paths w (w'.put place (.folder true .empty))

theorem Makes.weaken {more : List Path} (h : Makes paths w w') (hmore : ∀ p ∈ paths, p ∈ more) :
    Makes more w w' := by
  induction h with
  | nothing => exact .nothing
  | folder _ hmem hfree ih => exact .folder ih (hmore _ hmem) hfree

theorem Makes.makeFolder (h : Makes paths w w') (hp : p ∈ paths) :
    Makes paths w (w'.makeFolder p).2 := by
  unfold Workspace.makeFolder
  split
  · next hfree => exact .folder h hp hfree
  · exact h
  · exact h

theorem makes_makeFolders (w : Workspace) (paths : List Path) :
    Makes paths w (w.makeFolders paths).2 := by
  induction paths with
  | nil => exact .nothing
  | cons p parents ih =>
    have hp : p ∈ p :: parents := List.mem_cons_self ..
    have hparents : Makes (p :: parents) w (w.makeFolders parents).2 :=
      ih.weaken fun _ hmem => List.mem_cons_of_mem p hmem
    rw [makeFolders]
    split
    · next w' hmade =>
      have hmakes := Makes.nothing (w := w) |>.makeFolder hp
      rwa [hmade] at hmakes
    · split
      · next hfailed => rwa [hfailed] at hparents
      · next w' hmade =>
        rw [hmade] at hparents
        split
        · exact hparents
        · exact hparents.makeFolder hp
    · exact .nothing
    · exact .nothing

/-- A path leads to the directory that was made at its place. -/
theorem resolve_made (hw : w.HasWorkingFolder)
    (hfree : w.resolveNames false p (names p) = .ok (.free place)) :
    (w.put place (.folder true .empty)).resolve p =
      .ok (.found place (.folder true .empty)) := by
  have hplain : (Target.free place).IsPlain := Target.isPlain_of_free rfl
  have hgrows : w.Grows (w.put place (.folder true .empty)) :=
    grows_put hw hfree hplain rfl (.inl rfl)
  obtain ⟨hp, hleads⟩ := resolveNames_eq_ok_iff.1 hfree
  have hfollow : w.resolveNames true p (names p) = .ok (.free place) :=
    resolveNames_eq_ok_iff.2 ⟨hp, hleads.of_free rfl⟩
  exact resolve_of_names (hgrows.resolveNames hfollow (at?_put hw hfree hplain) (by simp))

/-- What making directories leaves: a tree that has grown, in which only places that were free have
changed. Each is now a directory to which one of the paths leads. -/
structure MadeOnly (paths : List Path) (w w' : Workspace) : Prop where
  grows : w.Grows w'
  only : ∀ place, w'.root.kindAt? place = w.root.kindAt? place ∨
    w.root.at? place = none ∧
      ∃ p ∈ paths, ∃ inside, w'.resolve p = .ok (.found place (.folder true inside))

theorem Makes.madeOnly (hw : w.HasWorkingFolder) (h : Makes paths w w') :
    MadeOnly paths w w' := by
  induction h with
  | nothing => exact ⟨.refl w, fun _ => .inl rfl⟩
  | @folder middle p place _ hp hfree ih =>
    have hmiddle := ih.grows.hasWorkingFolder hw
    have hplain : (Target.free place).IsPlain := Target.isPlain_of_free rfl
    have hgrows : middle.Grows (middle.put place (.folder true .empty)) :=
      grows_put hmiddle hfree hplain rfl (.inl rfl)
    refine ⟨ih.grows.trans hgrows, fun other => ?_⟩
    by_cases hother : place = other
    · -- the directory that was made last
      subst hother
      have hnone : middle.root.at? place = none := (resolveNames_eq_ok_iff.1 hfree).2.at?_place
      exact .inr ⟨ih.grows.root.at?_eq_none hnone, p, hp, .empty, resolve_made hmiddle hfree⟩
    · have hkind : (middle.put place (.folder true .empty)).root.kindAt? other =
          middle.root.kindAt? other :=
        (kindAt?_put hmiddle hfree hplain rfl other).trans (if_neg hother)
      rw [hkind]
      refine (ih.only other).imp_right fun ⟨hnone, p, hp, inside, hresolve⟩ => ?_
      obtain ⟨inside', hresolve'⟩ := hgrows.resolve_folder hresolve
      exact ⟨hnone, p, hp, inside', hresolve'⟩

/-! ## Writing a file -/

variable {content : Bytes}

/-- A file is written where there was one, or where there was nothing. -/
theorem exists_of_write (hw : w.HasWorkingFolder) (h : w.write p content = (.ok (), w')) :
    ∃ target, w.resolveNames true p (names p) = .ok target ∧ target.IsPlain ∧
      asksFolder p = false ∧ w' = w.put target.place (.file content) := by
  unfold Workspace.write at h
  split at h
  · cases h
  · cases h
  · next place entry hfolder hfound =>
    split at h
    · cases h
    · next hslash =>
      cases h
      refine ⟨.found place entry, hfound, ?_, by simpa using hslash, rfl⟩
      intro e he
      cases he
      cases entry with
      | file content => exact ⟨content, rfl⟩
      | link goal =>
        exact absurd rfl ((resolveNames_eq_ok_iff.1 hfound).2.ne_link (hw.hasFolder_start p) goal)
      | folder listable inside => exact absurd rfl (hfolder listable inside)
  · next place hfree =>
    split at h
    · cases h
    · next hslash =>
      cases h
      exact ⟨.free place, hfree, Target.isPlain_of_free rfl, by simpa using hslash, rfl⟩

/-- What writing a file below directories leaves when it succeeds: the file with its content, and
everything else as it was but for directories that were missing. -/
structure Saved (w w' : Workspace) (p : Path) (content : Bytes) : Prop where
  here : w'.here = w.here
  changed : ∃ place, w'.resolve p = .ok (.found place (.file content)) ∧
    ∀ other, w'.root.kindAt? other = w.root.kindAt? other ∨ other = place ∨
      w.root.at? other = none ∧ ∃ above ∈ Path.parents p, ∃ inside,
        w'.resolve above = .ok (.found other (.folder true inside))

theorem saved_of_writeBelow (hw : w.HasWorkingFolder)
    (h : w.writeBelow p content = (.ok (), w')) : Saved w w' p content := by
  unfold Workspace.writeBelow at h
  split at h
  · cases h
  · next made hmade =>
    have hmakes := makes_makeFolders w (Path.parents p)
    rw [hmade] at hmakes
    have hmadeOnly := hmakes.madeOnly hw
    have hmadeHere := hmadeOnly.grows.hasWorkingFolder hw
    obtain ⟨target, hresolve, hplain, hslash, rfl⟩ := exists_of_write hmadeHere h
    have hgrows : made.Grows (made.put target.place (.file content)) :=
      grows_put hmadeHere hresolve hplain rfl (.inr ⟨content, rfl⟩)
    refine ⟨hmadeOnly.grows.here, target.place, ?_, fun other => ?_⟩
    · rw [resolve, hslash]
      simp only [Bool.false_eq_true, if_false, List.append_nil]
      exact hgrows.resolveNames hresolve (at?_put hmadeHere hresolve hplain) (by simp)
    · rw [kindAt?_put hmadeHere hresolve hplain rfl other]
      by_cases hother : target.place = other
      · exact .inr (.inl hother.symm)
      · rw [if_neg hother]
        refine (hmadeOnly.only other).imp_right fun ⟨hnone, above, habove, inside, hleads⟩ => ?_
        obtain ⟨inside', hleads'⟩ := hgrows.resolve_folder hleads
        exact .inr ⟨hnone, above, habove, inside', hleads'⟩

/-- A file that was saved is read back. -/
theorem Saved.read (h : Saved w w' p content) : w'.read p = .ok content := by
  obtain ⟨place, hresolve, _⟩ := h.changed
  rw [Workspace.read, entry, hresolve]

end Workspace

end Bindery
