import Bindery.Index.Scan
import Bindery.Proofs.Files.Place

set_option autoImplicit false

/-! # Trees that differ in the contents of files

Two trees are alike if they have the same entries in the same order, down to the files, whose
contents are in a given relation (`Folder.Alike`). Where a path leads and why it leads nowhere does
not depend on contents, so all that is asked of the one tree can be asked of the other, with answers
that are alike, and a file written to both leaves them alike (`Workspace.Alike.writeBelow`). -/

namespace Bindery

/-- Two answers are the same error, or two results in a relation. -/
inductive Corresponds {α β ε : Type} (R : α → β → Prop) : Except ε α → Except ε β → Prop
  | ok {a : α} {b : β} : R a b → Corresponds R (.ok a) (.ok b)
  | error (e : ε) : Corresponds R (.error e) (.error e)

theorem cases_of_rel {α β : Type} {r : α → β → Prop} {x : Option α} {y : Option β}
    (h : Option.Rel r x y) :
    x = none ∧ y = none ∨ ∃ a b, x = some a ∧ y = some b ∧ r a b := by
  cases h with
  | none => exact .inl ⟨rfl, rfl⟩
  | some hab => exact .inr ⟨_, _, rfl, rfl, hab⟩

variable {R : Bytes → Bytes → Prop}

theorem cases_of_corresponds {α β ε : Type} {r : α → β → Prop} {x : Except ε α} {y : Except ε β}
    (h : Corresponds r x y) :
    (∃ e, x = .error e ∧ y = .error e) ∨ ∃ a b, x = .ok a ∧ y = .ok b ∧ r a b := by
  cases h with
  | ok hab => exact .inr ⟨_, _, rfl, rfl, hab⟩
  | error e => exact .inl ⟨e, rfl, rfl⟩

/-- The folders have the same entries in the same order, and the contents of their files are in the
relation. -/
inductive Folder.Alike (R : Bytes → Bytes → Prop) : Folder → Folder → Prop
  | empty : Alike R .empty .empty
  | file {content content' : Bytes} {rest rest' : Folder} (name : Text) :
      R content content' → Alike R rest rest' →
      Alike R (.file name content rest) (.file name content' rest')
  | link {rest rest' : Folder} (name : Text) (target : Path) :
      Alike R rest rest' → Alike R (.link name target rest) (.link name target rest')
  | folder {inside inside' rest rest' : Folder} (name : Text) (listable : Bool) :
      Alike R inside inside' → Alike R rest rest' →
      Alike R (.folder name listable inside rest) (.folder name listable inside' rest')

/-- The entries are files with contents in the relation, the same links, or directories that are
alike. -/
inductive Entry.Alike (R : Bytes → Bytes → Prop) : Entry → Entry → Prop
  | file {content content' : Bytes} : R content content' → Alike R (.file content) (.file content')
  | link (target : Path) : Alike R (.link target) (.link target)
  | folder {inside inside' : Folder} (listable : Bool) :
      Folder.Alike R inside inside' → Alike R (.folder listable inside) (.folder listable inside')

/-- The targets are at the same place, and what is there is alike. -/
inductive Workspace.Target.Alike (R : Bytes → Bytes → Prop) :
    Workspace.Target → Workspace.Target → Prop
  | found {entry entry' : Entry} (place : Location) :
      Entry.Alike R entry entry' → Alike R (.found place entry) (.found place entry')
  | free (place : Location) : Alike R (.free place) (.free place)

/-- The trees are alike, and the working directory is the same. -/
structure Workspace.Alike (R : Bytes → Bytes → Prop) (w w' : Workspace) : Prop where
  here : w'.here = w.here
  root : Folder.Alike R w.root w'.root

/-! ## Entries -/

theorem Entry.Alike.inside {entry entry' : Entry} (h : Entry.Alike R entry entry') :
    Folder.Alike R entry.inside entry'.inside := by
  cases h with
  | file | link => exact .empty
  | folder _ hinside => exact hinside

namespace Folder

variable {root root' : Folder} {entry entry' : Entry}

theorem Alike.cons (name : Text) (hentry : Entry.Alike R entry entry')
    (h : Alike R root root') : Alike R (cons name entry root) (cons name entry' root') := by
  cases hentry with
  | file hcontent => exact .file name hcontent h
  | link target => exact .link name target h
  | folder listable hinside => exact .folder name listable hinside h

theorem Alike.find? (h : Alike R root root') (name : Text) :
    Option.Rel (Entry.Alike R) (root.find? name) (root'.find? name) := by
  induction h with
  | empty => exact .none
  | file n hcontent _ ih =>
    rw [Folder.find?, Folder.find?]
    split
    · exact .some (.file hcontent)
    · exact ih
  | link n target _ ih =>
    rw [Folder.find?, Folder.find?]
    split
    · exact .some (.link target)
    · exact ih
  | folder n listable hinside _ _ ih =>
    rw [Folder.find?, Folder.find?]
    split
    · exact .some (.folder listable hinside)
    · exact ih

theorem Alike.put (name : Text) (hentry : Entry.Alike R entry entry') (h : Alike R root root') :
    Alike R (root.put name entry) (root'.put name entry') := by
  induction h with
  | empty => exact Alike.cons name hentry .empty
  | file n hcontent hrest ih =>
    rw [Folder.put, Folder.put]
    split
    · exact hrest.cons name hentry
    · exact .file n hcontent ih
  | link n target hrest ih =>
    rw [Folder.put, Folder.put]
    split
    · exact hrest.cons name hentry
    · exact .link n target ih
  | folder n listable hinside hrest _ ih =>
    rw [Folder.put, Folder.put]
    split
    · exact hrest.cons name hentry
    · exact .folder n listable hinside ih

theorem Alike.at? (h : Alike R root root') (place : Location) :
    Option.Rel (Entry.Alike R) (root.at? place) (root'.at? place) := by
  induction place generalizing root root' with
  | nil => exact .some (.folder true h)
  | cons name place ih =>
    by_cases hplace : place = []
    · subst hplace
      exact h.find? name
    · rw [at?_cons hplace, at?_cons hplace]
      rcases cases_of_rel (h.find? name) with ⟨hnone, hnone'⟩ | ⟨e, e', hsome, hsome', halike⟩
      · rw [hnone, hnone']
        exact .none
      · rw [hsome, hsome']
        exact ih halike.inside

theorem Alike.at?_eq_none {place : Location} (h : Alike R root root')
    (hat : root.at? place = none) : root'.at? place = none := by
  rcases cases_of_rel (h.at? place) with ⟨-, hnone⟩ | ⟨e, _, hsome, -, -⟩
  · exact hnone
  · rw [hat] at hsome
    cases hsome

theorem Alike.exists_at? {place : Location} (h : Alike R root root')
    (hat : root.at? place = some entry) :
    ∃ entry', root'.at? place = some entry' ∧ Entry.Alike R entry entry' := by
  rcases cases_of_rel (h.at? place) with ⟨hnone, -⟩ | ⟨_, e', hsome, hsome', halike⟩
  · rw [hat] at hnone
    cases hnone
  · rw [hat] at hsome
    cases hsome
    exact ⟨e', hsome', halike⟩

theorem Alike.putAt (place : Location) (hentry : Entry.Alike R entry entry')
    (h : Alike R root root') : Alike R (root.putAt place entry) (root'.putAt place entry') := by
  induction place generalizing root root' with
  | nil => exact h
  | cons name place ih =>
    by_cases hplace : place = []
    · subst hplace
      exact h.put name hentry
    · rcases cases_of_rel (h.find? name) with ⟨hnone, hnone'⟩ | ⟨e, e', hsome, hsome', halike⟩
      · rw [putAt_of_not_folder hplace (by simp [hnone]),
          putAt_of_not_folder hplace (by simp [hnone'])]
        exact h
      · cases halike with
        | file | link =>
          rw [putAt_of_not_folder hplace (by simp [hsome]),
            putAt_of_not_folder hplace (by simp [hsome'])]
          exact h
        | folder listable hinside =>
          rw [putAt_cons hplace hsome, putAt_cons hplace hsome']
          exact h.put name (.folder listable (ih hinside))

theorem Alike.documentsByEntry (h : Alike R root root') :
    root'.documentsByEntry = root.documentsByEntry := by
  induction h with
  | empty => rfl
  | file name _ _ ih => rw [Folder.documentsByEntry, Folder.documentsByEntry, ih]
  | link name target _ ih => rw [Folder.documentsByEntry, Folder.documentsByEntry, ih]
  | folder name listable _ _ ihinside ih =>
    rw [Folder.documentsByEntry, Folder.documentsByEntry, ihinside, ih]

theorem Alike.documents (h : Alike R root root') : root'.documents = root.documents := by
  rw [Folder.documents, Folder.documents, h.documentsByEntry]

end Folder

namespace Workspace

variable {w w' : Workspace}

/-! ## Walking -/

/-- A walk leads to the same place in both trees, or fails in both for the same reason. -/
theorem walk_alike {root root' : Folder} (h : Folder.Alike R root root') (follow : Bool)
    (links : Nat) (place : Location) (names : List Text) :
    Corresponds (Target.Alike R) (walk root follow links place names)
      (walk root' follow links place names) := by
  fun_induction walk root follow links place names with
  | case1 links place entry hat =>
    obtain ⟨entry', hat', halike⟩ := h.exists_at? hat
    rw [walk, hat']
    exact .ok (.found place halike)
  | case2 links place hat =>
    rw [walk, h.at?_eq_none hat]
    exact .error _
  | case3 links place names ih =>
    rw [walk, if_pos rfl]
    exact ih
  | case4 links place names hhere ih =>
    rw [walk, if_neg hhere, if_pos rfl]
    exact ih
  | case5 links place name names hhere hup hlong =>
    rw [walk, if_neg hhere, if_neg hup, if_pos hlong]
    exact .error _
  | case6 links place name hhere hup hlong hat =>
    rw [walk, if_neg hhere, if_neg hup, if_neg hlong, h.at?_eq_none hat]
    exact .ok (.free _)
  | case7 links place name names hhere hup hlong hat hnames =>
    rw [walk, if_neg hhere, if_neg hup, if_neg hlong, h.at?_eq_none hat]
    simp only [if_neg hnames]
    exact .error _
  | case8 links place name hhere hup hlong content hat =>
    obtain ⟨entry', hat', halike⟩ := h.exists_at? hat
    rw [walk, if_neg hhere, if_neg hup, if_neg hlong, hat']
    cases halike with
    | file hcontent => exact .ok (.found _ (.file hcontent))
  | case9 links place name names hhere hup hlong content hat hnames =>
    obtain ⟨entry', hat', halike⟩ := h.exists_at? hat
    rw [walk, if_neg hhere, if_neg hup, if_neg hlong, hat']
    cases halike with
    | file hcontent =>
      simp only [if_neg hnames]
      exact .error _
  | case10 links place name names hhere hup hlong listable inside hat ih =>
    obtain ⟨entry', hat', halike⟩ := h.exists_at? hat
    rw [walk, if_neg hhere, if_neg hup, if_neg hlong, hat']
    cases halike with
    | folder _ _ => exact ih
  | case11 links place name names hhere hup hlong goal hat hend =>
    obtain ⟨entry', hat', halike⟩ := h.exists_at? hat
    rw [walk, if_neg hhere, if_neg hup, if_neg hlong, hat']
    cases halike with
    | link =>
      simp only [if_pos hend]
      exact .ok (.found _ (.link goal))
  | case12 place name names hhere hup hlong goal hat hgoes =>
    obtain ⟨entry', hat', halike⟩ := h.exists_at? hat
    rw [walk, if_neg hhere, if_neg hup, if_neg hlong, hat']
    cases halike with
    | link =>
      simp only [if_neg hgoes]
      exact .error _
  | case13 place name names hhere hup hlong hgoes links hat =>
    obtain ⟨entry', hat', halike⟩ := h.exists_at? hat
    rw [walk, if_neg hhere, if_neg hup, if_neg hlong, hat']
    cases halike with
    | link =>
      simp only [if_neg hgoes]
      exact .error _
  | case14 place name names hhere hup hlong goal hat hgoes links hto ih =>
    obtain ⟨entry', hat', halike⟩ := h.exists_at? hat
    rw [walk, if_neg hhere, if_neg hup, if_neg hlong, hat']
    cases halike with
    | link =>
      simp only [if_neg hgoes, if_neg hto]
      exact ih

/-- The answers are the same, and the files afterwards are alike. -/
def AlikeAfter (R : Bytes → Bytes → Prop)
    (result result' : Except OsError Unit × Workspace) : Prop :=
  ∃ answer made made', result = (answer, made) ∧ result' = (answer, made') ∧ made.Alike R made'

namespace Alike

theorem resolveNames (h : w.Alike R w') (follow : Bool) (p : Path) (names : List Text) :
    Corresponds (Target.Alike R) (w.resolveNames follow p names)
      (w'.resolveNames follow p names) := by
  rw [Workspace.resolveNames, Workspace.resolveNames, h.here]
  split
  · exact .error _
  · split
    · exact .error _
    · split
      · exact .error _
      · exact walk_alike h.root ..

/-! ## Reading -/

theorem entry (h : w.Alike R w') (p : Path) :
    Corresponds (Entry.Alike R) (w.entry p) (w'.entry p) := by
  rw [Workspace.entry, Workspace.entry, resolve, resolve]
  rcases cases_of_corresponds (h.resolveNames true p _) with
    ⟨e, herror, herror'⟩ | ⟨target, target', hok, hok', halike⟩
  · rw [herror, herror']
    exact .error e
  · rw [hok, hok']
    cases halike with
    | found place hentry => exact .ok hentry
    | free place => exact .error _

theorem isFolder (h : w.Alike R w') (p : Path) : w'.isFolder p = w.isFolder p := by
  rw [Workspace.isFolder, Workspace.isFolder]
  rcases cases_of_corresponds (h.entry p) with
    ⟨e, herror, herror'⟩ | ⟨entry, entry', hok, hok', halike⟩
  · rw [herror, herror']
  · rw [hok, hok']
    cases halike <;> rfl

theorem read (h : w.Alike R w') (p : Path) : Corresponds R (w.read p) (w'.read p) := by
  rw [Workspace.read, Workspace.read]
  rcases cases_of_corresponds (h.entry p) with
    ⟨e, herror, herror'⟩ | ⟨entry, entry', hok, hok', halike⟩
  · rw [herror, herror']
    exact .error e
  · rw [hok, hok']
    cases halike with
    | file hcontent => exact .ok hcontent
    | link target => exact .error _
    | folder listable hinside => exact .error _

theorem list (h : w.Alike R w') (p : Path) :
    Corresponds (Folder.Alike R) (w.list p) (w'.list p) := by
  rw [Workspace.list, Workspace.list]
  rcases cases_of_corresponds (h.entry p) with
    ⟨e, herror, herror'⟩ | ⟨entry, entry', hok, hok', halike⟩
  · rw [herror, herror']
    exact .error e
  · rw [hok, hok']
    cases halike with
    | file | link => exact .error _
    | folder listable hinside =>
      cases listable with
      | false => exact .error _
      | true => exact .ok hinside

/-- The documents below a directory are at the same paths. -/
theorem documentPaths (h : w.Alike R w') (folder : Path) :
    Index.documentPaths w' folder = Index.documentPaths w folder := by
  rw [Index.documentPaths, Index.documentPaths]
  rcases cases_of_corresponds (h.list folder) with
    ⟨e, herror, herror'⟩ | ⟨inside, inside', hok, hok', halike⟩
  · rw [herror, herror']
  · rw [hok, hok']
    simp only [Index.visit, halike.documents]

/-! ## Writing -/

theorem put {e e' : Entry} (h : w.Alike R w') (place : Location) (hentry : Entry.Alike R e e') :
    (w.put place e).Alike R (w'.put place e') :=
  ⟨h.here, h.root.putAt place hentry⟩

theorem makeFolder (h : w.Alike R w') (p : Path) :
    AlikeAfter R (w.makeFolder p) (w'.makeFolder p) := by
  rw [Workspace.makeFolder, Workspace.makeFolder]
  rcases cases_of_corresponds (h.resolveNames false p (names p)) with
    ⟨e, herror, herror'⟩ | ⟨target, target', hok, hok', halike⟩
  · rw [herror, herror']
    exact ⟨_, _, _, rfl, rfl, h⟩
  · rw [hok, hok']
    cases halike with
    | found place hentry => exact ⟨_, _, _, rfl, rfl, h⟩
    | free place => exact ⟨_, _, _, rfl, rfl, h.put place (.folder true .empty)⟩

theorem makeFolders (h : w.Alike R w') (paths : List Path) :
    AlikeAfter R (w.makeFolders paths) (w'.makeFolders paths) := by
  induction paths with
  | nil => exact ⟨_, _, _, rfl, rfl, h⟩
  | cons p parents ih =>
    obtain ⟨first, made, made', hmade, hmade', halike⟩ := h.makeFolder p
    rw [Workspace.makeFolders, Workspace.makeFolders, hmade, hmade']
    cases first with
    | ok => exact ⟨_, _, _, rfl, rfl, halike⟩
    | error reason =>
      cases reason with
      | noEntry =>
        obtain ⟨second, above, above', habove, habove', halike'⟩ := ih
        simp only [habove, habove']
        cases second with
        | error e => exact ⟨_, _, _, rfl, rfl, halike'⟩
        | ok =>
          obtain ⟨last, final, final', hfinal, hfinal', halike''⟩ := halike'.makeFolder p
          simp only [hfinal, hfinal', halike'.isFolder]
          cases last with
          | ok => exact ⟨_, _, _, rfl, rfl, halike''⟩
          | error reason =>
            cases reason with
            | alreadyExists => exact ⟨_, _, _, rfl, rfl, halike'⟩
            | _ => exact ⟨_, _, _, rfl, rfl, halike''⟩
      | alreadyExists =>
        simp only [h.isFolder]
        exact ⟨_, _, _, rfl, rfl, h⟩
      | _ => exact ⟨_, _, _, rfl, rfl, h⟩

/-- The same content is written to both, or to none for the same reason. -/
theorem write (hrefl : ∀ content, R content content) (h : w.Alike R w') (p : Path)
    (content : Bytes) : AlikeAfter R (w.write p content) (w'.write p content) := by
  rw [Workspace.write, Workspace.write]
  rcases cases_of_corresponds (h.resolveNames true p (names p)) with
    ⟨e, herror, herror'⟩ | ⟨target, target', hok, hok', halike⟩
  · rw [herror, herror']
    exact ⟨_, _, _, rfl, rfl, h⟩
  · have hput : ∀ place, AlikeAfter R
        (if asksFolder p then (.error .isDirectory, w) else (.ok (), w.put place (.file content)))
        (if asksFolder p then (.error .isDirectory, w')
          else (.ok (), w'.put place (.file content))) := by
      intro place
      split
      · exact ⟨_, _, _, rfl, rfl, h⟩
      · exact ⟨_, _, _, rfl, rfl, h.put place (.file (hrefl content))⟩
    rw [hok, hok']
    cases halike with
    | free place => exact hput place
    | found place hentry =>
      cases hentry with
      | file _ => exact hput place
      | link _ => exact hput place
      | folder _ _ => exact ⟨_, _, _, rfl, rfl, h⟩

theorem writeBelow (hrefl : ∀ content, R content content) (h : w.Alike R w') (p : Path)
    (content : Bytes) : AlikeAfter R (w.writeBelow p content) (w'.writeBelow p content) := by
  obtain ⟨answer, made, made', hmade, hmade', halike⟩ := h.makeFolders (Path.parents p)
  rw [Workspace.writeBelow, Workspace.writeBelow, hmade, hmade']
  cases answer with
  | error e => exact ⟨_, _, _, rfl, rfl, halike⟩
  | ok => exact halike.write hrefl p content

end Alike

end Workspace

end Bindery
