import Bindery.Files.Workspace
import Bindery.Proofs.Files.Place

set_option autoImplicit false

/-! # Where a walk leads

`Leads` tells the walks that arrive, step by step, and `walk_eq_ok_iff` says that these are the walks
the program makes. What is said about paths is proved along the steps: a walk ends where the tree
has an entry or in a directory that has room for one, a walk in a tree that has grown ends at the
same place (`Leads.grows`), and a walk through a directory can be cut there (`Leads.append`). -/

namespace Bindery

namespace Folder

/-- `root'` has everything that `root` has. A file may have got another content. -/
structure Grows (root root' : Folder) : Prop where
  file : ∀ {place content}, root.at? place = some (.file content) →
    ∃ content', root'.at? place = some (.file content')
  link : ∀ {place target}, root.at? place = some (.link target) →
    root'.at? place = some (.link target)
  folder : ∀ {place listable inside}, root.at? place = some (.folder listable inside) →
    ∃ inside', root'.at? place = some (.folder listable inside')

theorem Grows.refl (root : Folder) : Grows root root :=
  ⟨fun h => ⟨_, h⟩, fun h => h, fun h => ⟨_, h⟩⟩

theorem Grows.trans {first second third : Folder} (h : Grows first second)
    (h' : Grows second third) : Grows first third where
  file hfile := by
    obtain ⟨_, hfile'⟩ := h.file hfile
    exact h'.file hfile'
  link hlink := h'.link (h.link hlink)
  folder hfolder := by
    obtain ⟨_, hfolder'⟩ := h.folder hfolder
    exact h'.folder hfolder'

end Folder

namespace Workspace

/-- The place a target is at. -/
def Target.place : Target → Location
  | .found place _ => place
  | .free place => place

/-- What is at the place of a target. -/
def Target.entry? : Target → Option Entry
  | .found _ entry => some entry
  | .free _ => none

/-- A name that a walk looks up; the others tell it to stay or to go back. -/
structure IsStep (name : Text) : Prop where
  notHere : name ≠ ['.']
  notUp : name ≠ ['.', '.']
  short : Text.byteLength name ≤ nameLimit

/-- A walk that stands at a place and has names before it ends at a target. At most `links` symbolic
links are followed on the way, one at the end only if `follow` is set. -/
inductive Leads (root : Folder) (follow : Bool) : Nat → Location → List Text → Target → Prop
  | arrive {links : Nat} {place : Location} {entry : Entry} :
      root.at? place = some entry → Leads root follow links place [] (.found place entry)
  | stay {links : Nat} {place : Location} {names : List Text} {target : Target} :
      Leads root follow links place names target →
      Leads root follow links place (['.'] :: names) target
  | ascend {links : Nat} {place : Location} {names : List Text} {target : Target} :
      Leads root follow links place.dropLast names target →
      Leads root follow links place (['.', '.'] :: names) target
  | free {links : Nat} {place : Location} {name : Text} :
      IsStep name → root.at? (place ++ [name]) = none →
      Leads root follow links place [name] (.free (place ++ [name]))
  | file {links : Nat} {place : Location} {name : Text} {content : Bytes} :
      IsStep name → root.at? (place ++ [name]) = some (.file content) →
      Leads root follow links place [name] (.found (place ++ [name]) (.file content))
  | descend {links : Nat} {place : Location} {name : Text} {names : List Text} {listable : Bool}
      {inside : Folder} {target : Target} :
      IsStep name → root.at? (place ++ [name]) = some (.folder listable inside) →
      Leads root follow links (place ++ [name]) names target →
      Leads root follow links place (name :: names) target
  | link {links : Nat} {place : Location} {name : Text} {goal : Path} :
      IsStep name → root.at? (place ++ [name]) = some (.link goal) → follow = false →
      Leads root follow links place [name] (.found (place ++ [name]) (.link goal))
  | jump {links : Nat} {place : Location} {name : Text} {names : List Text} {goal : Path}
      {target : Target} :
      IsStep name → root.at? (place ++ [name]) = some (.link goal) → names ≠ [] ∨ follow = true →
      goal ≠ [] →
      Leads root follow links (if goal.isAbsolute then [] else place) (Workspace.names goal ++ names)
        target →
      Leads root follow (links + 1) place (name :: names) target

variable {root root' : Folder} {follow : Bool} {links : Nat} {place : Location}
  {names rest : List Text} {target : Target}

theorem leads_of_walk (h : walk root follow links place names = .ok target) :
    Leads root follow links place names target := by
  fun_induction walk root follow links place names with
  | case1 links place entry hat =>
    cases h
    exact .arrive hat
  | case2 => cases h
  | case3 links place names ih => exact .stay (ih h)
  | case4 links place names _ ih => exact .ascend (ih h)
  | case5 => cases h
  | case6 links place name hhere hup hlong hat =>
    cases h
    exact .free ⟨hhere, hup, Nat.le_of_not_lt hlong⟩ hat
  | case7 => cases h
  | case8 links place name hhere hup hlong content hat =>
    cases h
    exact .file ⟨hhere, hup, Nat.le_of_not_lt hlong⟩ hat
  | case9 => cases h
  | case10 links place name names hhere hup hlong listable inside hat ih =>
    exact .descend ⟨hhere, hup, Nat.le_of_not_lt hlong⟩ hat (ih h)
  | case11 links place name names hhere hup hlong goal hat hend =>
    obtain ⟨rfl, hfollow⟩ := hend
    cases h
    exact .link ⟨hhere, hup, Nat.le_of_not_lt hlong⟩ hat (by simpa using hfollow)
  | case12 => cases h
  | case13 => cases h
  | case14 place name names hhere hup hlong goal hat hgoes links hto ih =>
    refine .jump ⟨hhere, hup, Nat.le_of_not_lt hlong⟩ hat ?_ hto (ih h)
    by_cases hnames : names = []
    · exact .inr (by simpa [hnames] using hgoes)
    · exact .inl hnames

theorem walk_of_leads (h : Leads root follow links place names target) :
    walk root follow links place names = .ok target := by
  induction h with
  | arrive hat => rw [walk, hat]
  | stay _ ih => rw [walk, if_pos rfl, ih]
  | ascend _ ih => rw [walk, if_neg (by decide), if_pos rfl, ih]
  | free hname hat =>
    rw [walk, if_neg hname.notHere, if_neg hname.notUp, if_neg (Nat.not_lt.2 hname.short), hat]
    rfl
  | file hname hat =>
    rw [walk, if_neg hname.notHere, if_neg hname.notUp, if_neg (Nat.not_lt.2 hname.short), hat]
    rfl
  | descend hname hat _ ih =>
    rw [walk, if_neg hname.notHere, if_neg hname.notUp, if_neg (Nat.not_lt.2 hname.short), hat]
    exact ih
  | link hname hat hfollow =>
    rw [walk, if_neg hname.notHere, if_neg hname.notUp, if_neg (Nat.not_lt.2 hname.short), hat]
    simp [hfollow]
  | @jump links place name names goal target hname hat hgoes hto _ ih =>
    have hgoes' : ¬ (names = [] ∧ ¬ follow = true) := by
      rintro ⟨hnames, hfollow⟩
      rcases hgoes with h | h
      · exact h hnames
      · exact hfollow h
    rw [walk, if_neg hname.notHere, if_neg hname.notUp, if_neg (Nat.not_lt.2 hname.short), hat]
    simp only [if_neg hgoes', if_neg hto, ih]

/-- The walks that end somewhere are those that `Leads` tells. -/
theorem walk_eq_ok_iff :
    walk root follow links place names = .ok target ↔
      Leads root follow links place names target :=
  ⟨leads_of_walk, walk_of_leads⟩

/-- A link found in a directory leads on from a directory. -/
theorem hasFolder_from (hplace : root.HasFolder place) (goal : Path) :
    root.HasFolder (if goal.isAbsolute then [] else place) := by
  split
  · exact Folder.hasFolder_nil root
  · exact hplace

namespace Leads

/-! ## The end of a walk -/

/-- A walk finds what is there, and a free place is free. -/
theorem at?_place (h : Leads root follow links place names target) :
    root.at? target.place = target.entry? := by
  induction h with
  | arrive hat
  | free _ hat
  | file _ hat
  | link _ hat _ => exact hat
  | stay _ ih
  | ascend _ ih
  | descend _ _ _ ih
  | jump _ _ _ _ _ ih => exact ih

/-- A free place is in a directory. -/
theorem exists_folder (hstart : root.HasFolder place)
    (h : Leads root follow links place names target) (hfree : target.entry? = none) :
    ∃ above name, target.place = above ++ [name] ∧ root.HasFolder above := by
  induction h with
  | arrive
  | file
  | link => cases hfree
  | free _ _ => exact ⟨_, _, rfl, hstart⟩
  | stay _ ih => exact ih hstart hfree
  | ascend _ ih => exact ih hstart.dropLast hfree
  | descend _ hat _ ih => exact ih ⟨_, _, hat⟩ hfree
  | jump _ _ _ _ _ ih => exact ih (hasFolder_from hstart _) hfree

/-- A walk that follows links does not end at one. -/
theorem ne_link (hstart : root.HasFolder place)
    (h : Leads root true links place names target) (goal : Path) :
    target.entry? ≠ some (.link goal) := by
  induction h with
  | arrive hat =>
    obtain ⟨listable, inside, hfolder⟩ := hstart
    rw [hfolder] at hat
    cases hat
    simp [Target.entry?]
  | free
  | file => simp [Target.entry?]
  | link _ _ hfollow => cases hfollow
  | stay _ ih => exact ih hstart
  | ascend _ ih => exact ih hstart.dropLast
  | descend _ hat _ ih => exact ih ⟨_, _, hat⟩
  | jump _ _ _ _ _ ih => exact ih (hasFolder_from hstart _)

/-- A walk that does not follow a link at its end and finds nothing there does not find more by
following one. -/
theorem of_free (h : Leads root false links place names target) (hfree : target.entry? = none) :
    Leads root true links place names target := by
  induction h with
  | arrive
  | file
  | link => cases hfree
  | free hname hat => exact .free hname hat
  | stay _ ih => exact .stay (ih hfree)
  | ascend _ ih => exact .ascend (ih hfree)
  | descend hname hat _ ih => exact .descend hname hat (ih hfree)
  | jump hname hat _ hto _ ih => exact .jump hname hat (.inr rfl) hto (ih hfree)

/-- A walk that follows a link at its end arrives without following it too, perhaps at the link. -/
theorem exists_of_follow (h : Leads root true links place names target) :
    ∃ target', Leads root false links place names target' := by
  induction h with
  | arrive hat => exact ⟨_, .arrive hat⟩
  | stay _ ih => exact ih.imp fun _ => .stay
  | ascend _ ih => exact ih.imp fun _ => .ascend
  | free hname hat => exact ⟨_, .free hname hat⟩
  | file hname hat => exact ⟨_, .file hname hat⟩
  | descend hname hat _ ih => exact ih.imp fun _ => .descend hname hat
  | link _ _ hfollow => cases hfollow
  | @jump _ _ _ names _ _ hname hat _ hto _ ih =>
    by_cases hnames : names = []
    · subst hnames
      exact ⟨_, .link hname hat rfl⟩
    · exact ih.imp fun _ => .jump hname hat (.inl hnames) hto

/-- The last name of a free place is the last one that was looked up. -/
theorem getLast?_of_free (h : Leads root false links place names target)
    (hfree : target.entry? = none) :
    ∃ name, IsStep name ∧ names.getLast? = some name ∧ target.place.getLast? = some name := by
  induction h with
  | arrive
  | file
  | link => cases hfree
  | @free _ _ name hname _ => exact ⟨name, hname, rfl, List.getLast?_concat ..⟩
  | stay _ ih
  | ascend _ ih
  | descend _ _ _ ih =>
    obtain ⟨name, hname, hlast, hplace⟩ := ih hfree
    exact ⟨name, hname, by rw [List.getLast?_cons, hlast]; rfl, hplace⟩
  | jump _ _ hgoes _ _ ih =>
    obtain ⟨name, hname, hlast, hplace⟩ := ih hfree
    have hnames := hgoes.resolve_right Bool.false_ne_true
    refine ⟨name, hname, ?_, hplace⟩
    rw [List.getLast?_append, List.getLast?_eq_some_getLast hnames, Option.some_or] at hlast
    rw [List.getLast?_cons, List.getLast?_eq_some_getLast hnames, Option.getD_some, hlast]

/-! ## Walks in a tree that has grown -/

/-- A walk ends at the same place when the tree has grown. A place that was free may have got an
entry, though not a link, which would have to be followed. -/
theorem grows (hgrows : root.Grows root') (h : Leads root follow links place names target)
    {entry : Entry} (hentry : root'.at? target.place = some entry)
    (hlink : target.entry? = none → ∀ goal, entry ≠ .link goal) :
    Leads root' follow links place names (.found target.place entry) := by
  induction h with
  | arrive _ => exact .arrive hentry
  | stay _ ih => exact .stay (ih hentry hlink)
  | ascend _ ih => exact .ascend (ih hentry hlink)
  | free hname _ =>
    cases entry with
    | file content => exact .file hname hentry
    | link goal => exact absurd rfl (hlink rfl goal)
    | folder listable inside => exact .descend hname hentry (.arrive hentry)
  | file hname hat =>
    obtain ⟨content', hat'⟩ := hgrows.file hat
    cases hentry.symm.trans hat'
    exact .file hname hat'
  | link hname hat hfollow =>
    have hat' := hgrows.link hat
    cases hentry.symm.trans hat'
    exact .link hname hat' hfollow
  | descend hname hat _ ih =>
    obtain ⟨inside', hat'⟩ := hgrows.folder hat
    exact .descend hname hat' (ih hentry hlink)
  | jump hname hat hgoes hto _ ih =>
    exact .jump hname (hgrows.link hat) hgoes hto (ih hentry hlink)

/-! ## Walks in parts -/

/-- A walk that has come to a directory can go on from there. -/
theorem append (h : Leads root follow links place names target) {listable : Bool}
    {inside : Folder} (hfolder : target.entry? = some (.folder listable inside)) :
    ∃ left, ∀ {rest last}, Leads root follow left target.place rest last →
      Leads root follow links place (names ++ rest) last := by
  induction h with
  | arrive _ => exact ⟨_, fun hrest => hrest⟩
  | free
  | file
  | link => cases hfolder
  | stay _ ih =>
    obtain ⟨left, hleft⟩ := ih hfolder
    exact ⟨left, fun hrest => .stay (hleft hrest)⟩
  | ascend _ ih =>
    obtain ⟨left, hleft⟩ := ih hfolder
    exact ⟨left, fun hrest => .ascend (hleft hrest)⟩
  | descend hname hat _ ih =>
    obtain ⟨left, hleft⟩ := ih hfolder
    exact ⟨left, fun hrest => .descend hname hat (hleft hrest)⟩
  | jump hname hat hgoes hto _ ih =>
    obtain ⟨left, hleft⟩ := ih hfolder
    refine ⟨left, fun hrest => .jump hname hat ?_ hto ?_⟩
    · exact hgoes.imp_left fun hnames h => hnames (List.append_eq_nil_iff.1 h).1
    · have hall := hleft hrest
      rwa [List.append_assoc] at hall

/-- A walk with names before it is in a directory. -/
theorem exists_directory (hstart : root.HasFolder place)
    (h : Leads root true links place (names ++ rest) target) (hrest : rest ≠ []) :
    ∃ last listable inside,
      Leads root true links place names (.found last (.folder listable inside)) := by
  have harrive : ∀ {links : Nat} {place : Location}, root.HasFolder place →
      ∃ last listable inside,
        Leads root true links place [] (.found last (.folder listable inside)) :=
    fun ⟨listable, inside, hat⟩ => ⟨_, listable, inside, .arrive hat⟩
  generalize hall : names ++ rest = all at h
  induction h generalizing names with
  | arrive _ => exact absurd (List.append_eq_nil_iff.1 hall).2 hrest
  | free _ _
  | file _ _
  | link _ _ _ =>
    cases names with
    | nil => exact harrive hstart
    | cons first names =>
      rw [List.cons_append, List.cons.injEq, List.append_eq_nil_iff] at hall
      exact absurd hall.2.2 hrest
  | stay _ ih =>
    cases names with
    | nil => exact harrive hstart
    | cons first names =>
      cases hall
      obtain ⟨last, listable, inside, hleads⟩ := ih hstart rfl
      exact ⟨last, listable, inside, .stay hleads⟩
  | ascend _ ih =>
    cases names with
    | nil => exact harrive hstart
    | cons first names =>
      cases hall
      obtain ⟨last, listable, inside, hleads⟩ := ih hstart.dropLast rfl
      exact ⟨last, listable, inside, .ascend hleads⟩
  | descend hname hat _ ih =>
    cases names with
    | nil => exact harrive hstart
    | cons first names =>
      cases hall
      obtain ⟨last, listable, inside, hleads⟩ := ih ⟨_, _, hat⟩ rfl
      exact ⟨last, listable, inside, .descend hname hat hleads⟩
  | jump hname hat _ hgoal _ ih =>
    cases names with
    | nil => exact harrive hstart
    | cons first names =>
      cases hall
      obtain ⟨last, listable, inside, hleads⟩ :=
        ih (hasFolder_from hstart _) (List.append_assoc ..)
      exact ⟨last, listable, inside, .jump hname hat (.inr rfl) hgoal hleads⟩

/-- A walk that has come to a directory may stay there. -/
theorem append_here (h : Leads root follow links place names target) {listable : Bool}
    {inside : Folder} (hfolder : target.entry? = some (.folder listable inside)) :
    Leads root follow links place (names ++ [['.']]) target := by
  obtain ⟨left, hleft⟩ := h.append hfolder
  have hat := h.at?_place
  cases target with
  | found last entry =>
    cases hfolder
    exact hleft (.stay (.arrive hat))
  | free last => cases hfolder

/-- Staying at the end adds nothing to a walk. -/
theorem of_append_here (h : Leads root true links place (names ++ [['.']]) target) :
    Leads root true links place names target := by
  generalize hall : names ++ [['.']] = all at h
  induction h generalizing names with
  | arrive _ => simp at hall
  | free hname _
  | file hname _
  | link hname _ _ =>
    cases names with
    | nil =>
      cases hall
      exact absurd rfl hname.notHere
    | cons first names => simp at hall
  | stay hstay ih =>
    cases names with
    | nil =>
      cases hall
      exact hstay
    | cons first names =>
      cases hall
      exact .stay (ih rfl)
  | ascend _ ih =>
    cases names with
    | nil => cases hall
    | cons first names =>
      cases hall
      exact .ascend (ih rfl)
  | descend hname hat _ ih =>
    cases names with
    | nil =>
      cases hall
      exact absurd rfl hname.notHere
    | cons first names =>
      cases hall
      exact .descend hname hat (ih rfl)
  | jump hname hat _ hto _ ih =>
    cases names with
    | nil =>
      cases hall
      exact absurd rfl hname.notHere
    | cons first names =>
      cases hall
      exact .jump hname hat (.inr rfl) hto (ih (List.append_assoc ..))

end Leads

/-- The names below a directory lead down to the entry there, unless it is a link. -/
theorem leads_below {entry : Entry} (hat : root.at? (place ++ rest) = some entry)
    (hentry : ∀ goal, entry ≠ .link goal) (hrest : rest ≠ [])
    (hsteps : ∀ name ∈ rest, IsStep name) :
    Leads root follow links place rest (.found (place ++ rest) entry) := by
  induction rest generalizing place with
  | nil => exact absurd rfl hrest
  | cons name rest ih =>
    have hname := hsteps name (List.mem_cons_self ..)
    by_cases hnil : rest = []
    · subst hnil
      cases entry with
      | file content => exact .file hname hat
      | link goal => exact absurd rfl (hentry goal)
      | folder listable inside => exact .descend hname hat (.arrive hat)
    · rw [List.append_cons] at hat ⊢
      obtain ⟨listable, inside, hfolder, _⟩ := Folder.exists_folder_of_at? hnil hat
      exact .descend hname hfolder
        (ih hat hnil fun n hn => hsteps n (List.mem_cons_of_mem _ hn))

end Workspace

end Bindery
