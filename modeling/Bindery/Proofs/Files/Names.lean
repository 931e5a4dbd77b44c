import Bindery.Index.Scan
import Bindery.Proofs.Files.Walk

set_option autoImplicit false

/-! # Names and paths

The names of a path are what a walk looks up. A name that is joined to a path becomes its last name
(`names_join`), so the path of a document below a directory leads through the names of its place
(`names_pathBelow`). The last name of a path is the one its stem is taken from
(`fileName?_of_getLast?_names`). A walk that starts among proper names stays among them
(`Leads.isName`). -/

namespace Bindery

theorem Text.byteLength_append (a b : Text) :
    byteLength (a ++ b) = byteLength a + byteLength b := by
  have hfold : ∀ n, b.foldl (fun n c => n + c.utf8Size) n = n + byteLength b := by
    intro n
    rw [byteLength]
    induction b generalizing n with
    | nil => rfl
    | cons c b ih => rw [List.foldl_cons, List.foldl_cons, ih, ih (0 + _)]; omega
  rw [byteLength, List.foldl_append, hfold]
  rfl

namespace Path

theorem pieces_ne_nil (p : Path) : pieces p ≠ [] := by
  cases p with
  | nil => simp [pieces]
  | cons c p =>
    rw [pieces]
    split
    · simp
    · split <;> simp

/-- The pieces of a path are cut at a slash. -/
theorem pieces_append_slash (p q : Path) : pieces (p ++ '/' :: q) = pieces p ++ pieces q := by
  induction p with
  | nil => simp [pieces]
  | cons c p ih =>
    rw [List.cons_append, pieces, pieces, ih]
    by_cases hc : c = '/'
    · rw [if_pos hc, if_pos hc, List.cons_append]
    · obtain ⟨piece, rest, hpieces⟩ := List.exists_cons_of_ne_nil (pieces_ne_nil p)
      rw [if_neg hc, if_neg hc, hpieces]
      rfl

/-- The pieces of a path are made of its characters, and none holds a slash. -/
theorem mem_pieces {p : Path} {piece : Text} (h : piece ∈ pieces p) {c : Char} (hc : c ∈ piece) :
    c ∈ p ∧ c ≠ '/' := by
  induction p generalizing piece with
  | nil =>
    rw [pieces, List.mem_singleton] at h
    subst h
    cases hc
  | cons d p ih =>
    rw [pieces] at h
    by_cases hd : d = '/'
    · rw [if_pos hd, List.mem_cons] at h
      rcases h with rfl | h
      · cases hc
      · exact (ih h hc).imp_left (List.mem_cons_of_mem d)
    · obtain ⟨first, rest, hpieces⟩ := List.exists_cons_of_ne_nil (pieces_ne_nil p)
      rw [if_neg hd, hpieces] at h
      rw [hpieces] at ih
      rcases List.mem_cons.1 h with rfl | h
      · rcases List.mem_cons.1 hc with rfl | hc
        · exact ⟨List.mem_cons_self .., hd⟩
        · exact (ih (List.mem_cons_self ..) hc).imp_left (List.mem_cons_of_mem d)
      · exact (ih (List.mem_cons_of_mem first h) hc).imp_left (List.mem_cons_of_mem d)

/-- A text without a slash is one piece. -/
theorem pieces_of_not_mem {p : Path} (h : '/' ∉ p) : pieces p = [p] := by
  induction p with
  | nil => rfl
  | cons c p ih =>
    rw [List.mem_cons, not_or] at h
    rw [pieces, if_neg (Ne.symm h.1), ih h.2]

end Path

namespace Workspace

open Bindery.Path

/-- A text that can stand between slashes. -/
structure IsPiece (name : Text) : Prop where
  nonempty : name ≠ []
  noSlash : '/' ∉ name
  noNul : '\x00' ∉ name

/-- A name that an entry of a directory can have. -/
structure IsName (name : Text) : Prop extends IsPiece name, IsStep name

instance (name : Text) : Decidable (IsPiece name) :=
  decidable_of_iff (name ≠ [] ∧ '/' ∉ name ∧ '\x00' ∉ name)
    ⟨fun ⟨hnonempty, hslash, hnul⟩ => ⟨hnonempty, hslash, hnul⟩,
      fun h => ⟨h.nonempty, h.noSlash, h.noNul⟩⟩

instance (name : Text) : Decidable (IsStep name) :=
  decidable_of_iff (name ≠ ['.'] ∧ name ≠ ['.', '.'] ∧ Text.byteLength name ≤ nameLimit)
    ⟨fun ⟨hhere, hup, hshort⟩ => ⟨hhere, hup, hshort⟩,
      fun h => ⟨h.notHere, h.notUp, h.short⟩⟩

instance (name : Text) : Decidable (IsName name) :=
  decidable_of_iff (IsPiece name ∧ IsStep name)
    ⟨fun ⟨hpiece, hstep⟩ => ⟨hpiece, hstep⟩, fun h => ⟨h.toIsPiece, h.toIsStep⟩⟩

theorem isPiece_of_mem_names {p : Path} (hp : '\x00' ∉ p) {name : Text} (h : name ∈ names p) :
    IsPiece name := by
  rw [names, List.mem_filter, decide_eq_true_eq] at h
  exact ⟨h.2, fun hc => (mem_pieces h.1 hc).2 rfl, fun hc => hp (mem_pieces h.1 hc).1⟩

/-! ## Joined paths -/

theorem names_append_slash (p q : Path) : names (p ++ '/' :: q) = names p ++ names q := by
  rw [names, names, names, pieces_append_slash, List.filter_append]

theorem names_of_isPiece {name : Text} (h : IsPiece name) : names name = [name] := by
  rw [names, pieces_of_not_mem h.noSlash]
  simp [h.nonempty]

theorem IsPiece.not_isAbsolute {name : Text} (h : IsPiece name) :
    ¬ Path.isAbsolute name = true := by
  intro habsolute
  have hhead : name.head? = some '/' := by simpa [Path.isAbsolute] using habsolute
  exact h.noSlash (List.mem_of_mem_head? hhead)

variable {base p : Path} {name : Text}

/-- A relative path that is not empty has a name. -/
theorem names_ne_nil (hp : ¬ Path.isAbsolute p = true) (hne : p ≠ []) : names p ≠ [] := by
  obtain ⟨c, p, rfl⟩ := List.exists_cons_of_ne_nil hne
  have hc : c ≠ '/' := by
    rintro rfl
    exact hp rfl
  obtain ⟨piece, rest, hpieces⟩ := List.exists_cons_of_ne_nil (pieces_ne_nil p)
  rw [names, pieces, if_neg hc, hpieces, List.filter_cons_of_pos (by simp)]
  exact List.cons_ne_nil _ _

theorem prefix_join (hp : ¬ Path.isAbsolute p = true) : base <+: join base p := by
  rw [join, if_neg hp]
  split
  · exact List.prefix_append base p
  · exact List.prefix_append base ('/' :: p)

/-- Joining a relative path to a path puts a slash between them, unless there is one. -/
theorem exists_join (hbase : base ≠ []) (hp : ¬ Path.isAbsolute p = true) :
    ∃ front, join base p = front ++ '/' :: p ∧ names front = names base ∧
      (∀ c ∈ front, c ∈ base) ∧ (front ++ ['/']).head? = base.head? := by
  rw [join, if_neg hp]
  split
  · next hslash =>
    simp only [hbase, decide_false, Bool.false_or, beq_iff_eq] at hslash
    obtain ⟨front, rfl⟩ := List.getLast?_eq_some_iff.1 hslash
    refine ⟨front, by simp, ?_, fun c hc => List.mem_append_left _ hc, rfl⟩
    have h := names_append_slash front []
    rwa [show names [] = [] from rfl, List.append_nil, eq_comm] at h
  · refine ⟨base, rfl, rfl, fun c hc => hc, ?_⟩
    obtain ⟨c, base, rfl⟩ := List.exists_cons_of_ne_nil hbase
    rfl

theorem names_join (hbase : base ≠ []) (hname : IsPiece name) :
    names (join base name) = names base ++ [name] := by
  obtain ⟨front, hjoin, hfront, _⟩ := exists_join hbase hname.not_isAbsolute
  rw [hjoin, names_append_slash, hfront, names_of_isPiece hname]

theorem isAbsolute_join (hbase : base ≠ []) (hp : ¬ Path.isAbsolute p = true) :
    Path.isAbsolute (join base p) = Path.isAbsolute base := by
  obtain ⟨front, hjoin, _, _, hhead⟩ := exists_join hbase hp
  rw [hjoin, Path.isAbsolute, Path.isAbsolute, ← hhead]
  cases front <;> rfl

theorem asksFolder_join (hbase : base ≠ []) (hname : IsPiece name) :
    asksFolder (join base name) = false := by
  obtain ⟨front, hjoin, _⟩ := exists_join hbase hname.not_isAbsolute
  have hlast : name.getLast hname.nonempty ≠ '/' :=
    fun h => hname.noSlash (h ▸ List.getLast_mem hname.nonempty)
  rw [hjoin, asksFolder, List.getLast?_append, List.getLast?_cons,
    List.getLast?_eq_some_getLast hname.nonempty]
  simpa using hlast

theorem noNul_join (hbase : base ≠ []) (hname : IsPiece name) (hnul : '\x00' ∉ base) :
    '\x00' ∉ join base name := by
  obtain ⟨front, hjoin, _, hchars, _⟩ := exists_join hbase hname.not_isAbsolute
  rw [hjoin, List.mem_append, List.mem_cons]
  rintro (h | h | h)
  · exact hnul (hchars _ h)
  · exact absurd h (by decide)
  · exact hname.noNul h

theorem join_ne_nil (hbase : base ≠ []) (hname : IsPiece name) : join base name ≠ [] := by
  obtain ⟨front, hjoin, _⟩ := exists_join hbase hname.not_isAbsolute
  rw [hjoin]
  simp

/-- The path of a place below a directory goes through the names of the place. -/
theorem names_pathBelow {place : Location} (hbase : base ≠ []) (hnul : '\x00' ∉ base)
    (hplace : ∀ name ∈ place, IsPiece name) (hne : place ≠ []) :
    let p := Index.pathBelow base place
    names p = names base ++ place ∧ Path.isAbsolute p = Path.isAbsolute base ∧
      asksFolder p = false ∧ '\x00' ∉ p ∧ p ≠ [] := by
  induction place generalizing base with
  | nil => exact absurd rfl hne
  | cons name place ih =>
    have hname := hplace name (List.mem_cons_self ..)
    have hrest := fun n hn => hplace n (List.mem_cons_of_mem name hn)
    by_cases hnil : place = []
    · subst hnil
      exact ⟨names_join hbase hname, isAbsolute_join hbase hname.not_isAbsolute,
        asksFolder_join hbase hname, noNul_join hbase hname hnul, join_ne_nil hbase hname⟩
    · obtain ⟨hnames, habsolute, hslash, hnul', hne'⟩ :=
        ih (join_ne_nil hbase hname) (noNul_join hbase hname hnul) hrest hnil
      refine ⟨?_, habsolute.trans (isAbsolute_join hbase hname.not_isAbsolute), hslash, hnul', hne'⟩
      rw [names_join hbase hname, List.append_assoc] at hnames
      exact hnames

/-! ## The last name -/

theorem componentsFrom_of_forall {pieces : List Text} (h : ∀ piece ∈ pieces, piece = [])
    (offset : Nat) (front : Bool) : componentsFrom offset front pieces = [] := by
  induction pieces generalizing offset front with
  | nil => rfl
  | cons piece rest ih =>
    rw [componentsFrom, if_pos (h piece (List.mem_cons_self ..))]
    exact ih (fun p hp => h p (List.mem_cons_of_mem piece hp)) _ _

/-- The last component of a path that ends in a name is that name. -/
theorem getLast?_componentsFrom {pieces : List Text}
    (h : (pieces.filter (· ≠ [])).getLast? = some name) (hname : IsStep name) (offset : Nat)
    (front : Bool) :
    ∃ stop, (componentsFrom offset front pieces).getLast? = some (.name name, stop) := by
  induction pieces generalizing offset front with
  | nil => cases h
  | cons piece rest ih =>
    rw [componentsFrom]
    by_cases hrest : rest.filter (· ≠ []) = []
    · -- only empty pieces follow
      have hempty : ∀ p ∈ rest, p = [] := by simpa [List.filter_eq_nil_iff] using hrest
      rw [List.filter_cons, hrest] at h
      split at h
      · next hpiece =>
        obtain rfl : piece = name := Option.some.inj h
        simp only [componentsFrom_of_forall hempty]
        rw [if_neg (by simpa using hpiece), if_neg hname.notHere, if_neg hname.notUp]
        exact ⟨_, rfl⟩
      · cases h
    · have hlast : (rest.filter (· ≠ [])).getLast? = some name := by
        rw [List.filter_cons] at h
        split at h
        · rw [List.getLast?_cons, List.getLast?_eq_some_getLast hrest] at h
          rw [List.getLast?_eq_some_getLast hrest]
          exact h
        · exact h
      obtain ⟨stop, hstop⟩ := ih hlast (offset + piece.length + 1) false
      refine ⟨stop, ?_⟩
      repeat' split
      all_goals simp [List.getLast?_cons, hstop]

/-- A path has the stem of its last name. -/
theorem stem?_of_getLast?_names {p : Path} (h : (names p).getLast? = some name)
    (hname : IsStep name) : Path.stem? p = some (splitName name).1 := by
  have hlast : ∃ stop, (components p).getLast? = some (.name name, stop) := by
    rw [components]
    split
    · obtain ⟨stop, hstop⟩ := getLast?_componentsFrom h hname 0 false
      exact ⟨stop, by rw [List.getLast?_cons, hstop, Option.getD_some]⟩
    · exact getLast?_componentsFrom h hname 0 true
  obtain ⟨stop, hstop⟩ := hlast
  rw [stem?, fileName?, hstop, Option.map_some]

end Workspace

/-! ## Proper names in a tree -/

namespace Folder

variable {root : Folder} {name : Text} {entry : Entry} {place : Location}

/-- All entries have proper names, and no link holds NUL. -/
def IsProper : Folder → Prop
  | .empty => True
  | .file name _ rest => Workspace.IsName name ∧ IsProper rest
  | .link name target rest => Workspace.IsName name ∧ '\x00' ∉ target ∧ IsProper rest
  | .folder name _ inside rest => Workspace.IsName name ∧ IsProper inside ∧ IsProper rest

/-- Whether a tree is proper can be computed. -/
def decideIsProper : (root : Folder) → Decidable (IsProper root)
  | .empty => isTrue trivial
  | .file _ _ rest =>
    have := decideIsProper rest
    inferInstanceAs (Decidable (_ ∧ _))
  | .link _ _ rest =>
    have := decideIsProper rest
    inferInstanceAs (Decidable (_ ∧ _ ∧ _))
  | .folder _ _ inside rest =>
    have := decideIsProper inside
    have := decideIsProper rest
    inferInstanceAs (Decidable (_ ∧ _ ∧ _))

instance (root : Folder) : Decidable (IsProper root) := decideIsProper root

theorem IsProper.find? (h : root.IsProper) (hfind : root.find? name = some entry) :
    Workspace.IsName name ∧ entry.inside.IsProper ∧
      ∀ goal, entry = .link goal → '\x00' ∉ goal := by
  induction root with
  | empty => cases hfind
  | file n content rest ih =>
    rw [Folder.find?] at hfind
    split at hfind
    · next hn =>
      cases hfind
      exact ⟨hn ▸ h.1, trivial, by simp⟩
    · exact ih h.2 hfind
  | link n target rest ih =>
    rw [Folder.find?] at hfind
    split at hfind
    · next hn =>
      cases hfind
      refine ⟨hn ▸ h.1, trivial, ?_⟩
      rintro goal ⟨⟩
      exact h.2.1
    · exact ih h.2.2 hfind
  | folder n listable inside rest _ ih =>
    rw [Folder.find?] at hfind
    split at hfind
    · next hn =>
      cases hfind
      exact ⟨hn ▸ h.1, h.2.1, by simp⟩
    · exact ih h.2.2 hfind

/-- In a proper tree the way to an entry has proper names, and the entry is no link with NUL. -/
theorem IsProper.at? (h : root.IsProper) (hat : root.at? place = some entry) :
    (∀ n ∈ place, Workspace.IsName n) ∧ ∀ goal, entry = .link goal → '\x00' ∉ goal := by
  induction place generalizing root with
  | nil =>
    cases hat
    exact ⟨by simp, by simp⟩
  | cons name place ih =>
    by_cases hplace : place = []
    · subst hplace
      obtain ⟨hname, _, hlink⟩ := h.find? hat
      exact ⟨by simpa using hname, hlink⟩
    · obtain ⟨listable, inside, hfind, hbelow⟩ := exists_folder_of_cons hplace hat
      obtain ⟨hname, hinside, _⟩ := h.find? hfind
      obtain ⟨hnames, hlink⟩ := ih hinside hbelow
      exact ⟨List.forall_mem_cons.2 ⟨hname, hnames⟩, hlink⟩

end Folder

namespace Workspace

/-! ## Walks among proper names -/

/-- A walk that starts among proper names, and follows links without NUL, stays among them. -/
theorem Leads.isName {root : Folder} {follow : Bool} {links : Nat} {place : Location}
    {names : List Text} {target : Target}
    (hlinks : ∀ place goal, root.at? place = some (.link goal) → '\x00' ∉ goal)
    (h : Leads root follow links place names target) (hplace : ∀ name ∈ place, IsName name)
    (hnames : ∀ name ∈ names, IsPiece name) : ∀ name ∈ target.place, IsName name := by
  have hstep : ∀ {place : Location} {name : Text} {names : List Text}, IsStep name →
      (∀ n ∈ place, IsName n) → (∀ n ∈ name :: names, IsPiece n) →
      ∀ n ∈ place ++ [name], IsName n := by
    intro place name names hname hplace hnames n hn
    rcases List.mem_append.1 hn with hn | hn
    · exact hplace n hn
    · obtain rfl := List.mem_singleton.1 hn
      exact ⟨hnames n (List.mem_cons_self ..), hname⟩
  induction h with
  | arrive _ => exact hplace
  | stay _ ih => exact ih hplace fun n hn => hnames n (List.mem_cons_of_mem _ hn)
  | ascend _ ih =>
    exact ih (fun n hn => hplace n (List.dropLast_subset _ hn))
      fun n hn => hnames n (List.mem_cons_of_mem _ hn)
  | free hname _
  | file hname _
  | link hname _ _ => exact hstep hname hplace hnames
  | descend hname _ _ ih =>
    exact ih (hstep hname hplace hnames) fun n hn => hnames n (List.mem_cons_of_mem _ hn)
  | @jump _ _ _ _ goal _ _ hat _ _ _ ih =>
    refine ih ?_ fun n hn => ?_
    · split
      · simp
      · exact hplace
    · rcases List.mem_append.1 hn with hn | hn
      · exact isPiece_of_mem_names (hlinks _ _ hat) hn
      · exact hnames n (List.mem_cons_of_mem _ hn)

end Workspace

end Bindery
