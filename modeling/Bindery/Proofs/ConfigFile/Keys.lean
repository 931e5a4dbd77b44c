import Bindery.Proofs.Metadata.Mapping
import Bindery.Proofs.Settings.Valid

set_option autoImplicit false

/-! # The keys of a configuration file

No table of a configuration file has a key twice, however deep it is: a statement that would give a
key a second value is refused. Each change of a table keeps this (`Entries.HasDistinctKeys.alter`),
and what is read has it from the start (`hasDistinctKeys_of_read?`). So the metadata that settings
hold has distinct keys too, wherever the settings come from (`hasDistinctKeys_header_of_load`). -/

namespace Bindery

namespace ConfigFile

mutual

/-- No table in a value has a key twice. -/
def Node.HasDistinctKeys : Node → Prop
  | .list _ items => Items.HaveDistinctKeys items
  | .table _ entries => Entries.HasDistinctKeys entries
  | _ => True

/-- No table in the items of a list has a key twice. -/
def Items.HaveDistinctKeys : List Node → Prop
  | [] => True
  | node :: nodes => node.HasDistinctKeys ∧ Items.HaveDistinctKeys nodes

/-- Neither the entries nor a table in their values have a key twice. -/
def Entries.HasDistinctKeys : Entries → Prop
  | [] => True
  | (key, node) :: entries =>
    (∀ entry ∈ entries, entry.1 ≠ key) ∧ node.HasDistinctKeys ∧ Entries.HasDistinctKeys entries

end

theorem Items.haveDistinctKeys_iff {items : List Node} :
    HaveDistinctKeys items ↔ ∀ node ∈ items, node.HasDistinctKeys := by
  induction items with
  | nil => simp [HaveDistinctKeys]
  | cons node items ih => simp [HaveDistinctKeys, ih]

namespace Entries

variable {key : Text} {path : List Text} {origin : Origin} {entries altered : Entries} {node : Node}

/-! ## Changing entries -/

/-- Nothing but the key of the change can be added. -/
theorem key_of_mem_alter {change : Option Node → Option Node}
    (h : alter key change entries = some altered) :
    ∀ entry ∈ altered, entry.1 = key ∨ ∃ other ∈ entries, other.1 = entry.1 := by
  induction entries generalizing altered with
  | nil =>
    obtain ⟨node, -, rfl⟩ := Option.map_eq_some_iff.1 h
    simp
  | cons entry entries ih =>
    rw [alter] at h
    split at h
    · obtain ⟨node, -, rfl⟩ := Option.map_eq_some_iff.1 h
      intro other hother
      obtain rfl | hother := List.mem_cons.1 hother
      · exact .inr ⟨entry, List.mem_cons_self .., rfl⟩
      · exact .inr ⟨other, List.mem_cons_of_mem _ hother, rfl⟩
    · obtain ⟨rest, hrest, rfl⟩ := Option.map_eq_some_iff.1 h
      intro other hother
      obtain rfl | hother := List.mem_cons.1 hother
      · exact .inr ⟨_, List.mem_cons_self .., rfl⟩
      · refine (ih hrest other hother).imp_right ?_
        rintro ⟨old, hold, hkey⟩
        exact ⟨old, List.mem_cons_of_mem _ hold, hkey⟩

/-- A change of one value keeps the keys distinct if it does so in the value. -/
theorem HasDistinctKeys.alter {change : Option Node → Option Node}
    (hentries : HasDistinctKeys entries)
    (hchange : ∀ old new, (∀ node ∈ old, node.HasDistinctKeys) → change old = some new →
      new.HasDistinctKeys)
    (h : alter key change entries = some altered) : HasDistinctKeys altered := by
  induction entries generalizing altered with
  | nil =>
    obtain ⟨node, hnode, rfl⟩ := Option.map_eq_some_iff.1 h
    exact ⟨by simp, hchange none node (by simp) hnode, trivial⟩
  | cons entry entries ih =>
    obtain ⟨hkey, hnode, hentries⟩ := hentries
    rw [Entries.alter] at h
    split at h
    · obtain ⟨node, hnew, rfl⟩ := Option.map_eq_some_iff.1 h
      exact ⟨hkey, hchange _ node (by simpa using hnode) hnew, hentries⟩
    · next hne =>
      obtain ⟨rest, hrest, rfl⟩ := Option.map_eq_some_iff.1 h
      refine ⟨?_, hnode, ih hentries hrest⟩
      intro other hother
      obtain hother | ⟨old, hold, hother⟩ := key_of_mem_alter hrest other hother
      · rw [hother]
        exact Ne.symm hne
      · rw [← hother]
        exact hkey old hold

/-- A change of the table that a path leads to keeps all keys distinct if it does so there. -/
theorem HasDistinctKeys.alterBelow {dotted : Bool} {change : Origin → Entries → Option Entries}
    (hentries : HasDistinctKeys entries)
    (hchange : ∀ origin inside changed, HasDistinctKeys inside →
      change origin inside = some changed → HasDistinctKeys changed)
    (h : alterBelow dotted change path origin entries = some altered) :
    HasDistinctKeys altered := by
  induction path generalizing origin entries altered with
  | nil => exact hchange origin entries altered hentries h
  | cons key path ih =>
    refine hentries.alter ?_ h
    intro old new hold hnew
    split at hnew
    · -- a table is made on the way
      obtain ⟨inside, hinside, rfl⟩ := Option.map_eq_some_iff.1 hnew
      have hempty : HasDistinctKeys [] := trivial
      exact ih hempty hinside
    · next origin inside =>
      split at hnew
      · cases hnew
      · obtain ⟨changed, hchanged, rfl⟩ := Option.map_eq_some_iff.1 hnew
        exact ih (hold _ rfl) hchanged
    · next items =>
      have hitems := Items.haveDistinctKeys_iff.1 (hold _ rfl)
      split at hnew
      · next origin inside hlast =>
        obtain ⟨changed, hchanged, rfl⟩ := Option.map_eq_some_iff.1 hnew
        refine Items.haveDistinctKeys_iff.2 ?_
        rw [List.forall_mem_append, List.forall_mem_singleton]
        refine ⟨fun node hnode => hitems node (List.dropLast_subset items hnode), ?_⟩
        exact ih (hitems _ (List.mem_of_getLast? hlast)) hchanged
      · cases hnew
    · cases hnew

theorem HasDistinctKeys.addPair (hentries : HasDistinctKeys entries) (hnode : node.HasDistinctKeys)
    (h : addPair path key node origin entries = some altered) : HasDistinctKeys altered := by
  refine hentries.alterBelow ?_ h
  intro origin inside changed hinside hchanged
  split at hchanged
  · cases hchanged
  · refine hinside.alter ?_ hchanged
    intro old new hold hnew
    split at hnew
    · cases hnew
      exact hnode
    · cases hnew

theorem HasDistinctKeys.openTable (hentries : HasDistinctKeys entries)
    (h : openTable path key entries = some altered) : HasDistinctKeys altered := by
  refine hentries.alterBelow ?_ h
  intro origin inside changed hinside hchanged
  refine hinside.alter ?_ hchanged
  intro old new hold hnew
  split at hnew
  · cases hnew
    trivial
  · next inside =>
    cases hnew
    have hinside : HasDistinctKeys inside := hold _ rfl
    exact hinside
  · cases hnew

theorem HasDistinctKeys.openElement (hentries : HasDistinctKeys entries)
    (h : openElement path key entries = some altered) : HasDistinctKeys altered := by
  refine hentries.alterBelow ?_ h
  intro origin inside changed hinside hchanged
  refine hinside.alter ?_ hchanged
  intro old new hold hnew
  split at hnew
  · cases hnew
    exact ⟨trivial, trivial⟩
  · next items =>
    cases hnew
    refine Items.haveDistinctKeys_iff.2 ?_
    rw [List.forall_mem_append, List.forall_mem_singleton]
    exact ⟨Items.haveDistinctKeys_iff.1 (hold _ rfl), trivial⟩
  · cases hnew

/-! ## Reading -/

/-- The entries between braces are added one after the other. -/
theorem HasDistinctKeys.addPairs {pairs : List (List Text × Text × Node)}
    (hentries : HasDistinctKeys entries) (hpairs : ∀ pair ∈ pairs, pair.2.2.HasDistinctKeys)
    (h : pairs.foldlM (fun entries (path, key, value) =>
      Entries.addPair path key value .braced entries) entries = some altered) :
    HasDistinctKeys altered := by
  induction pairs generalizing entries with
  | nil =>
    cases h
    exact hentries
  | cons pair pairs ih =>
    obtain ⟨hpair, hpairs⟩ := List.forall_mem_cons.1 hpairs
    rw [List.foldlM_cons] at h
    obtain ⟨next, hnext, h⟩ := Option.bind_eq_some_iff.1 h
    exact ih (hentries.addPair hpair hnext) hpairs h

theorem hasDistinctKeys_of_ofPairs {pairs : List (List Text × Text × Node)}
    (hpairs : ∀ pair ∈ pairs, pair.2.2.HasDistinctKeys) (h : ofPairs pairs = some entries) :
    HasDistinctKeys entries := by
  have hempty : HasDistinctKeys [] := trivial
  exact hempty.addPairs hpairs h

end Entries

variable {text rest : Text} {node : Node}

theorem hasDistinctKeys_of_scalar (h : scalar text = some (node, rest)) :
    node.HasDistinctKeys := by
  have hatom : ∀ {atom node}, atomValue? atom = some node → node.HasDistinctKeys := by
    intro atom node h
    unfold atomValue? at h
    split at h
    · cases h
      trivial
    · split at h
      · cases h
        trivial
      · split at h <;> cases h <;> trivial
  unfold scalar at h
  split at h
  · obtain ⟨read, -, hread⟩ := Option.map_eq_some_iff.1 h
    cases hread
    trivial
  · obtain ⟨read, -, hread⟩ := Option.map_eq_some_iff.1 h
    cases hread
    trivial
  · obtain ⟨read, hatomValue, hread⟩ := Option.map_eq_some_iff.1 h
    cases hread
    exact hatom hatomValue

/-- What holds of each item that is read holds of all that are read. -/
theorem forall_mem_of_items {α : Type} {item : Reader α} {close : Char} {P : α → Prop}
    (hitem : ∀ text x rest, item text = some (x, rest) → P x) {fuel : Nat} {xs : List α}
    (h : items item close fuel text = some (xs, rest)) : ∀ x ∈ xs, P x := by
  induction fuel generalizing text rest xs with
  | zero => cases h
  | succ fuel ih =>
    unfold items at h
    split at h
    · cases h
    · cases h
    · split at h
      · cases h
        simp
      · split at h
        · cases h
        · next x _ hx =>
          split at h
          · obtain ⟨read, hread, heq⟩ := Option.map_eq_some_iff.1 h
            cases heq
            exact List.forall_mem_cons.2 ⟨hitem _ x _ hx, ih hread⟩
          · split at h
            · cases h
              exact List.forall_mem_singleton.2 (hitem _ x _ hx)
            · cases h
          · cases h

theorem hasDistinctKeys_of_pair {value : Reader Node} {pair : List Text × Text × Node}
    (hvalue : ∀ text node rest, value text = some (node, rest) → node.HasDistinctKeys)
    (h : ConfigFile.pair value text = some (pair, rest)) : pair.2.2.HasDistinctKeys := by
  unfold ConfigFile.pair at h
  split at h
  · obtain ⟨read, hread, heq⟩ := Option.map_eq_some_iff.1 h
    cases heq
    exact hvalue _ _ _ hread
  · cases h

/-- A value that is read has no key twice in a table. -/
theorem hasDistinctKeys_of_value {depth : Nat} (h : value depth text = some (node, rest)) :
    node.HasDistinctKeys := by
  induction depth generalizing text node rest with
  | zero => exact hasDistinctKeys_of_scalar h
  | succ depth ih =>
    have hinner : ∀ text node rest, value depth text = some (node, rest) →
        node.HasDistinctKeys := by
      intro text node rest hread
      exact ih hread
    unfold value at h
    split at h
    · next hdepth =>
      obtain rfl := Nat.succ.inj hdepth
      obtain ⟨read, hread, heq⟩ := Option.map_eq_some_iff.1 h
      cases heq
      exact Items.haveDistinctKeys_iff.2 (forall_mem_of_items hinner hread)
    · next hdepth =>
      obtain rfl := Nat.succ.inj hdepth
      split at h
      · cases h
      · next pairs _ hpairs =>
        obtain ⟨entries, hentries, heq⟩ := Option.map_eq_some_iff.1 h
        cases heq
        refine Entries.hasDistinctKeys_of_ofPairs (forall_mem_of_items ?_ hpairs) hentries
        intro text pair rest hpair
        exact hasDistinctKeys_of_pair hinner hpair
    · exact hasDistinctKeys_of_scalar h

/-- If a statement gives a key a value, no table in it has a key twice. -/
def Statement.HasDistinctKeys : Statement → Prop
  | .pair _ _ value => value.HasDistinctKeys
  | .header _ _ => True
  | .element _ _ => True

theorem hasDistinctKeys_of_statement {s : Statement} (h : statement text = some (s, rest)) :
    s.HasDistinctKeys := by
  unfold statement at h
  split at h
  · split at h
    · cases h
      trivial
    · cases h
  · split at h
    · cases h
      trivial
    · cases h
  · obtain ⟨read, hread, heq⟩ := Option.map_eq_some_iff.1 h
    cases heq
    exact hasDistinctKeys_of_pair (fun _ _ _ h => hasDistinctKeys_of_value h) hread

theorem hasDistinctKeys_of_statements {fuel : Nat} {read : List Statement}
    (h : statements fuel text = some read) : ∀ s ∈ read, s.HasDistinctKeys := by
  induction fuel generalizing text read with
  | zero => cases h
  | succ fuel ih =>
    unfold statements at h
    split at h
    · cases h
    · cases h
      simp
    · split at h
      · cases h
      · next s _ hs =>
        obtain ⟨_, -, h⟩ := Option.bind_eq_some_iff.1 h
        obtain ⟨others, hothers, rfl⟩ := Option.map_eq_some_iff.1 h
        exact List.forall_mem_cons.2 ⟨hasDistinctKeys_of_statement hs, ih hothers⟩

theorem Entries.HasDistinctKeys.addStatements {place : List Text} {entries altered : Entries}
    {read : List Statement} (hentries : HasDistinctKeys entries)
    (hread : ∀ s ∈ read, s.HasDistinctKeys)
    (h : addStatements place entries read = some altered) : HasDistinctKeys altered := by
  induction read generalizing place entries with
  | nil =>
    cases h
    exact hentries
  | cons s read ih =>
    obtain ⟨hs, hrest⟩ := List.forall_mem_cons.1 hread
    cases s with
    | pair path key value =>
      obtain ⟨next, hnext, h⟩ := Option.bind_eq_some_iff.1 h
      refine ih (hentries.alterBelow ?_ hnext) hrest h
      intro origin inside changed hinside hchanged
      exact hinside.addPair hs hchanged
    | header path key =>
      obtain ⟨next, hnext, h⟩ := Option.bind_eq_some_iff.1 h
      exact ih (hentries.openTable hnext) hrest h
    | element path key =>
      obtain ⟨next, hnext, h⟩ := Option.bind_eq_some_iff.1 h
      exact ih (hentries.openElement hnext) hrest h

/-- No table of a configuration file has a key twice. -/
theorem hasDistinctKeys_of_read? {entries : Entries} (h : read? text = some entries) :
    entries.HasDistinctKeys := by
  obtain ⟨read, hread, h⟩ := Option.bind_eq_some_iff.1 h
  have hempty : Entries.HasDistinctKeys [] := trivial
  exact hempty.addStatements (hasDistinctKeys_of_statements hread) h

/-! ## As metadata -/

theorem Entries.HasDistinctKeys.nodup {entries : Entries} (h : HasDistinctKeys entries) :
    (entries.map (·.1)).Nodup := by
  induction entries with
  | nil => exact List.nodup_nil
  | cons entry entries ih =>
    obtain ⟨hkey, -, hentries⟩ := h
    rw [List.map_cons, List.nodup_cons]
    refine ⟨?_, ih hentries⟩
    rw [List.mem_map]
    rintro ⟨other, hother, hsame⟩
    exact hkey other hother hsame

theorem Entries.HasDistinctKeys.of_mem {entries : Entries} (h : HasDistinctKeys entries) :
    ∀ entry ∈ entries, entry.2.HasDistinctKeys := by
  induction entries with
  | nil => simp
  | cons entry entries ih => exact List.forall_mem_cons.2 ⟨h.2.1, ih h.2.2⟩

/-- Entries stay entries with the same keys. -/
theorem map_fst_of_toEntries? {entries : Entries} {values : List (Text × Value)}
    (h : Node.toEntries? entries = some values) : values.map (·.1) = entries.map (·.1) := by
  induction entries generalizing values with
  | nil =>
    cases h
    rfl
  | cons entry entries ih =>
    obtain ⟨value, -, h⟩ := Option.bind_eq_some_iff.1 h
    obtain ⟨others, hothers, rfl⟩ := Option.map_eq_some_iff.1 h
    rw [List.map_cons, List.map_cons, ih hothers]

/-- The mapping that a value is has distinct keys. -/
theorem hasDistinctKeys_of_toValue? {mapping : Mapping} (hnode : node.HasDistinctKeys)
    (h : node.toValue? = some (.map mapping)) : mapping.HasDistinctKeys := by
  cases node with
  | table origin entries =>
    obtain ⟨values, hvalues, heq⟩ := Option.map_eq_some_iff.1 h
    cases heq
    have hnodup : ((values.mergeSort fun a b => Text.le a.1 b.1).map (·.1)).Nodup := by
      rw [((List.mergeSort_perm values _).map _).nodup_iff, map_fst_of_toEntries? hvalues]
      exact Entries.HasDistinctKeys.nodup hnode
    refine List.pairwise_map.2 ((List.pairwise_map.1 hnodup).imp ?_)
    intro a b hne
    rw [← Bool.not_eq_true, Value.text_same_iff, Value.text.injEq]
    exact Ne.symm hne
  | moment value =>
    cases h
    exact List.pairwise_singleton _ _
  | int value =>
    unfold Node.toValue? at h
    split at h <;> cases h
  | list grows items =>
    obtain ⟨values, -, heq⟩ := Option.map_eq_some_iff.1 h
    cases heq
  | _ => cases h

theorem hasDistinctKeys_of_header? {entries : Entries} {key : Text} {mapping : Mapping}
    (hentries : entries.HasDistinctKeys) (h : header? (entries.get? key) = some mapping) :
    mapping.HasDistinctKeys := by
  cases hnode : entries.get? key with
  | none =>
    rw [hnode] at h
    cases h
    exact List.Pairwise.nil
  | some node =>
    rw [hnode] at h
    unfold header? at h
    dsimp only at h
    split at h
    · next hvalue =>
      cases h
      obtain ⟨entry, hentry, rfl⟩ := Option.map_eq_some_iff.1 hnode
      exact hasDistinctKeys_of_toValue? (hentries.of_mem entry (List.mem_of_find?_eq_some hentry))
        hvalue
    · cases h

end ConfigFile

namespace Settings

variable {files : Workspace} {environment : Environment} {named : Option Path}
  {overrides : Overrides} {settings expanded : Settings}

theorem hasDistinctKeys_header_of_ofText? {text : Text} (h : ofText? text = some settings) :
    settings.header.HasDistinctKeys := by
  obtain ⟨entries, hentries, h⟩ := Option.bind_eq_some_iff.1 h
  simp only [ConfigFile.settings?, bind, Option.bind_eq_some_iff] at h
  obtain ⟨_, -, _, -, _, -, _, -, _, -, _, -, header, hheader, heq⟩ := h
  cases heq
  exact ConfigFile.hasDistinctKeys_of_header? (ConfigFile.hasDistinctKeys_of_read? hentries) hheader

theorem header_of_expandVariables (h : settings.expandVariables environment = .ok expanded) :
    expanded.header = settings.header := by
  simp only [expandVariables, bind_eq_ok_iff] at h
  obtain ⟨_, -, _, -, _, -, _, -, _, -, heq⟩ := h
  cases heq
  rfl

/-- The metadata in settings that are in force has distinct keys. -/
theorem hasDistinctKeys_header_of_load
    (h : load files environment named overrides = .ok settings) :
    settings.header.HasDistinctKeys := by
  obtain ⟨found, hfound, rfl⟩ := map_eq_ok_iff.1 h
  change found.header.HasDistinctKeys
  obtain ⟨path, hpath⟩ | rfl := exists_ofFile_of_find hfound
  · obtain ⟨_, written, expanded, -, hwritten, hexpanded, -, rfl⟩ := ofFile_eq_ok_iff.1 hpath
    change expanded.header.HasDistinctKeys
    rw [header_of_expandVariables hexpanded]
    exact hasDistinctKeys_header_of_ofText? hwritten
  · exact List.Pairwise.nil

end Settings

end Bindery
