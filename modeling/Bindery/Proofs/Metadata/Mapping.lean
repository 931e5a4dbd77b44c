import Bindery.Metadata.Value
import Bindery.Proofs.Span

set_option autoImplicit false

/-! # Mappings

A mapping keeps its entries in order, and each key stands in it once (`HasDistinctKeys`).
`insertAll_eq` says what comes of giving it the entries of another: its own keys stay in their
places, with the new values where there are any, and the other entries follow in their order. Keys
are compared by their identities; a text is the same as itself and as no other value
(`Value.text_same_iff`). -/

namespace Bindery

namespace Value

/-! ## Identity -/

/-- A text that tells where it ends is known by it. -/
theorem delimited_injective {text other : Text} (h : delimited text = delimited other) :
    text = other := by
  -- the length is written in digits, so the first colon ends it
  have hdigits : ∀ n, ':' ∉ Text.ofNat n := by
    intro n hmem
    have hdigit := Nat.isDigit_of_mem_toDigits (by decide) (by decide) hmem
    exact absurd hdigit (by decide)
  obtain ⟨tail, hlength, hrest⟩ := exists_of_append_eq_append_cons (hdigits text.length) h
  cases tail with
  | nil => exact (List.cons.inj hrest).2
  | cons c tail =>
    obtain rfl := (List.cons.inj hrest).1
    exact absurd (hlength ▸ List.mem_append_right _ (List.mem_cons_self ..))
      (hdigits other.length)

theorem exists_identity_float (value : Binary64) :
    ∃ rest, identity (.float value) = 'r' :: delimited rest := by
  match value with
  | .nan => exact ⟨_, rfl⟩
  | .infinite negative => exact ⟨_, rfl⟩
  | .finite negative 0 exponent => exact ⟨_, rfl⟩
  | .finite negative (mantissa + 1) exponent => exact ⟨_, rfl⟩

theorem same_iff {a b : Value} : a.same b = true ↔ a.identity = b.identity := by
  simp [same]

theorem same_comm (a b : Value) : a.same b = b.same a := by
  simp [same, beq_eq_decide, eq_comm]

/-- Two values that are the same are the same as the same values. -/
theorem same_congr {a b : Value} (h : a.same b = true) (c : Value) : c.same a = c.same b := by
  simp only [same, same_iff.1 h]

/-- A text is the same as no other value. -/
theorem text_same_iff {text : Text} {value : Value} :
    (Value.text text).same value = true ↔ value = .text text := by
  rw [same_iff]
  constructor
  · intro h
    cases value with
    | text other =>
      simp only [identity, List.cons.injEq, true_and] at h
      rw [delimited_injective h]
    | float value =>
      obtain ⟨rest, hrest⟩ := exists_identity_float value
      rw [hrest] at h
      simp [identity] at h
    | bool value => cases value <;> simp [identity] at h
    | _ => simp [identity] at h
  · rintro rfl
    rfl

end Value

namespace Mapping

/-- No two entries have the same key. -/
def HasDistinctKeys (mapping : Mapping) : Prop :=
  mapping.Pairwise fun a b => a.1.same b.1 = false

instance (mapping : Mapping) : Decidable (HasDistinctKeys mapping) :=
  inferInstanceAs (Decidable (mapping.Pairwise fun a b => a.1.same b.1 = false))

/-- A mapping with the values that the entries give its keys. -/
def updated (entries mapping : Mapping) : Mapping :=
  mapping.map fun entry => (entry.1, (get? entry.1 entries).getD entry.2)

/-- The entries whose keys a mapping does not have. -/
def added (entries mapping : Mapping) : Mapping :=
  entries.filter fun entry => (get? entry.1 mapping).isNone

variable {key other value : Value} {entries mapping : Mapping}

/-! ## One key -/

theorem get?_cons (key : Value) (entry : Value × Value) (mapping : Mapping) :
    get? key (entry :: mapping) = if entry.1.same key then some entry.2 else get? key mapping := by
  unfold get?
  rw [List.find?_cons]
  split <;> simp_all

/-- Keys that are the same have the same value. -/
theorem get?_congr (h : key.same other = true) (mapping : Mapping) :
    get? key mapping = get? other mapping := by
  simp only [get?, Value.same_congr h]

theorem get?_eq_none_iff :
    get? key mapping = none ↔ ∀ entry ∈ mapping, entry.1.same key = false := by
  simp [get?]

theorem insert_of_get?_eq_none (h : get? key mapping = none) :
    insert key value mapping = mapping ++ [(key, value)] := by
  induction mapping with
  | nil => rfl
  | cons entry mapping ih =>
    rw [get?_eq_none_iff, List.forall_mem_cons] at h
    simp only [insert, h.1, Bool.false_eq_true, if_false, List.cons_append,
      ih (get?_eq_none_iff.2 h.2)]

/-- A key that a mapping has keeps its place. -/
theorem insert_of_get?_ne_none (hdistinct : HasDistinctKeys mapping) (h : get? key mapping ≠ none) :
    insert key value mapping =
      mapping.map fun entry => (entry.1, if entry.1.same key then value else entry.2) := by
  induction mapping with
  | nil => exact absurd rfl h
  | cons entry mapping ih =>
    obtain ⟨hentry, hdistinct⟩ := List.pairwise_cons.1 hdistinct
    rw [List.map_cons]
    by_cases hsame : entry.1.same key = true
    · -- the key does not stand a second time
      have hothers : ∀ e ∈ mapping, (e.1, if e.1.same key then value else e.2) = e := by
        intro e he
        have hne := hentry e he
        rw [Value.same_comm, Value.same_congr hsame] at hne
        simp [hne]
      simp only [insert, hsame, if_true, List.map_congr_left hothers, List.map_id']
    · rw [get?_cons, if_neg hsame] at h
      simp only [insert, if_neg hsame, ih hdistinct h]

theorem get?_insert (key value other : Value) (mapping : Mapping) :
    get? other (insert key value mapping) =
      if key.same other then some value else get? other mapping := by
  induction mapping with
  | nil => rw [insert, get?_cons]
  | cons entry mapping ih =>
    by_cases hsame : entry.1.same key = true
    · simp only [insert, if_pos hsame, get?_cons]
      rw [Value.same_comm entry.1, Value.same_comm key, Value.same_congr hsame]
      split <;> rfl
    · simp only [insert, if_neg hsame, get?_cons, ih]
      by_cases hentry : entry.1.same other = true
      · have hkey : ¬ key.same other = true := by
          rw [← Value.same_congr hentry, Value.same_comm]
          exact hsame
        rw [if_pos hentry, if_neg hkey, if_pos hentry]
      · rw [if_neg hentry, if_neg hentry]

theorem HasDistinctKeys.insert (h : HasDistinctKeys mapping) (key value : Value) :
    HasDistinctKeys (insert key value mapping) := by
  by_cases hkey : get? key mapping = none
  · rw [insert_of_get?_eq_none hkey]
    refine List.pairwise_append.2 ⟨h, List.pairwise_singleton _ _, ?_⟩
    intro entry hentry added hadded
    obtain rfl := List.mem_singleton.1 hadded
    exact get?_eq_none_iff.1 hkey entry hentry
  · rw [insert_of_get?_ne_none h hkey]
    exact List.pairwise_map.2 h

/-! ## Many keys -/

theorem insertAll_cons (entry : Value × Value) (entries mapping : Mapping) :
    insertAll (entry :: entries) mapping = insertAll entries (insert entry.1 entry.2 mapping) := rfl

theorem HasDistinctKeys.insertAll (h : HasDistinctKeys mapping) (entries : Mapping) :
    HasDistinctKeys (insertAll entries mapping) := by
  induction entries generalizing mapping with
  | nil => exact h
  | cons entry entries ih => exact ih (h.insert entry.1 entry.2)

theorem added_insert (h : get? key entries = none) (value : Value) (mapping : Mapping) :
    added entries (insert key value mapping) = added entries mapping := by
  refine List.filter_congr ?_
  intro entry hentry
  have hne : ¬ key.same entry.1 = true := by
    rw [Value.same_comm, get?_eq_none_iff.1 h entry hentry]
    exact Bool.false_ne_true
  rw [get?_insert, if_neg hne]

/-- An entry whose key the mapping does not have updates nothing. -/
theorem updated_cons_of_get?_eq_none {entry : Value × Value} (h : get? entry.1 mapping = none)
    (entries : Mapping) : updated (entry :: entries) mapping = updated entries mapping := by
  refine List.map_congr_left ?_
  intro e he
  have hne : ¬ entry.1.same e.1 = true := by
    rw [Value.same_comm, get?_eq_none_iff.1 h e he]
    exact Bool.false_ne_true
  rw [get?_cons, if_neg hne]

/-- An entry whose key the mapping has is the last word on it, if the other entries do not have that
key. -/
theorem updated_insert {entry : Value × Value} (hmapping : HasDistinctKeys mapping)
    (h : get? entry.1 mapping ≠ none) (hnone : get? entry.1 entries = none) :
    updated entries (insert entry.1 entry.2 mapping) = updated (entry :: entries) mapping := by
  rw [insert_of_get?_ne_none hmapping h]
  unfold updated
  rw [List.map_map]
  refine List.map_congr_left ?_
  intro e he
  simp only [Function.comp_apply, get?_cons]
  rw [Value.same_comm e.1]
  by_cases hsame : entry.1.same e.1 = true
  · have hother : get? e.1 entries = none := by
      rw [← hnone, get?_congr hsame]
    simp [hsame, hother]
  · simp [hsame]

/-- The keys of a mapping stay in their places, with the new values where there are any, and the
other entries follow in their order. -/
theorem insertAll_eq (hentries : HasDistinctKeys entries) (hmapping : HasDistinctKeys mapping) :
    insertAll entries mapping = updated entries mapping ++ added entries mapping := by
  induction entries generalizing mapping with
  | nil => simp [insertAll, updated, added, get?]
  | cons entry entries ih =>
    obtain ⟨hentry, hentries⟩ := List.pairwise_cons.1 hentries
    have hnone : get? entry.1 entries = none := by
      rw [get?_eq_none_iff]
      intro e he
      rw [Value.same_comm]
      exact hentry e he
    rw [insertAll_cons, ih hentries (hmapping.insert _ _), added_insert hnone]
    by_cases hkey : get? entry.1 mapping = none
    · have hadded : added (entry :: entries) mapping = entry :: added entries mapping :=
        List.filter_cons_of_pos (by simp [hkey])
      rw [insert_of_get?_eq_none hkey, updated_cons_of_get?_eq_none hkey, hadded]
      simp [updated, hnone]
    · have hadded : added (entry :: entries) mapping = added entries mapping :=
        List.filter_cons_of_neg (by simpa using hkey)
      rw [updated_insert hmapping hkey hnone, hadded]

/-- Entries with none of the keys of a mapping come behind it. -/
theorem insertAll_eq_append (hentries : HasDistinctKeys entries) (hmapping : HasDistinctKeys mapping)
    (h : ∀ entry ∈ entries, get? entry.1 mapping = none) :
    insertAll entries mapping = mapping ++ entries := by
  have hadded : added entries mapping = entries := by
    refine List.filter_eq_self.2 ?_
    intro entry hentry
    rw [h entry hentry]
    rfl
  have hupdated : updated entries mapping = mapping := by
    clear hadded hentries
    induction entries with
    | nil => simp [updated, get?]
    | cons entry entries ih =>
      obtain ⟨hentry, hentries⟩ := List.forall_mem_cons.1 h
      rw [updated_cons_of_get?_eq_none hentry, ih hentries]
  rw [insertAll_eq hentries hmapping, hupdated, hadded]

end Mapping

end Bindery
