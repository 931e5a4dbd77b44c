import Bindery.Text.Utf8

set_option autoImplicit false

/-! # What is written is read back

The bytes of a text are decoded into the text again (`decode?_encode`). A character goes through the
decoder by itself: its first byte tells how many follow and where the second may lie, and each later
one brings in six bits (`decodeFrom_encodeChar`). -/

namespace Bindery

namespace Utf8

theorem toNat_toUInt8 {n : Nat} (h : n < 256) : n.toUInt8.toNat = n := by
  rw [Nat.toUInt8, UInt8.toNat_ofNat']
  exact Nat.mod_eq_of_lt h

/-! ## The first byte -/

theorem start_one {n : Nat} (h : n < 0x80) : start n.toUInt8 = .char (Char.ofNat n) := by
  rw [start, toNat_toUInt8 (by omega)]
  exact if_pos h

theorem start_two {n : Nat} (h : 0x80 ≤ n) (h' : n < 0x800) :
    start (0xC0 + n / 64).toUInt8 = .lead ⟨0, 0x80, 0xBF, n / 64, 1⟩ := by
  rw [start, toNat_toUInt8 (by omega)]
  simp only [if_neg (show ¬ 0xC0 + n / 64 < 0x80 by omega),
    if_neg (show ¬ 0xC0 + n / 64 < 0xC2 by omega), if_pos (show 0xC0 + n / 64 < 0xE0 by omega),
    Nat.add_sub_cancel_left]

/-- The second of three bytes is confined where fewer bytes would do, and before the surrogates. -/
theorem start_three {n : Nat} (h : 0x800 ≤ n) (h' : n < 0x10000)
    (hsurrogate : n < 0xD800 ∨ 0xDFFF < n) :
    ∃ low high, start (0xE0 + n / 4096).toUInt8 = .lead ⟨1, low, high, n / 4096, 1⟩ ∧
      low ≤ 0x80 + n / 64 % 64 ∧ 0x80 + n / 64 % 64 ≤ high := by
  rw [start, toNat_toUInt8 (by omega)]
  simp only [if_neg (show ¬ 0xE0 + n / 4096 < 0x80 by omega),
    if_neg (show ¬ 0xE0 + n / 4096 < 0xC2 by omega), if_neg (show ¬ 0xE0 + n / 4096 < 0xE0 by omega)]
  by_cases hfirst : n / 4096 = 0
  · exact ⟨0xA0, 0xBF, by simp [hfirst], by omega, by omega⟩
  · by_cases hlast : n / 4096 = 0xD
    · exact ⟨0x80, 0x9F, by simp [hlast], by omega, by omega⟩
    · refine ⟨0x80, 0xBF, ?_, by omega, by omega⟩
      simp only [if_neg (show ¬ 0xE0 + n / 4096 = 0xE0 by omega),
        if_neg (show ¬ 0xE0 + n / 4096 = 0xED by omega),
        if_pos (show 0xE0 + n / 4096 < 0xF0 by omega), Nat.add_sub_cancel_left]

/-- The second of four bytes is confined where fewer bytes would do, and at the last code point. -/
theorem start_four {n : Nat} (h : 0x10000 ≤ n) (h' : n < 0x110000) :
    ∃ low high, start (0xF0 + n / 262144).toUInt8 = .lead ⟨2, low, high, n / 262144, 1⟩ ∧
      low ≤ 0x80 + n / 4096 % 64 ∧ 0x80 + n / 4096 % 64 ≤ high := by
  rw [start, toNat_toUInt8 (by omega)]
  simp only [if_neg (show ¬ 0xF0 + n / 262144 < 0x80 by omega),
    if_neg (show ¬ 0xF0 + n / 262144 < 0xC2 by omega),
    if_neg (show ¬ 0xF0 + n / 262144 < 0xE0 by omega),
    if_neg (show ¬ 0xF0 + n / 262144 = 0xE0 by omega),
    if_neg (show ¬ 0xF0 + n / 262144 = 0xED by omega),
    if_neg (show ¬ 0xF0 + n / 262144 < 0xF0 by omega)]
  by_cases hfirst : n / 262144 = 0
  · exact ⟨0x90, 0xBF, by simp [hfirst], by omega, by omega⟩
  · by_cases hlast : n / 262144 = 4
    · exact ⟨0x80, 0x8F, by simp [hlast], by omega, by omega⟩
    · refine ⟨0x80, 0xBF, ?_, by omega, by omega⟩
      simp only [if_neg (show ¬ 0xF0 + n / 262144 = 0xF0 by omega),
        if_pos (show 0xF0 + n / 262144 < 0xF4 by omega), Nat.add_sub_cancel_left]

/-! ## The later bytes -/

variable {p : Pending} {k : Nat}

/-- A later byte in its range brings in six bits. -/
theorem next_tail (hk : k < 64) (hlow : p.low ≤ 0x80 + k) (hhigh : 0x80 + k ≤ p.high) :
    p.next (0x80 + k).toUInt8 =
      match p.owed with
      | 0 => .char (Char.ofNat (p.bits * 64 + k))
      | owed + 1 => .lead ⟨owed, 0x80, 0xBF, p.bits * 64 + k, p.taken + 1⟩ := by
  have hbyte : (0x80 + k).toUInt8.toNat = 0x80 + k := toNat_toUInt8 (by omega)
  rw [Pending.next, hbyte, if_pos ⟨hlow, hhigh⟩]
  cases p.owed with
  | zero => simp only [Nat.add_sub_cancel_left]
  | succ owed => simp only [Nat.add_sub_cancel_left]

/-- The last byte completes the character. -/
theorem decodeFrom_last {index low high bits taken : Nat} (bytes : Bytes) (hk : k < 64)
    (hlow : low ≤ 0x80 + k) (hhigh : 0x80 + k ≤ high) :
    decodeFrom index (some ⟨0, low, high, bits, taken⟩) ((0x80 + k).toUInt8 :: bytes) =
      (decodeFrom (index + taken + 1) none bytes).map (Char.ofNat (bits * 64 + k) :: ·) := by
  rw [decodeFrom, next_tail hk hlow hhigh]

/-- Any other later byte leaves the rest of the character to those behind it. -/
theorem decodeFrom_inner {index owed low high bits taken : Nat} (bytes : Bytes) (hk : k < 64)
    (hlow : low ≤ 0x80 + k) (hhigh : 0x80 + k ≤ high) :
    decodeFrom index (some ⟨owed + 1, low, high, bits, taken⟩) ((0x80 + k).toUInt8 :: bytes) =
      decodeFrom index (some ⟨owed, 0x80, 0xBF, bits * 64 + k, taken + 1⟩) bytes := by
  rw [decodeFrom, next_tail hk hlow hhigh]

/-! ## Characters and texts -/

theorem decodeFrom_encodeChar (index : Nat) (c : Char) (bytes : Bytes) :
    decodeFrom index none (encodeChar c ++ bytes) =
      (decodeFrom (index + (encodeChar c).length) none bytes).map (c :: ·) := by
  have hchar : Char.ofNat c.toNat = c := Char.ofNat_toNat c
  -- the code points of characters leave out the surrogates and end at `0x10FFFF`
  have hvalid : c.toNat < 0xD800 ∨ 0xDFFF < c.toNat ∧ c.toNat < 0x110000 := c.valid
  unfold encodeChar
  generalize c.toNat = n at hchar hvalid
  simp only
  split
  · next hone =>
    rw [List.singleton_append, decodeFrom, start_one hone, hchar]
    rfl
  · split
    · next hone htwo =>
      have hbits : n / 64 * 64 + n % 64 = n := by omega
      rw [List.cons_append, List.singleton_append, decodeFrom, start_two (by omega) htwo]
      simp only
      rw [decodeFrom_last bytes (by omega) (by omega) (by omega), hbits, hchar]
      rfl
    · split
      · next hone htwo hthree =>
        have hbits : (n / 4096 * 64 + n / 64 % 64) * 64 + n % 64 = n := by omega
        obtain ⟨low, high, hstart, hlow, hhigh⟩ := start_three (by omega) hthree (by omega)
        rw [List.cons_append, List.cons_append, List.singleton_append, decodeFrom, hstart]
        simp only
        rw [decodeFrom_inner _ (by omega) hlow hhigh,
          decodeFrom_last bytes (by omega) (by omega) (by omega), hbits, hchar]
        rfl
      · next hone htwo hthree =>
        have hbits :
            ((n / 262144 * 64 + n / 4096 % 64) * 64 + n / 64 % 64) * 64 + n % 64 = n := by
          omega
        obtain ⟨low, high, hstart, hlow, hhigh⟩ :=
          start_four (n := n) (by omega) (by omega)
        rw [List.cons_append, List.cons_append, List.cons_append, List.singleton_append,
          decodeFrom, hstart]
        simp only
        rw [decodeFrom_inner _ (by omega) hlow hhigh,
          decodeFrom_inner _ (by omega) (by omega) (by omega),
          decodeFrom_last bytes (by omega) (by omega) (by omega), hbits, hchar]
        rfl

theorem decodeFrom_encode (index : Nat) (text : Text) :
    decodeFrom index none (encode text) = .ok text := by
  induction text generalizing index with
  | nil => rfl
  | cons c text ih =>
    rw [encode, List.flatMap_cons, decodeFrom_encodeChar, ← encode, ih]
    rfl

/-- What is written is read back. -/
theorem decode?_encode (text : Text) : decode? (encode text) = some text := by
  rw [decode?, decode, decodeFrom_encode]
  rfl

end Utf8

end Bindery
