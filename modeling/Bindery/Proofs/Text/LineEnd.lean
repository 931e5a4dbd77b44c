import Bindery.Proofs.Text.Lines
import Bindery.Proofs.Unicode.Lowercase
import Bindery.Text.Utf8
import Mathlib.Tactic.SplitIfs

set_option autoImplicit false

/-! # Carriage returns in front of line feeds

`Text.withReturns` gives each line feed of a text a carriage return in front of it, and
`Bytes.withReturns` does so with the bytes of a file. Both agree (`decode?_withReturns`), because a
byte below `0x80` never belongs to a longer character, and a longer character is never a line feed
or a carriage return. A text without carriage returns keeps its lines
(`Text.lines_withReturns`). -/

namespace Bindery

/-! ## Texts -/

namespace Text

/-- The text with a carriage return in front of each line feed. -/
def withReturns (text : Text) : Text :=
  text.flatMap fun c => if c = '\n' then ['\r', '\n'] else [c]

/-- The second text is the first, or the first holds no carriage return and the second has got one
in front of each line feed. -/
def SameLines (text text' : Text) : Prop :=
  text' = text ∨ '\r' ∉ text ∧ text' = text.withReturns

theorem withReturns_nil : withReturns [] = [] := rfl

theorem withReturns_lineFeed (text : Text) :
    withReturns ('\n' :: text) = '\r' :: '\n' :: withReturns text := rfl

theorem withReturns_cons {c : Char} (h : c ≠ '\n') (text : Text) :
    withReturns (c :: text) = c :: withReturns text := by
  simp [withReturns, h]

theorem withReturns_append (front text : Text) :
    withReturns (front ++ text) = withReturns front ++ withReturns text :=
  List.flatMap_append

theorem withReturns_of_not_mem {line : Text} (h : '\n' ∉ line) : withReturns line = line := by
  induction line with
  | nil => rfl
  | cons c line ih =>
    obtain ⟨hc, hline⟩ := not_or.1 (mt List.mem_cons.2 h)
    rw [withReturns_cons (Ne.symm hc), ih hline]

/-- A carriage return in front of a line feed belongs to the end of the line. -/
theorem lines_withReturns {text : Text} (h : '\r' ∉ text) :
    lines text.withReturns = lines text := by
  induction text using line_induction with
  | last line hline => rw [withReturns_of_not_mem hline]
  | line line rest hline ih =>
    obtain ⟨hreturn, hrest⟩ := not_or.1 (mt List.mem_append.2 h)
    have hended : '\n' ∉ line ++ ['\r'] := by simp [hline]
    have htext : withReturns (line ++ '\n' :: rest) =
        line ++ ['\r'] ++ '\n' :: withReturns rest := by
      rw [withReturns_append, withReturns_of_not_mem hline, withReturns_lineFeed]
      simp
    rw [htext, lines_line hended, dropReturn_append_return,
      ih fun hmem => hrest (List.mem_cons_of_mem _ hmem), lines_line hline,
      dropReturn_of_getLast?_ne fun hlast => hreturn (List.mem_of_getLast? hlast)]

theorem SameLines.lines_eq {text text' : Text} (h : SameLines text text') :
    lines text' = lines text := by
  rcases h with rfl | ⟨hreturn, rfl⟩
  · rfl
  · exact lines_withReturns hreturn

/-! ## Markers within a line -/

section

variable {marker : Text} (hfeed : '\n' ∉ marker) (hreturn : '\r' ∉ marker)

include hfeed hreturn

/-- A marker without line ends stands at the start of both texts or of none. -/
theorem after?_withReturns (text : Text) :
    after? marker text.withReturns = (after? marker text).map withReturns := by
  induction marker generalizing text with
  | nil => rfl
  | cons m marker ih =>
    obtain ⟨hm, hfeed⟩ := not_or.1 (mt List.mem_cons.2 hfeed)
    obtain ⟨hm', hreturn⟩ := not_or.1 (mt List.mem_cons.2 hreturn)
    cases text with
    | nil => rfl
    | cons c text =>
      by_cases hc : c = '\n'
      · subst hc
        simp [withReturns_lineFeed, after?, Ne.symm hm, Ne.symm hm']
      · rw [withReturns_cons hc, after?, after?]
        split
        · exact ih hfeed hreturn text
        · rfl

/-- Both texts are cut at the same marker. -/
theorem cut?_withReturns (hne : marker ≠ []) (text : Text) :
    cut? marker text.withReturns =
      (cut? marker text).map (Prod.map withReturns withReturns) := by
  induction text with
  | nil => simp [withReturns_nil, cut?, hne]
  | cons c text ih =>
    by_cases hc : c = '\n'
    · subst hc
      have hskip : ∀ d rest, d ∉ marker → after? marker (d :: rest) = none := by
        intro d rest hd
        obtain ⟨m, tail, rfl⟩ := List.exists_cons_of_ne_nil hne
        simp [after?, Ne.symm (not_or.1 (mt List.mem_cons.2 hd)).1]
      rw [withReturns_lineFeed, cut?, hskip _ _ hreturn, cut?, hskip _ _ hfeed, ih, cut?,
        hskip _ _ hfeed]
      simp only [Option.map_map]
      congr 1
    · have hafter := after?_withReturns hfeed hreturn (c :: text)
      rw [withReturns_cons hc] at hafter ⊢
      rw [cut?, hafter, cut?]
      cases after? marker (c :: text) with
      | some rest => rfl
      | none =>
        simp only [Option.map_none, ih, Option.map_map]
        congr 1
        funext found
        simp [withReturns_cons hc]

end

end Text

/-! ## Bytes -/

namespace Bytes

/-- A line feed. -/
def lineFeed : UInt8 := 10

/-- A carriage return. -/
def carriageReturn : UInt8 := 13

/-- The bytes with a carriage return in front of each line feed. -/
def withReturns (bytes : Bytes) : Bytes :=
  bytes.flatMap fun b => if b = lineFeed then [carriageReturn, lineFeed] else [b]

/-- The second content is the first, or the first holds no carriage return and the second has got
one in front of each line feed. -/
def SameLines (content content' : Bytes) : Prop :=
  content' = content ∨ carriageReturn ∉ content ∧ content' = withReturns content

theorem withReturns_nil : withReturns [] = [] := rfl

theorem withReturns_lineFeed (bytes : Bytes) :
    withReturns (lineFeed :: bytes) = carriageReturn :: lineFeed :: withReturns bytes := rfl

theorem withReturns_cons {b : UInt8} (h : b ≠ lineFeed) (bytes : Bytes) :
    withReturns (b :: bytes) = b :: withReturns bytes := by
  simp [withReturns, h]

theorem head?_withReturns (bytes : Bytes) : (withReturns bytes).head? ≠ some lineFeed := by
  cases bytes with
  | nil => simp [withReturns_nil]
  | cons b bytes =>
    by_cases hb : b = lineFeed
    · subst hb
      rw [withReturns_lineFeed, List.head?_cons]
      decide
    · rw [withReturns_cons hb, List.head?_cons]
      exact fun h => hb (Option.some.inj h)

/-- In front of each line feed there is a carriage return. -/
theorem eq_of_withReturns {bytes front rest : Bytes} {b : UInt8}
    (h : withReturns bytes = front ++ b :: lineFeed :: rest) : b = carriageReturn := by
  have hhead : ∀ {bytes rest : Bytes}, withReturns bytes ≠ lineFeed :: rest := fun h =>
    head?_withReturns _ (by rw [h]; rfl)
  induction bytes generalizing front with
  | nil => simp [withReturns_nil] at h
  | cons c bytes ih =>
    by_cases hc : c = lineFeed
    · subst hc
      rw [withReturns_lineFeed] at h
      match front with
      | [] =>
        rw [List.nil_append, List.cons.injEq] at h
        exact h.1.symm
      | [_] =>
        rw [List.singleton_append, List.cons.injEq, List.cons.injEq] at h
        exact absurd h.2.2 hhead
      | _ :: _ :: front =>
        rw [List.cons_append, List.cons_append, List.cons.injEq, List.cons.injEq] at h
        exact ih h.2.2
    · rw [withReturns_cons hc] at h
      match front with
      | [] =>
        rw [List.nil_append, List.cons.injEq] at h
        exact absurd h.2 hhead
      | _ :: front =>
        rw [List.cons_append, List.cons.injEq] at h
        exact ih h.2

end Bytes

/-! ## Decoding -/

namespace Utf8

/-- A pending character that is no line feed and no carriage return, whatever bytes complete it. -/
structure Pending.IsLong (p : Pending) : Prop where
  low : 0x80 ≤ p.low
  /-- The bits are too many for that by now, or will be with the next byte. -/
  bits : 2 ≤ p.bits ∨ 0 < p.owed ∧ (1 ≤ p.bits ∨ 0x90 ≤ p.low)

/-- Long characters are no line ends. -/
theorem ofNat_ne_of_le {n : Nat} {c : Char} (h : 0x80 ≤ n) (hc : c ≠ '\x00')
    (hc' : c.toNat < 0x80) : Char.ofNat n ≠ c := by
  intro hn
  rw [eq_toNat_of_ofNat_eq hn hc] at h
  omega

/-- What comes of a byte is a line end only if the byte is that line end, and what it leaves pending
is long. -/
def Start.Keeps (byte : UInt8) : Start → Prop
  | .char c => (c = '\n' → byte = Bytes.lineFeed) ∧ (c = '\r' → byte = Bytes.carriageReturn)
  | .lead p => p.IsLong
  | .refused => True

theorem start_keeps (byte : UInt8) : (start byte).Keeps byte := by
  rw [start]
  split_ifs
  · refine ⟨fun hc => ?_, fun hc => ?_⟩
    · exact UInt8.toNat_inj.1 (eq_toNat_of_ofNat_eq hc (by decide))
    · exact UInt8.toNat_inj.1 (eq_toNat_of_ofNat_eq hc (by decide))
  · trivial
  · exact ⟨Nat.le_refl _, .inl (by dsimp only; omega)⟩
  · exact ⟨by decide, .inr ⟨by decide, .inr (by decide)⟩⟩
  · exact ⟨by decide, .inl (by decide)⟩
  · exact ⟨Nat.le_refl _, .inr ⟨Nat.succ_pos _, .inl (by dsimp only; omega)⟩⟩
  · exact ⟨by decide, .inr ⟨by decide, .inr (by decide)⟩⟩
  · exact ⟨Nat.le_refl _, .inr ⟨Nat.succ_pos _, .inl (by dsimp only; omega)⟩⟩
  · exact ⟨by decide, .inl (by decide)⟩
  · trivial

namespace Pending.IsLong

variable {p : Pending}

theorem next_keeps (h : p.IsLong) (byte : UInt8) : (p.next byte).Keeps byte := by
  obtain ⟨hlow, hbits⟩ := h
  rw [Pending.next]
  split
  · cases howed : p.owed with
    | zero =>
      have hlong : 0x80 ≤ p.bits * 64 + (byte.toNat - 0x80) := by omega
      exact ⟨fun hc => absurd hc (ofNat_ne_of_le hlong (by decide) (by decide)),
        fun hc => absurd hc (ofNat_ne_of_le hlong (by decide) (by decide))⟩
    | succ owed => exact ⟨Nat.le_refl _, .inl (by dsimp only; omega)⟩
  · trivial

/-- A byte below `0x80` does not belong to a long character. -/
theorem next_of_lt (h : p.IsLong) {byte : UInt8} (hbyte : byte.toNat < 0x80) :
    p.next byte = .refused := by
  have hlow := h.low
  rw [Pending.next]
  exact if_neg (by omega)

end Pending.IsLong

/-- What a byte makes of a pending character, or of none. -/
def look : Option Pending → UInt8 → Start
  | none, b => start b
  | some p, b => p.next b

/-- The text of the bytes that follow a pending character, or none. -/
def read? : Option Pending → Bytes → Option Text
  | none, [] => some []
  | some _, [] => none
  | pending, b :: bytes =>
    match look pending b with
    | .char c => (read? none bytes).map (c :: ·)
    | .lead p => read? (some p) bytes
    | .refused => none

theorem toOption_map {α β ε : Type} (f : α → β) (result : Except ε α) :
    (result.map f).toOption = result.toOption.map f := by
  cases result <;> rfl

/-- The decoder without its reasons. -/
theorem toOption_decodeFrom (index : Nat) (pending : Option Pending) (bytes : Bytes) :
    (decodeFrom index pending bytes).toOption = read? pending bytes := by
  induction bytes generalizing index pending with
  | nil => cases pending <;> rfl
  | cons b bytes ih =>
    cases pending with
    | none =>
      rw [decodeFrom, read?, look]
      cases start b with
      | char c => rw [toOption_map, ih]
      | lead p => exact ih index (some p)
      | refused => rfl
    | some p =>
      rw [decodeFrom, read?, look]
      cases p.next b with
      | char c => rw [toOption_map, ih]
      | lead p' => exact ih index (some p')
      | refused => rfl

theorem decode?_eq_read? (bytes : Bytes) : decode? bytes = read? none bytes :=
  toOption_decodeFrom 0 none bytes

theorem look_keeps {pending : Option Pending} (h : ∀ p ∈ pending, p.IsLong) (b : UInt8) :
    (look pending b).Keeps b := by
  cases pending with
  | none => exact start_keeps b
  | some p => exact (h p rfl).next_keeps b

theorem isLong_of_mem_none : ∀ p ∈ (none : Option Pending), p.IsLong := by
  simp

theorem Pending.IsLong.of_mem_some {p : Pending} (h : p.IsLong) : ∀ q ∈ some p, q.IsLong := by
  rintro q hq
  rwa [← Option.some.inj hq]

/-- The carriage returns are read, and nothing else changes, not even whether the bytes are a
text. -/
theorem read?_withReturns {pending : Option Pending} (h : ∀ p ∈ pending, p.IsLong)
    (bytes : Bytes) :
    read? pending (Bytes.withReturns bytes) = (read? pending bytes).map Text.withReturns := by
  induction bytes generalizing pending with
  | nil => cases pending <;> rfl
  | cons b bytes ih =>
    by_cases hb : b = Bytes.lineFeed
    · subst hb
      rw [Bytes.withReturns_lineFeed]
      cases pending with
      | none =>
        have hreturn : look none Bytes.carriageReturn = .char '\r' := rfl
        have hfeed : look none Bytes.lineFeed = .char '\n' := rfl
        simp only [read?, hreturn, hfeed, ih isLong_of_mem_none, Option.map_map]
        rfl
      | some p =>
        have hreturn : look (some p) Bytes.carriageReturn = .refused :=
          (h p rfl).next_of_lt (by decide)
        have hfeed : look (some p) Bytes.lineFeed = .refused := (h p rfl).next_of_lt (by decide)
        simp only [read?, hreturn, hfeed, Option.map_none]
    · rw [Bytes.withReturns_cons hb, read?, read?]
      have hkeeps := look_keeps h b
      cases hlook : look pending b with
      | char c =>
        rw [hlook] at hkeeps
        simp only [ih isLong_of_mem_none, Option.map_map]
        congr 1
        funext text
        exact (Text.withReturns_cons (mt hkeeps.1 hb) text).symm
      | lead p =>
        rw [hlook] at hkeeps
        exact ih (Pending.IsLong.of_mem_some hkeeps)
      | refused => rfl

theorem not_mem_of_read? {pending : Option Pending} (h : ∀ p ∈ pending, p.IsLong)
    {bytes : Bytes} {text : Text} (hbytes : Bytes.carriageReturn ∉ bytes)
    (hread : read? pending bytes = some text) : '\r' ∉ text := by
  induction bytes generalizing pending text with
  | nil =>
    cases pending with
    | none =>
      cases hread
      simp
    | some p => cases hread
  | cons b bytes ih =>
    obtain ⟨hb, hbytes⟩ := not_or.1 (mt List.mem_cons.2 hbytes)
    rw [read?] at hread
    have hkeeps := look_keeps h b
    cases hlook : look pending b with
    | char c =>
      rw [hlook] at hkeeps hread
      obtain ⟨rest, hrest, rfl⟩ := Option.map_eq_some_iff.1 hread
      rw [List.mem_cons, not_or]
      exact ⟨fun hc => hb (hkeeps.2 hc.symm).symm, ih isLong_of_mem_none hbytes hrest⟩
    | lead p =>
      rw [hlook] at hkeeps hread
      exact ih (Pending.IsLong.of_mem_some hkeeps) hbytes hread
    | refused =>
      rw [hlook] at hread
      cases hread

/-- Both contents are texts with the same lines, or none is a text. -/
theorem decode?_of_sameLines {content content' : Bytes} (h : Bytes.SameLines content content') :
    Option.Rel Text.SameLines (decode? content) (decode? content') := by
  rcases h with rfl | ⟨hreturn, rfl⟩
  · cases decode? content' with
    | none => exact .none
    | some text => exact .some (Or.inl rfl)
  · rw [decode?_eq_read?, decode?_eq_read?, read?_withReturns isLong_of_mem_none]
    cases hread : read? none content with
    | none => exact .none
    | some text => exact .some (Or.inr ⟨not_mem_of_read? isLong_of_mem_none hreturn hread, rfl⟩)

end Utf8

end Bindery
