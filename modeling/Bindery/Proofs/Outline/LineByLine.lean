import Bindery.Proofs.Outline.FencedCode
import Bindery.Proofs.Outline.Reading

set_option autoImplicit false

/-! # Moving headings line by line

`Moved` spells out what becomes of a line outside code when the headings are moved: a heading is
written anew with its title, and any other line stays. `shiftHeadings_lineByLine` says that a
document is moved line by line in this way, with the code in it left alone, and that of the lines in
front it only matters whether a fence is open behind them. The level of a moved heading may be
computed in 32 bits, as long as a sum beyond them becomes their bound (`shiftWithin_eq`). -/

namespace Bindery

/-! ## Titles -/

namespace Heading

/-- The title in what follows the `#` of a heading: the text without the white space at its ends
and, if a run of `#` closes it, without that run and the white space in front of the run. -/
inductive IsTitleIn (rest : Text) : Text → Prop
  | whole : ¬ HasClosing (Text.trim rest) → IsTitleIn rest (Text.trim rest)
  | closed {before : Text} {n : Nat} :
      Text.trim rest = before ++ List.replicate (n + 1) '#' →
      (∀ c ∈ before.getLast?, isSeparator c = true) → IsTitleIn rest (Text.trimEnd before)

theorem withoutClosing_closed {before : Text} (n : Nat)
    (h : ∀ c ∈ before.getLast?, isSeparator c = true) :
    withoutClosing (before ++ List.replicate (n + 1) '#') = Text.trimEnd before := by
  have hlast : before.getLast? ≠ some '#' := fun hlast => absurd (h '#' hlast) (by decide)
  rw [withoutClosing_append hlast]
  cases hc : before.getLast? with
  | none =>
    rw [List.getLast?_eq_none_iff.1 hc]
    rfl
  | some c => simp [h c hc]

/-- What is kept of the text behind the `#` is its title. -/
theorem isTitleIn_iff {rest title : Text} :
    IsTitleIn rest title ↔ withoutClosing (Text.trim rest) = title := by
  constructor
  · intro h
    cases h with
    | whole hopen => exact (withoutClosing_eq_self_iff (Text.isTrimmed_trim rest)).2 hopen
    | closed htrim hseparator => rw [htrim, withoutClosing_closed _ hseparator]
  · rintro rfl
    by_cases hclosing : HasClosing (Text.trim rest)
    · obtain ⟨before, n, htrim, hseparator⟩ := hclosing
      rw [htrim, withoutClosing_closed n hseparator]
      exact .closed htrim hseparator
    · rw [(withoutClosing_eq_self_iff (Text.isTrimmed_trim rest)).2 hclosing]
      exact .whole hclosing

/-- The line is that of the heading: as many `#` as its level, from one to six, and behind them a
space, a tab or nothing, with the title in what follows. -/
def IsWrittenIn (heading : Heading) (line : Text) : Prop :=
  ∃ rest, line = List.replicate heading.level '#' ++ rest ∧ 1 ≤ heading.level ∧
    heading.level ≤ deepest ∧ (∀ c ∈ rest.head?, isSeparator c = true) ∧
    IsTitleIn rest heading.title

/-- `ofLine?` reads exactly the headings. -/
theorem ofLine?_eq_some_iff {line : Text} {heading : Heading} :
    ofLine? line = some heading ↔ heading.IsWrittenIn line := by
  constructor
  · intro h
    obtain ⟨rest, hline, hlow, hhigh, hrest⟩ := exists_ofLine?_iff.1 ⟨heading, h, rfl⟩
    refine ⟨rest, hline, hlow, hhigh, hrest, isTitleIn_iff.2 ?_⟩
    rw [hline, ofLine?_replicate_append hlow hhigh hrest] at h
    exact congrArg title (Option.some.inj h)
  · rintro ⟨rest, rfl, hlow, hhigh, hrest, htitle⟩
    rw [ofLine?_replicate_append hlow hhigh hrest, isTitleIn_iff.1 htitle]

theorem ofLine?_eq_none_iff {line : Text} :
    ofLine? line = none ↔ ∀ heading : Heading, ¬ heading.IsWrittenIn line := by
  rw [Option.eq_none_iff_forall_ne_some]
  simp only [ne_eq, ofLine?_eq_some_iff]

end Heading

/-! ## Lines outside code -/

/-- What a line outside code becomes when headings are moved by a number of levels. -/
inductive Moved (levels : Int) (line : Text) : Text → Prop
  /-- A line that is no heading stays. -/
  | kept : (∀ heading : Heading, ¬ heading.IsWrittenIn line) → Moved levels line line
  /-- Of a heading that would rise above the first level, the title is left. -/
  | paragraph {heading : Heading} : heading.IsWrittenIn line → heading.level + levels < 1 →
      Moved levels line heading.title
  /-- Any other heading is written with its new level, down to the deepest. -/
  | heading {heading : Heading} : heading.IsWrittenIn line → 1 ≤ heading.level + levels →
      Moved levels line
        (List.replicate (min (Heading.deepest : Int) (heading.level + levels)).toNat '#' ++
          ' ' :: heading.title)

section

variable {levels : Int}

theorem shift_of_lt {heading : Heading} (h : heading.level + levels < 1) :
    heading.shift levels = heading.title := by
  rw [Heading.shift, if_pos h]

theorem shift_of_le {heading : Heading} (h : 1 ≤ heading.level + levels) :
    heading.shift levels =
      List.replicate (min (Heading.deepest : Int) (heading.level + levels)).toNat '#' ++
        ' ' :: heading.title := by
  have hlevel : min Heading.deepest (heading.level + levels).toNat =
      (min (Heading.deepest : Int) (heading.level + levels)).toNat := by
    omega
  rw [Heading.shift, if_neg (by omega), hlevel]

theorem shiftLine_of_isWrittenIn {line : Text} {heading : Heading} (h : heading.IsWrittenIn line) :
    shiftLine levels line = heading.shift levels := by
  rw [shiftLine, Heading.ofLine?_eq_some_iff.2 h]

/-- A line outside code becomes exactly what `Moved` says. -/
theorem moved_iff {line out : Text} : Moved levels line out ↔ shiftLine levels line = out := by
  constructor
  · intro h
    cases h with
    | kept hplain => rw [shiftLine, Heading.ofLine?_eq_none_iff.2 hplain]
    | paragraph hheading hlevel => rw [shiftLine_of_isWrittenIn hheading, shift_of_lt hlevel]
    | heading hheading hlevel => rw [shiftLine_of_isWrittenIn hheading, shift_of_le hlevel]
  · rintro rfl
    cases hline : Heading.ofLine? line with
    | none =>
      rw [shiftLine, hline]
      exact .kept (Heading.ofLine?_eq_none_iff.1 hline)
    | some heading =>
      have hheading := Heading.ofLine?_eq_some_iff.1 hline
      rw [shiftLine_of_isWrittenIn hheading]
      by_cases hlevel : heading.level + levels < 1
      · rw [shift_of_lt hlevel]
        exact .paragraph hheading hlevel
      · have hle : 1 ≤ heading.level + levels := by omega
        rw [shift_of_le hle]
        exact .heading hheading hle

end

/-! ## Levels in 32 bits -/

/-- The sum of two integers of 32 bits or, if it lies beyond them, the bound that it exceeds. -/
def saturatingAdd (a b : Int32) : Int32 := Int32.ofIntClamp (a.toInt + b.toInt)

theorem toInt_saturatingAdd (a b : Int32) :
    (saturatingAdd a b).toInt =
      max Int32.minValue.toInt (min Int32.maxValue.toInt (a.toInt + b.toInt)) := by
  rw [saturatingAdd, Int32.ofIntClamp]
  split
  · next hmin =>
    split
    · next hmax =>
      rw [Int32.toInt_ofIntLE]
      omega
    · next hmax =>
      have hbounds : Int32.minValue.toInt ≤ Int32.maxValue.toInt := by decide
      omega
  · next hmin =>
    omega

/-- The line of a heading that is moved by a number of levels, with its level computed in 32
bits. -/
def Heading.shiftWithin (heading : Heading) (levels : Int32) : Text :=
  let level := saturatingAdd (Int32.ofNat heading.level) levels
  if level < 1 then heading.title
  else List.replicate (min (Int32.ofNat deepest) level).toNatClampNeg '#' ++ ' ' :: heading.title

theorem toInt_min (a b : Int32) : (min a b).toInt = min a.toInt b.toInt := by
  have hmin : min a b = if a ≤ b then a else b := rfl
  rw [hmin, Int.min_def, apply_ite Int32.toInt]
  simp only [Int32.le_iff_toInt_le]

/-- A bound that is reached lies on the same side of the levels of headings as the sum. -/
theorem shiftWithin_eq {heading : Heading} (h : heading.level ≤ Heading.deepest) (levels : Int32) :
    heading.shiftWithin levels = heading.shift levels.toInt := by
  have hlevel : (Int32.ofNat heading.level).toInt = heading.level := by
    rw [Heading.deepest] at h
    exact Int32.toInt_ofNat_of_lt (by omega)
  have hsum := toInt_saturatingAdd (Int32.ofNat heading.level) levels
  rw [hlevel, Int32.toInt_minValue, Int32.toInt_maxValue] at hsum
  rw [Heading.shiftWithin]
  by_cases hlow : heading.level + levels.toInt < 1
  · have hlt : saturatingAdd (Int32.ofNat heading.level) levels < 1 := by
      rw [Int32.lt_iff_toInt_lt, hsum, Int32.toInt_one]
      omega
    rw [if_pos hlt, shift_of_lt hlow]
  · have hlt : ¬ saturatingAdd (Int32.ofNat heading.level) levels < 1 := by
      rw [Int32.lt_iff_toInt_lt, hsum, Int32.toInt_one]
      omega
    have hnew : (min (Int32.ofNat Heading.deepest)
        (saturatingAdd (Int32.ofNat heading.level) levels)).toNatClampNeg =
          (min (Heading.deepest : Int) (heading.level + levels.toInt)).toNat := by
      rw [Int32.toNatClampNeg, toInt_min, hsum, Heading.deepest]
      have hdeepest : (Int32.ofNat 6).toInt = 6 := rfl
      omega
    rw [if_neg hlt, shift_of_le (by omega), hnew]

/-- The greatest and the least number of levels. -/
example : Heading.shiftWithin ⟨2, "Parts".toList⟩ Int32.maxValue = "###### Parts".toList ∧
    Heading.shiftWithin ⟨2, "Parts".toList⟩ Int32.minValue = "Parts".toList := by
  decide

/-! ## Documents -/

section

variable {levels : Int} {lines : List Text}

/-- A line in a block stays, and any other line becomes what `Moved` says. -/
theorem exists_getElem?_shiftLines {marks : List Bool} {opened : Bool}
    (h : IsFenced lines marks opened) {i : Nat} {line : Text} (hline : lines[i]? = some line) :
    ∃ new, (shiftLines levels lines)[i]? = some new ∧
      (marks[i]? = some true ∧ new = line ∨ marks[i]? = some false ∧ Moved levels line new) := by
  obtain ⟨rfl, -⟩ := isFenced_iff.1 h
  rw [getElem?_shiftLines, hline, Option.map_some, getElem?_codeLines hline]
  cases (openBehind none (lines.take i)).isSome ||
      (Fence.ofStart? (Text.trimStart line)).isSome with
  | true => exact ⟨line, rfl, .inl ⟨rfl, rfl⟩⟩
  | false => exact ⟨shiftLine levels line, rfl, .inr ⟨rfl, moved_iff.2 rfl⟩⟩

/-- A line becomes the same behind any lines that leave a fence open, and the same behind any lines
that leave none open. -/
theorem getElem?_shiftLines_eq {others : List Text} {i j : Nat} {line : Text}
    {front front' : List Bool} {opened : Bool} (hi : lines[i]? = some line)
    (hj : others[j]? = some line) (hfront : IsFenced (lines.take i) front opened)
    (hfront' : IsFenced (others.take j) front' opened) :
    (shiftLines levels lines)[i]? = (shiftLines levels others)[j]? := by
  have hmark : (codeLines none lines)[i]? = (codeLines none others)[j]? := by
    rw [getElem?_codeLines hi, getElem?_codeLines hj, (isFenced_iff.1 hfront).2,
      (isFenced_iff.1 hfront').2]
  rw [getElem?_shiftLines, getElem?_shiftLines, hi, hj, hmark]

end

/-- A document is moved line by line: no line is lost or added, code stays, and any other line
becomes what `Moved` says. Of the lines in front of a line it only matters whether they leave a
fence open, and levels in 32 bits are enough. -/
theorem shiftHeadings_lineByLine (levels : Int32) (text : Text) :
    shiftHeadings levels.toInt text =
        Text.joinLines (shiftLines levels.toInt (Text.lines text)) ∧
      (shiftLines levels.toInt (Text.lines text)).length = (Text.lines text).length ∧
      (∃ (marks : List Bool) (opened : Bool), IsFenced (Text.lines text) marks opened ∧
        ∀ (i : Nat) (line : Text), (Text.lines text)[i]? = some line →
          ∃ new, (shiftLines levels.toInt (Text.lines text))[i]? = some new ∧
            (marks[i]? = some true ∧ new = line ∨
              marks[i]? = some false ∧ Moved levels.toInt line new)) ∧
      (∀ (other : Text) (i j : Nat) (line : Text) (front front' : List Bool) (opened : Bool),
        (Text.lines text)[i]? = some line → (Text.lines other)[j]? = some line →
        IsFenced ((Text.lines text).take i) front opened →
        IsFenced ((Text.lines other).take j) front' opened →
        (shiftLines levels.toInt (Text.lines text))[i]? =
          (shiftLines levels.toInt (Text.lines other))[j]?) ∧
      ∀ line heading, Heading.ofLine? line = some heading →
        heading.shiftWithin levels = heading.shift levels.toInt := by
  refine ⟨rfl, length_shiftLines _ _, ?lines, ?front, ?bits⟩
  case lines =>
    obtain ⟨marks, opened, hfenced⟩ := exists_isFenced (Text.lines text)
    exact ⟨marks, opened, hfenced, fun i line hline => exists_getElem?_shiftLines hfenced hline⟩
  case front =>
    intro other i j line front front' opened hi hj hfront hfront'
    exact getElem?_shiftLines_eq hi hj hfront hfront'
  case bits =>
    intro line heading hheading
    obtain ⟨_, _, _, hhigh, _⟩ := Heading.ofLine?_eq_some_iff.1 hheading
    exact shiftWithin_eq hhigh levels

end Bindery
