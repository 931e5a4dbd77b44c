import Bindery.Proofs.Outline.Heading
import Bindery.Proofs.Text.Lines

set_option autoImplicit false

/-! # Reading a document whose headings were moved

`outline` says what each line of a document is: code, a heading or anything else. Moving the
headings of a document should do to its outline what `LineKind.shift` does, and
`outline_shiftHeadings_iff` says when it does: each heading that stays one must not lose another part
of its title when it is read again, and each that becomes a paragraph must not look like a heading
or like a fence (`Heading.IsReadBack`). -/

namespace Bindery

/-! ## The end of a title -/

namespace Heading

/-- A run of `#` ends the title, and it is all of the title or follows a space or a tab. -/
def HasClosing (title : Text) : Prop :=
  ∃ before n, title = before ++ List.replicate (n + 1) '#' ∧
    ∀ c ∈ before.getLast?, isSeparator c = true

theorem isBlank_of_isSeparator {c : Char} (h : isSeparator c = true) : isBlank c = true := by
  simp only [isSeparator, Bool.or_eq_true, beq_iff_eq] at h
  rcases h with rfl | rfl
  · decide
  · decide

theorem exists_run (title : Text) :
    ∃ before n, title = before ++ List.replicate n '#' ∧ before.getLast? ≠ some '#' := by
  refine ⟨(title.reverse.dropWhile (· = '#')).reverse, (title.reverse.takeWhile (· = '#')).length,
    ?_, ?_⟩
  · rw [← List.reverse_replicate, ← List.reverse_append, replicate_append_dropWhile '#',
      List.reverse_reverse]
  · rw [List.getLast?_reverse]
    exact head?_dropWhile_ne '#' title.reverse

/-- The run at the end is found by reading backwards. -/
theorem span_reverse_append {before : Text} (h : before.getLast? ≠ some '#') (n : Nat) :
    (before ++ List.replicate n '#').reverse.takeWhile (· = '#') = List.replicate n '#' ∧
      (before ++ List.replicate n '#').reverse.dropWhile (· = '#') = before.reverse := by
  rw [List.reverse_append, List.reverse_replicate]
  exact span_replicate_append n (by simpa using h)

theorem withoutClosing_append {before : Text} (h : before.getLast? ≠ some '#') (n : Nat) :
    withoutClosing (before ++ List.replicate n '#') =
      match before.getLast? with
      | none => []
      | some c => if isSeparator c then Text.trimEnd before else before ++ List.replicate n '#' := by
  rw [withoutClosing, (span_reverse_append h n).2, ← List.head?_reverse]
  cases hreverse : before.reverse with
  | nil => rfl
  | cons c rest =>
    have hbefore : (c :: rest).reverse = before := by rw [← hreverse, List.reverse_reverse]
    simp [hbefore]

/-- The run at the end of a title closes it if there is one and what it follows allows it. -/
theorem hasClosing_append_iff {before : Text} (h : before.getLast? ≠ some '#') {n : Nat} :
    HasClosing (before ++ List.replicate n '#') ↔
      0 < n ∧ ∀ c ∈ before.getLast?, isSeparator c = true := by
  constructor
  · rintro ⟨before', n', heq, hseparator⟩
    have hlast : before'.getLast? ≠ some '#' :=
      fun hlast => absurd (hseparator '#' hlast) (by decide)
    -- both runs are the one that is found in the title
    obtain ⟨htake, hdrop⟩ := span_reverse_append h n
    rw [heq, (span_reverse_append hlast _).1] at htake
    rw [heq, (span_reverse_append hlast _).2, List.reverse_inj] at hdrop
    obtain rfl : n' + 1 = n := by simpa using congrArg List.length htake
    exact ⟨Nat.succ_pos n', hdrop ▸ hseparator⟩
  · rintro ⟨hpos, hseparator⟩
    obtain ⟨m, rfl⟩ : ∃ m, n = m + 1 := ⟨n - 1, by omega⟩
    exact ⟨before, m, rfl, hseparator⟩

/-- A title is kept as it is exactly if no run closes it. -/
theorem withoutClosing_eq_self_iff {title : Text} (h : Text.IsTrimmed title) :
    withoutClosing title = title ↔ ¬ HasClosing title := by
  obtain ⟨before, n, rfl, hrun⟩ := exists_run title
  rw [withoutClosing_append hrun, hasClosing_append_iff hrun]
  cases hlast : before.getLast? with
  | none =>
    obtain rfl := List.getLast?_eq_none_iff.1 hlast
    cases n <;> simp [List.replicate_succ]
  | some c =>
    by_cases hc : isSeparator c = true
    · -- a trimmed title does not end with white space, so there is a run
      have hpos : 0 < n := by
        refine Nat.pos_of_ne_zero ?_
        rintro rfl
        have hblank := h.2 c (by simpa using hlast)
        rw [isBlank_of_isSeparator hc] at hblank
        cases hblank
      have hlength : (Text.trimEnd before).length < (before ++ List.replicate n '#').length := by
        have hle := (Text.isPrefix_trimEnd before).length_le
        rw [List.length_append, List.length_replicate]
        omega
      have hne : Text.trimEnd before ≠ before ++ List.replicate n '#' :=
        fun heq => absurd (congrArg List.length heq) (Nat.ne_of_lt hlength)
      simp [hc, hpos, hne]
    · simp [hc]

theorem isTrimmed_withoutClosing {title : Text} (h : Text.IsTrimmed title) :
    Text.IsTrimmed (withoutClosing title) := by
  obtain ⟨before, n, rfl, hlast⟩ := exists_run title
  rw [withoutClosing_append hlast]
  split
  · exact ⟨by simp, by simp⟩
  · split
    · exact Text.isTrimmed_trimEnd (Text.not_isBlank_head?_front (List.prefix_append ..) h.1)
    · exact h

theorem isTrimmed_title {line : Text} {heading : Heading} (h : ofLine? line = some heading) :
    Text.IsTrimmed heading.title := by
  simp only [ofLine?] at h
  split at h
  · cases h
    exact isTrimmed_withoutClosing (Text.isTrimmed_trim _)
  · cases h

end Heading

/-! ## What the lines of a document are -/

/-- What a line is, read behind the lines in front of it. -/
inductive LineKind where
  | code (line : Text)
  | heading (heading : Heading)
  | plain (line : Text)
  deriving DecidableEq

namespace LineKind

/-- What a line is of which it is known whether it is code. -/
def ofLine (isCode : Bool) (line : Text) : LineKind :=
  if isCode then code line
  else
    match Heading.ofLine? line with
    | some h => heading h
    | none => plain line

/-- A heading moved by a number of levels, down to the deepest. One that would rise above the first
level is no heading any more. Everything else stays. -/
def shift (levels : Int) : LineKind → LineKind
  | heading h =>
    if h.level + levels < 1 then plain h.title
    else heading ⟨min Heading.deepest (h.level + levels).toNat, h.title⟩
  | other => other

end LineKind

/-- What the lines are, from a place on where the given fence, or none, is open. -/
def outlineFrom (opened : Option Fence) (lines : List Text) : List LineKind :=
  List.zipWith LineKind.ofLine (codeLines opened lines) lines

/-- What the lines of a document are. -/
def outline (lines : List Text) : List LineKind := outlineFrom none lines

theorem outlineFrom_cons (opened : Option Fence) (line : Text) (lines : List Text) :
    outlineFrom opened (line :: lines) =
      .ofLine (Fence.look opened line).1 line ::
        outlineFrom (Fence.look opened line).2 lines := rfl

/-- The lines with the headings outside code moved, from such a place on. -/
def shiftLinesFrom (levels : Int) (opened : Option Fence) (lines : List Text) : List Text :=
  List.zipWith (fun isCode line => if isCode then line else shiftLine levels line)
    (codeLines opened lines) lines

theorem shiftLinesFrom_cons (levels : Int) (opened : Option Fence) (line : Text)
    (lines : List Text) :
    shiftLinesFrom levels opened (line :: lines) =
      (if (Fence.look opened line).1 then line else shiftLine levels line) ::
        shiftLinesFrom levels (Fence.look opened line).2 lines := rfl

/-! ## One line -/

variable {levels : Int}

/-- The line that the moved heading becomes is read as what it should be: a heading that stays one
has no second run of `#` at the end of its title, and the title of a heading that becomes a
paragraph is neither a heading nor a fence. -/
def Heading.IsReadBack (levels : Int) (heading : Heading) : Prop :=
  (1 ≤ heading.level + levels → ¬ HasClosing heading.title) ∧
    (heading.level + levels < 1 →
      ofLine? heading.title = none ∧ (Fence.look none heading.title).1 = false)

theorem look_hash (text : Text) : Fence.look none ('#' :: text) = (false, none) := by
  rw [Fence.look, Text.trimStart_eq_self (by simp [isBlank])]
  simp [Fence.ofStart?]

theorem look_snd_of_fst {line : Text} (h : (Fence.look none line).1 = false) :
    (Fence.look none line).2 = none := by
  simpa [Fence.look] using h

/-- A moved heading that stays one is read with what is left of its title. -/
theorem ofLine_shift_of_le {heading : Heading} (htitle : Text.IsTrimmed heading.title)
    (h : 1 ≤ heading.level + levels) :
    LineKind.ofLine (Fence.look none (heading.shift levels)).1 (heading.shift levels) =
      .heading ⟨min Heading.deepest (heading.level + levels).toNat,
        Heading.withoutClosing heading.title⟩ := by
  obtain ⟨n, hn⟩ : ∃ n, min Heading.deepest (heading.level + levels).toNat = n + 1 :=
    ⟨min Heading.deepest (heading.level + levels).toNat - 1, by rw [Heading.deepest]; omega⟩
  have hlow : ¬ heading.level + levels < 1 := by omega
  have hdeep : n + 1 ≤ Heading.deepest := hn ▸ Nat.min_le_left ..
  have hline : Heading.ofLine? (List.replicate (n + 1) '#' ++ ' ' :: heading.title) = _ :=
    ofLine?_replicate_append (by omega) hdeep (by simp [Heading.isSeparator])
  rw [Heading.shift, if_neg hlow, hn, LineKind.ofLine, hline, htitle.trim_cons (by decide),
    List.replicate_succ, List.cons_append, look_hash]
  rfl

/-- A heading is moved to a line that is read as it should be exactly if it is read back. -/
theorem ofLine_shift_iff {heading : Heading} (htitle : Text.IsTrimmed heading.title) :
    LineKind.ofLine (Fence.look none (heading.shift levels)).1 (heading.shift levels) =
        LineKind.shift levels (.heading heading) ↔ heading.IsReadBack levels := by
  rw [Heading.IsReadBack, LineKind.shift]
  by_cases hlow : heading.level + levels < 1
  · have hnot : ¬ 1 ≤ heading.level + levels := by omega
    simp only [hlow, hnot, if_true, false_implies, true_implies, true_and, Heading.shift,
      LineKind.ofLine]
    cases hcode : (Fence.look none heading.title).1 with
    | true => simp
    | false => cases Heading.ofLine? heading.title <;> simp
  · have hle : 1 ≤ heading.level + levels := by omega
    simp only [hlow, hle, if_false, false_implies, true_implies, and_true,
      ofLine_shift_of_le htitle hle, LineKind.heading.injEq, Heading.mk.injEq, true_and,
      Heading.withoutClosing_eq_self_iff htitle]

/-- A heading that is read back is not moved to a fence. -/
theorem look_shift {heading : Heading} (htitle : Text.IsTrimmed heading.title)
    (h : heading.IsReadBack levels) : (Fence.look none (heading.shift levels)).1 = false := by
  have hkind := (ofLine_shift_iff htitle).2 h
  cases hcode : (Fence.look none (heading.shift levels)).1 with
  | false => rfl
  | true =>
    rw [hcode, LineKind.shift] at hkind
    split at hkind
    · cases hkind
    · cases hkind

/-! ## All lines -/

theorem outlineFrom_shiftLinesFrom_iff (opened : Option Fence) (lines : List Text) :
    outlineFrom opened (shiftLinesFrom levels opened lines) =
        (outlineFrom opened lines).map (LineKind.shift levels) ↔
      ∀ heading, LineKind.heading heading ∈ outlineFrom opened lines →
        heading.IsReadBack levels := by
  induction lines generalizing opened with
  | nil => simp [outlineFrom, shiftLinesFrom, codeLines]
  | cons line lines ih =>
    have htail := ih (Fence.look opened line).2
    rw [shiftLinesFrom_cons, outlineFrom_cons opened line]
    cases hcode : (Fence.look opened line).1 with
    | true =>
      -- code stays, and the same fence is open behind it
      rw [if_pos rfl, outlineFrom_cons, hcode, List.map_cons]
      have hsame : LineKind.shift levels (.ofLine true line) = .ofLine true line := rfl
      rw [hsame, List.cons.injEq, htail]
      simp [LineKind.ofLine]
    | false =>
      obtain rfl : opened = none := by
        cases opened with
        | none => rfl
        | some fence => cases hcode
      rw [look_snd_of_fst hcode] at htail ⊢
      rw [if_neg (by decide), outlineFrom_cons, List.map_cons, List.cons.injEq]
      cases hheading : Heading.ofLine? line with
      | none =>
        have hline : shiftLine levels line = line := by rw [shiftLine, hheading]
        rw [hline, hcode, look_snd_of_fst hcode, htail]
        simp [LineKind.ofLine, hheading, LineKind.shift]
      | some heading =>
        have hline : shiftLine levels line = heading.shift levels := by rw [shiftLine, hheading]
        have hkind : LineKind.ofLine false line = .heading heading := by
          simp [LineKind.ofLine, hheading]
        have htitle := Heading.isTrimmed_title hheading
        rw [hline, hkind, ofLine_shift_iff htitle]
        simp only [List.mem_cons, LineKind.heading.injEq, forall_eq_or_imp]
        refine and_congr_right fun hread => ?_
        -- the moved heading opens no fence, so the rest is read as before
        rw [look_snd_of_fst (look_shift htitle hread), htail]

/-- What the lines of a document are is read again behind the move of its headings, with the levels
moved and nothing else changed, exactly if each heading is read back. -/
theorem outline_shiftHeadings_iff {text : Text} (levels : Int) (h : text ≠ []) :
    outline ((shiftHeadings levels text).splitOn '\n') =
        (outline (Text.lines text)).map (LineKind.shift levels) ↔
      ∀ heading, LineKind.heading heading ∈ outline (Text.lines text) →
        heading.IsReadBack levels := by
  have hlines : ∀ line ∈ shiftLines levels (Text.lines text), '\n' ∉ line :=
    not_mem_of_mem_shiftLines fun _ => Text.not_mem_of_mem_lines
  have hne : shiftLines levels (Text.lines text) ≠ [] := by
    rw [← List.length_pos_iff, length_shiftLines, List.length_pos_iff]
    exact Text.lines_ne_nil h
  rw [shiftHeadings, Text.splitOn_joinLines hlines hne]
  exact outlineFrom_shiftLinesFrom_iff none (Text.lines text)

/-- Headings in front of code and behind it, one of them with a closing run and one that ends with
`#` without being closed. -/
def tunedBook : Text := "# Book\n## Part ##\n~~~\n# note\n~~~\n#### C#".toList

/-- All of them are read back one level up. -/
theorem outline_shiftHeadings_tunedBook :
    tunedBook ≠ [] ∧
    (∀ heading, LineKind.heading heading ∈ outline (Text.lines tunedBook) →
      heading.IsReadBack (-1)) ∧
    outline ((shiftHeadings (-1) tunedBook).splitOn '\n') =
      [.plain "Book".toList, .heading ⟨1, "Part".toList⟩, .code "~~~".toList,
        .code "# note".toList, .code "~~~".toList, .heading ⟨3, "C#".toList⟩] := by
  have hne : tunedBook ≠ [] := by decide
  have houtline : outline (Text.lines tunedBook) =
      [.heading ⟨1, "Book".toList⟩, .heading ⟨2, "Part".toList⟩, .code "~~~".toList,
        .code "# note".toList, .code "~~~".toList, .heading ⟨4, "C#".toList⟩] := by
    decide +kernel
  have hclosing : ∀ {title line : Text} {level : Nat},
      Heading.ofLine? line = some ⟨level, title⟩ → Heading.withoutClosing title = title →
        ¬ Heading.HasClosing title :=
    fun hline => (Heading.withoutClosing_eq_self_iff (Heading.isTrimmed_title hline)).1
  have hpart : Heading.ofLine? "## Part ##".toList = some ⟨2, "Part".toList⟩ := by decide +kernel
  have hsharp : Heading.ofLine? "#### C#".toList = some ⟨4, "C#".toList⟩ := by decide +kernel
  have hread : ∀ heading, LineKind.heading heading ∈ outline (Text.lines tunedBook) →
      heading.IsReadBack (-1) := by
    rw [houtline]
    intro heading hmem
    simp only [List.mem_cons, LineKind.heading.injEq, reduceCtorEq, List.not_mem_nil, or_false,
      false_or] at hmem
    rcases hmem with rfl | rfl | rfl
    · exact ⟨fun h => absurd h (by decide), fun _ => by decide⟩
    · exact ⟨fun _ => hclosing hpart (by decide), fun h => absurd h (by decide)⟩
    · exact ⟨fun _ => hclosing hsharp (by decide), fun h => absurd h (by decide)⟩
  refine ⟨hne, hread, ?_⟩
  rw [(outline_shiftHeadings_iff (-1) hne).2 hread, houtline]
  rfl

/-- A paragraph is read as a heading, a paragraph opens a block of code, and a title that ends with
`#` loses it. -/
theorem outline_shiftHeadings_ne :
    outline ((shiftHeadings (-1) "# # Draft".toList).splitOn '\n') ≠
        (outline (Text.lines "# # Draft".toList)).map (LineKind.shift (-1)) ∧
    outline ((shiftHeadings (-1) "# ~~~\n## Part".toList).splitOn '\n') ≠
        (outline (Text.lines "# ~~~\n## Part".toList)).map (LineKind.shift (-1)) ∧
    outline ((shiftHeadings 0 "# Sharp # #".toList).splitOn '\n') ≠
        (outline (Text.lines "# Sharp # #".toList)).map (LineKind.shift 0) := by
  refine ⟨?_, ?_, ?_⟩
  · decide +kernel
  · decide +kernel
  · decide +kernel

end Bindery
