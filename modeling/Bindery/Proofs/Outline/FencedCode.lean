import Bindery.Outline.Fence
import Bindery.Proofs.Span
import Bindery.Proofs.Text.Trim

set_option autoImplicit false

/-! # Blocks of fenced code

`IsFenced` says how the lines of a document fall into blocks of fenced code and other lines, without
reference to a fence that is carried from line to line: a block reaches from a line that opens it to
the next line that closes it, or to the end of the document. `isFenced_iff` says that `codeLines`
marks exactly the lines of these blocks, and that a fence is open behind the lines exactly if the
last block is not closed. -/

namespace Bindery

namespace Fence

/-! ## Runs -/

/-- Behind white space, the line starts with the run of the fence, and the rest follows it. -/
structure StandsIn (fence : Fence) (line rest : Text) : Prop where
  line_eq : ∃ blanks, line = blanks ++ (List.replicate fence.length fence.marker ++ rest) ∧
    ∀ c ∈ blanks, isBlank c = true
  marker : fence.marker = '\x60' ∨ fence.marker = '~'
  length : minLength ≤ fence.length
  rest : rest.head? ≠ some fence.marker

/-- The line opens a block with the fence. -/
def Opens (fence : Fence) (line : Text) : Prop := ∃ rest, fence.StandsIn line rest

/-- The line closes a block that the fence opened: it is a run of the same character that is at
least as long, with only white space around it. -/
def Closes (fence : Fence) (line : Text) : Prop :=
  ∃ (run : Fence) (rest : Text), run.StandsIn line rest ∧ run.marker = fence.marker ∧
    fence.length ≤ run.length ∧ ∀ c ∈ rest, isBlank c = true

theorem StandsIn.exists_length_eq {fence : Fence} {line rest : Text}
    (h : fence.StandsIn line rest) : ∃ n, fence.length = n + 1 := by
  have hlength := h.length
  rw [minLength] at hlength
  exact ⟨fence.length - 1, by omega⟩

theorem StandsIn.trimStart_eq {fence : Fence} {line rest : Text} (h : fence.StandsIn line rest) :
    Text.trimStart line = List.replicate fence.length fence.marker ++ rest := by
  obtain ⟨blanks, rfl, hblanks⟩ := h.line_eq
  obtain ⟨n, hn⟩ := h.exists_length_eq
  have hmarker : isBlank fence.marker = false := by
    rcases h.marker with hm | hm
    · rw [hm]
      decide
    · rw [hm]
      decide
  rw [hn, List.replicate_succ, List.cons_append]
  exact Text.trimStart_append hblanks hmarker

/-- The fence is found that the line starts with behind its white space. -/
theorem ofStart?_of_standsIn {fence : Fence} {line rest : Text} (h : fence.StandsIn line rest) :
    ofStart? (Text.trimStart line) = some fence ∧
      (Text.trimStart line).drop fence.length = rest := by
  rw [h.trimStart_eq]
  obtain ⟨n, hn⟩ := h.exists_length_eq
  have hspan := (span_replicate_append fence.length h.rest).1
  constructor
  · rw [hn, List.replicate_succ, List.cons_append] at hspan ⊢
    simp only [ofStart?, hspan]
    simp [h.marker, ← List.replicate_succ, ← hn, h.length]
  · simp

theorem exists_standsIn_of_ofStart? {fence : Fence} {line : Text}
    (h : ofStart? (Text.trimStart line) = some fence) : fence.Opens line := by
  have hline : line.takeWhile isBlank ++ Text.trimStart line = line :=
    List.takeWhile_append_dropWhile
  cases hstart : Text.trimStart line with
  | nil => simp [hstart, ofStart?] at h
  | cons c text =>
    rw [hstart] at h hline
    simp only [ofStart?] at h
    split at h
    · next hfence =>
      cases h
      refine ⟨(c :: text).dropWhile (· = c),
        ⟨line.takeWhile isBlank, ?_, fun d hd => List.mem_takeWhile_imp hd⟩,
        hfence.1, hfence.2, head?_dropWhile_ne c _⟩
      rw [replicate_append_dropWhile, hline]
    · cases h

theorem ofStart?_eq_some_iff {fence : Fence} {line : Text} :
    ofStart? (Text.trimStart line) = some fence ↔ fence.Opens line :=
  ⟨exists_standsIn_of_ofStart?, fun ⟨_, h⟩ => (ofStart?_of_standsIn h).1⟩

theorem ofStart?_eq_none_iff {line : Text} :
    ofStart? (Text.trimStart line) = none ↔ ∀ fence : Fence, ¬ fence.Opens line := by
  rw [Option.eq_none_iff_forall_ne_some]
  simp only [ne_eq, ofStart?_eq_some_iff]

theorem isClosedBy_iff {fence : Fence} {line : Text} :
    fence.isClosedBy (Text.trimStart line) = true ↔ fence.Closes line := by
  constructor
  · intro h
    rw [isClosedBy] at h
    split at h
    · cases h
    · next run hrun =>
      obtain ⟨rest, hrest⟩ := ofStart?_eq_some_iff.1 hrun
      rw [(ofStart?_of_standsIn hrest).2] at h
      simp only [Bool.and_eq_true, decide_eq_true_eq, List.all_eq_true] at h
      exact ⟨run, rest, hrest, h.1.1, h.1.2, h.2⟩
  · rintro ⟨run, rest, hrun, hmarker, hlength, hblank⟩
    obtain ⟨hstart, hrest⟩ := ofStart?_of_standsIn hrun
    simp only [isClosedBy, hstart, hrest, hmarker, hlength, decide_true, Bool.true_and,
      List.all_eq_true]
    exact hblank

end Fence

/-! ## Blocks -/

/-- The lines fall into blocks of fenced code and other lines. The marks say of each line whether it
is in a block, and the last argument says whether the last block is still open at the end. -/
inductive IsFenced : (lines : List Text) → (marks : List Bool) → (opened : Bool) → Prop
  | nil : IsFenced [] [] false
  /-- A line outside the blocks opens none. -/
  | plain {line : Text} {lines : List Text} {marks : List Bool} {opened : Bool} :
      (∀ fence : Fence, ¬ fence.Opens line) → IsFenced lines marks opened →
      IsFenced (line :: lines) (false :: marks) opened
  /-- A block ends with the first line that closes it. -/
  | block {fence : Fence} {first last : Text} {body lines : List Text} {marks : List Bool}
      {opened : Bool} : fence.Opens first → (∀ line ∈ body, ¬ fence.Closes line) →
      fence.Closes last → IsFenced lines marks opened →
      IsFenced (first :: (body ++ last :: lines))
        (true :: (List.replicate body.length true ++ true :: marks)) opened
  /-- A block that no line closes reaches to the end. -/
  | unclosed {fence : Fence} {first : Text} {body : List Text} : fence.Opens first →
      (∀ line ∈ body, ¬ fence.Closes line) →
      IsFenced (first :: body) (true :: List.replicate body.length true) true

/-- Every document falls into blocks and other lines. -/
theorem exists_isFenced (lines : List Text) : ∃ marks opened, IsFenced lines marks opened := by
  -- the lines behind a block are fewer
  induction hn : lines.length using Nat.strong_induction_on generalizing lines with
  | _ n ih =>
    cases lines with
    | nil => exact ⟨[], false, .nil⟩
    | cons first lines =>
      rw [List.length_cons] at hn
      cases hfirst : Fence.ofStart? (Text.trimStart first) with
      | none =>
        obtain ⟨marks, opened, hrest⟩ := ih lines.length (by omega) lines rfl
        exact ⟨_, opened, .plain (Fence.ofStart?_eq_none_iff.1 hfirst) hrest⟩
      | some fence =>
        have hopens := Fence.ofStart?_eq_some_iff.1 hfirst
        cases hlast : lines.find? fun line => fence.isClosedBy (Text.trimStart line) with
        | none =>
          rw [List.find?_eq_none] at hlast
          exact ⟨_, true, .unclosed hopens fun line hline =>
            mt Fence.isClosedBy_iff.2 (hlast line hline)⟩
        | some last =>
          obtain ⟨hclosed, body, rest, rfl, hbody⟩ := List.find?_eq_some_iff_append.1 hlast
          rw [List.length_append, List.length_cons] at hn
          obtain ⟨marks, opened, hrest⟩ := ih rest.length (by omega) rest rfl
          refine ⟨_, opened, .block hopens (fun line hline => ?_)
            (Fence.isClosedBy_iff.1 hclosed) hrest⟩
          have hopen := hbody line hline
          rw [Bool.not_eq_true'] at hopen
          rw [← Fence.isClosedBy_iff, hopen]
          exact Bool.false_ne_true

/-! ## The fence that is carried along -/

/-- The fence that is open behind the lines, from a place on where the given one, or none, is
open. -/
def openBehind (opened : Option Fence) (lines : List Text) : Option Fence :=
  lines.foldl (fun opened line => (Fence.look opened line).2) opened

theorem codeLines_cons (opened : Option Fence) (line : Text) (lines : List Text) :
    codeLines opened (line :: lines) =
      (Fence.look opened line).1 :: codeLines (Fence.look opened line).2 lines := rfl

theorem codeLines_append (opened : Option Fence) (front rest : List Text) :
    codeLines opened (front ++ rest) =
      codeLines opened front ++ codeLines (openBehind opened front) rest := by
  induction front generalizing opened with
  | nil => rfl
  | cons line front ih =>
    rw [List.cons_append, codeLines_cons, codeLines_cons, ih, List.cons_append]
    rfl

theorem openBehind_append (opened : Option Fence) (front rest : List Text) :
    openBehind opened (front ++ rest) = openBehind (openBehind opened front) rest :=
  List.foldl_append

/-- A line is code if a fence is open in front of it or it opens one. -/
theorem getElem?_codeLines {opened : Option Fence} {lines : List Text} {i : Nat} {line : Text}
    (h : lines[i]? = some line) :
    (codeLines opened lines)[i]? =
      some ((openBehind opened (lines.take i)).isSome ||
        (Fence.ofStart? (Text.trimStart line)).isSome) := by
  induction lines generalizing opened i with
  | nil => simp at h
  | cons first lines ih =>
    cases i with
    | zero =>
      rw [List.getElem?_cons_zero, Option.some.injEq] at h
      subst h
      cases opened with
      | none => rfl
      | some fence => rfl
    | succ i =>
      rw [List.getElem?_cons_succ] at h
      exact ih h

theorem look_of_not_closes {fence : Fence} {line : Text} (h : ¬ fence.Closes line) :
    Fence.look (some fence) line = (true, some fence) := by
  simp only [Fence.look, mt Fence.isClosedBy_iff.1 h]
  rfl

/-- A fence stays open, and all is code, up to a line that closes it. -/
theorem codeLines_of_not_closes {fence : Fence} {body : List Text}
    (h : ∀ line ∈ body, ¬ fence.Closes line) :
    codeLines (some fence) body = List.replicate body.length true ∧
      openBehind (some fence) body = some fence := by
  induction body with
  | nil => exact ⟨rfl, rfl⟩
  | cons line body ih =>
    obtain ⟨hline, hbody⟩ := List.forall_mem_cons.1 h
    have hlook := look_of_not_closes hline
    obtain ⟨hcode, hopen⟩ := ih hbody
    constructor
    · rw [codeLines_cons, hlook, hcode]
      rfl
    · rw [openBehind, List.foldl_cons, hlook]
      exact hopen

theorem look_of_opens {fence : Fence} {line : Text} (h : fence.Opens line) :
    Fence.look none line = (true, some fence) := by
  simp [Fence.look, Fence.ofStart?_eq_some_iff.2 h]

theorem look_of_closes {fence : Fence} {line : Text} (h : fence.Closes line) :
    Fence.look (some fence) line = (true, none) := by
  simp [Fence.look, Fence.isClosedBy_iff.2 h]

theorem look_of_not_opens {line : Text} (h : ∀ fence : Fence, ¬ fence.Opens line) :
    Fence.look none line = (false, none) := by
  simp [Fence.look, Fence.ofStart?_eq_none_iff.2 h]

/-- What is read off the blocks is what the fence that is carried along gives. -/
theorem IsFenced.codeLines_eq {lines : List Text} {marks : List Bool} {opened : Bool}
    (h : IsFenced lines marks opened) :
    codeLines none lines = marks ∧ (openBehind none lines).isSome = opened := by
  induction h with
  | nil => exact ⟨rfl, rfl⟩
  | @plain line lines marks opened hline _ ih =>
    have hlook := look_of_not_opens hline
    constructor
    · rw [codeLines_cons, hlook, ih.1]
    · rw [openBehind, List.foldl_cons, hlook]
      exact ih.2
  | @block fence first last body lines marks opened hfirst hbody hlast _ ih =>
    have hlook := look_of_opens hfirst
    obtain ⟨hcode, hopen⟩ := codeLines_of_not_closes hbody
    constructor
    · rw [codeLines_cons, hlook, codeLines_append, hcode, hopen, codeLines_cons,
        look_of_closes hlast, ih.1]
    · have hbehind : openBehind none (first :: (body ++ last :: lines)) =
          openBehind (some fence) (body ++ last :: lines) := by
        rw [openBehind, List.foldl_cons, hlook]
        rfl
      rw [hbehind, openBehind_append, hopen, openBehind, List.foldl_cons, look_of_closes hlast]
      exact ih.2
  | @unclosed fence first body hfirst hbody =>
    have hlook := look_of_opens hfirst
    obtain ⟨hcode, hopen⟩ := codeLines_of_not_closes hbody
    constructor
    · rw [codeLines_cons, hlook, hcode]
    · have hbehind : openBehind none (first :: body) = openBehind (some fence) body := by
        rw [openBehind, List.foldl_cons, hlook]
        rfl
      rw [hbehind, hopen]
      rfl

/-- The lines that `codeLines` marks are those of the blocks. -/
theorem isFenced_iff {lines : List Text} {marks : List Bool} {opened : Bool} :
    IsFenced lines marks opened ↔
      codeLines none lines = marks ∧ (openBehind none lines).isSome = opened := by
  constructor
  · exact IsFenced.codeLines_eq
  · rintro ⟨rfl, rfl⟩
    obtain ⟨marks, opened, h⟩ := exists_isFenced lines
    obtain ⟨rfl, rfl⟩ := h.codeLines_eq
    exact h

end Bindery
