import Bindery.Line.Preparation
import Bindery.Proofs.Chapter.Label
import Bindery.Proofs.FirstFault

set_option autoImplicit false

/-! # The layout of definition lists

`Arranged` says what the lines of a chapter become once they are prepared, as a grammar: lines that
stand by themselves and items of definition lists. The machine of `layOut` works line by line, with
four modes and a line that it may hand back to itself; `layOut_prepareLine` says that it prepares
each line once, in order, and arranges the results.

The proof goes by `laidOut`, which gives each mode a meaning on prepared lines. One step of the
machine keeps that meaning (`laidOut_step`), so its whole run does (`finish_eq`). -/

namespace Bindery

namespace DefinitionList

/-! ## The grammar -/

/-- The line goes on with a definition: it is empty or starts with white space. -/
def IsContinuation (line : Text) : Prop := line = [] ∨ ∃ c rest, line = c :: rest ∧ isBlank c = true

/-- The first line of a definition as it is written: a colon and four spaces stand in the place of
the white space at its front. -/
def opened (line : Text) : Text := ":    ".toList ++ line.dropWhile isBlank

/-- A further line of a definition as it is written: an empty one stays empty, and in another four
spaces stand in the place of the white space at its front. -/
def continued (line : Text) : Text :=
  if line = [] then [] else "    ".toList ++ line.dropWhile isBlank

/-- The prepared lines `lines` are written as `out`. -/
inductive Arranged : (lines out : List Text) → Prop
  | nil : Arranged [] []
  /-- A line without a label stays as it is. -/
  | plain {line : Text} {lines out : List Text} :
      (∀ label, ¬ IsLabel line label) → Arranged lines out → Arranged (line :: lines) (line :: out)
  /-- A label at the end has no definition. -/
  | lone {line label : Text} : IsLabel line label → Arranged [line] [label]
  /-- The line behind a label is the first of a definition, whatever it is; the definition goes on
  as long as it can. -/
  | item {line label first : Text} {body rest out : List Text} :
      IsLabel line label → (∀ l ∈ body, IsContinuation l) →
      (∀ l ∈ rest.head?, ¬ IsContinuation l) → Arranged rest out →
      Arranged (line :: first :: (body ++ rest))
        (label :: [] :: opened first :: (body.map continued ++ out))

/-! ## What each mode makes of prepared lines -/

theorem bodyLine_eq {line : Text} (h : line ≠ []) : bodyLine line = continued line := by
  rw [continued, if_neg h]
  rfl

theorem isContinuation_iff {line : Text} :
    IsContinuation line ↔ line = [] ∨ isIndented line = true := by
  cases line <;> simp [IsContinuation, isIndented]

/-- What is written when the prepared lines are looked at from a mode on. -/
def laidOut : Mode → List Text → List Text
  | _, [] => []
  | .outside, line :: lines =>
    match label? line with
    | some label => label :: laidOut .separator lines
    | none => line :: laidOut .outside lines
  | .separator, line :: lines => [] :: opened line :: laidOut .body lines
  | .first, line :: lines => opened line :: laidOut .body lines
  | .body, line :: lines =>
    if line = [] ∨ isIndented line then continued line :: laidOut .body lines
    else
      match label? line with
      | some label => label :: laidOut .separator lines
      | none => line :: laidOut .outside lines

@[simp]
theorem laidOut_nil (mode : Mode) : laidOut mode [] = [] := by
  cases mode <;> rfl

theorem laidOut_body_cons_of_not {line : Text} {lines : List Text} (h : ¬ IsContinuation line) :
    laidOut .body (line :: lines) = laidOut .outside (line :: lines) := by
  rw [isContinuation_iff] at h
  simp only [laidOut, if_neg h]

theorem laidOut_body_append {body rest : List Text} (hbody : ∀ l ∈ body, IsContinuation l)
    (hrest : ∀ l ∈ rest.head?, ¬ IsContinuation l) :
    laidOut .body (body ++ rest) = body.map continued ++ laidOut .outside rest := by
  induction body with
  | nil =>
    cases rest with
    | nil => rfl
    | cons line lines => exact laidOut_body_cons_of_not (hrest line rfl)
  | cons line body ih =>
    have hline := isContinuation_iff.1 (hbody line (List.mem_cons_self ..))
    have htail := ih fun l hl => hbody l (List.mem_cons_of_mem _ hl)
    rw [List.cons_append, laidOut, if_pos hline, htail]
    rfl

/-- One step of the machine: what it writes, then what is made of the line it hands back and of the
lines behind it. -/
theorem laidOut_step (mode : Mode) (line : Text) (lines : List Text) :
    laidOut mode (line :: lines) =
      (step mode line).written.toList ++
        laidOut (step mode line).next ((step mode line).back.toList ++ lines) := by
  cases mode with
  | outside =>
    simp only [step, laidOut]
    cases label? line <;> rfl
  | separator => rfl
  | first => rfl
  | body =>
    by_cases hempty : line = []
    · simp [step, laidOut, continued, hempty]
    · by_cases hindented : isIndented line = true
      · simp [step, laidOut, bodyLine_eq, hempty, hindented]
      · have hnot : ¬ IsContinuation line := by simp [isContinuation_iff, hempty, hindented]
        rw [laidOut_body_cons_of_not hnot]
        simp [step, hempty, hindented]

/-! ## A step and a run of the machine -/

section

variable {ε : Type} {prepare : Text → Except ε Text} {p p' : Progress}

/-- The machine fails where the next line ahead cannot be prepared. -/
theorem advance_eq_error {e : ε} (h : p.advance prepare = .error e) :
    p.slot = none ∧ ∃ raw ahead, p.ahead = raw :: ahead ∧ prepare raw = .error e := by
  obtain ⟨mode, slot | line, ahead⟩ := p
  · cases ahead with
    | nil => cases h
    | cons raw ahead =>
      exact ⟨rfl, raw, ahead, rfl, map_eq_error_iff.1 h⟩
  · cases h

/-- The machine stops where no line is left. -/
theorem advance_eq_none (h : p.advance prepare = .ok none) : p.slot = none ∧ p.ahead = [] := by
  obtain ⟨mode, slot | line, ahead⟩ := p
  · cases ahead with
    | nil => exact ⟨rfl, rfl⟩
    | cons raw ahead =>
      obtain ⟨line, -, hlook⟩ := map_eq_ok_iff.1 h
      cases hlook
  · cases h

/-- Otherwise it looks at one line: the one in the slot, or the next one ahead, prepared. -/
theorem advance_eq_some {written : Option Text}
    (h : p.advance prepare = .ok (some (written, p'))) :
    ∃ line, written = (step p.mode line).written ∧ p'.mode = (step p.mode line).next ∧
      p'.slot = (step p.mode line).back ∧
      (p.slot = some line ∧ p.ahead = p'.ahead ∨
        p.slot = none ∧ ∃ raw, p.ahead = raw :: p'.ahead ∧ prepare raw = .ok line) := by
  obtain ⟨mode, slot | line, ahead⟩ := p
  · cases ahead with
    | nil => cases h
    | cons raw ahead =>
      obtain ⟨line, hraw, hlook⟩ := map_eq_ok_iff.1 h
      cases hlook
      exact ⟨line, rfl, rfl, rfl, Or.inr ⟨rfl, raw, rfl, hraw⟩⟩
  · cases h
    exact ⟨line, rfl, rfl, rfl, Or.inl ⟨rfl, rfl⟩⟩

end

/-- The whole run: each line ahead is prepared once, in order, and the line in the slot is already
prepared. -/
theorem finish_eq {ε : Type} (prepare : Text → Except ε Text) (p : Progress) :
    p.finish prepare =
      (p.ahead.mapM prepare).map fun lines => laidOut p.mode (p.slot.toList ++ lines) := by
  fun_induction Progress.finish prepare p with
  | case1 p e h =>
    obtain ⟨-, raw, ahead, hahead, hraw⟩ := advance_eq_error h
    rw [hahead, mapM_cons_error hraw]
    rfl
  | case2 p h =>
    obtain ⟨hslot, hahead⟩ := advance_eq_none h
    simp [hslot, hahead, pure, Except.pure, Except.map]
  | case3 p written p' h _ ih =>
    obtain ⟨line, rfl, hmode, hslot, hline⟩ := advance_eq_some h
    -- what the machine makes of the line and of all lines behind it
    have hstep : ∀ lines, (step p.mode line).written.toList ++
        laidOut p'.mode (p'.slot.toList ++ lines) = laidOut p.mode (line :: lines) := by
      intro lines
      rw [hmode, hslot, laidOut_step]
    rw [ih]
    rcases hline with ⟨hline, hahead⟩ | ⟨hnone, raw, hahead, hraw⟩
    · rw [hline, hahead]
      cases p'.ahead.mapM prepare with
      | error e => rfl
      | ok lines => exact congrArg Except.ok (hstep lines)
    · rw [hnone, hahead, mapM_cons_ok hraw]
      cases p'.ahead.mapM prepare with
      | error e => rfl
      | ok lines => exact congrArg Except.ok (hstep lines)

/-- Laying out is preparing all lines and then laying out what comes of it. -/
theorem layOut_eq {ε : Type} (prepare : Text → Except ε Text) (lines : List Text) :
    layOut prepare lines = (lines.mapM prepare).map (laidOut .outside) :=
  finish_eq prepare (Progress.start lines)

/-! ## The grammar and the modes agree -/

theorem laidOut_of_arranged {lines out : List Text} (h : Arranged lines out) :
    laidOut .outside lines = out := by
  induction h with
  | nil => rfl
  | plain hline _ ih => simp [laidOut, label?_eq_none_iff.2 hline, ih]
  | lone hline => simp [laidOut, label?_eq_some_iff.2 hline]
  | item hline hbody hrest _ ih =>
    simp [laidOut, label?_eq_some_iff.2 hline, laidOut_body_append hbody hrest, ih]

/-- Lines can be cut where a definition ends. -/
theorem exists_definition (lines : List Text) :
    ∃ body rest, lines = body ++ rest ∧ (∀ l ∈ body, IsContinuation l) ∧
      ∀ l ∈ rest.head?, ¬ IsContinuation l := by
  induction lines with
  | nil => exact ⟨[], [], rfl, by simp, by simp⟩
  | cons line lines ih =>
    by_cases hline : IsContinuation line
    · obtain ⟨body, rest, rfl, hbody, hrest⟩ := ih
      exact ⟨line :: body, rest, rfl, List.forall_mem_cons.2 ⟨hline, hbody⟩, hrest⟩
    · exact ⟨[], line :: lines, rfl, by simp, by simpa using hline⟩

/-- The grammar makes something of all lines. -/
theorem arranged_laidOut (lines : List Text) : Arranged lines (laidOut .outside lines) := by
  -- an item takes its definition at once, so the induction is on the number of lines
  induction hn : lines.length using Nat.strong_induction_on generalizing lines with
  | _ n ih =>
    match lines with
    | [] => exact .nil
    | line :: lines =>
      rw [List.length_cons] at hn
      cases hlabel : label? line with
      | none =>
        have hlines := ih lines.length (by omega) lines rfl
        simp only [laidOut, hlabel]
        exact .plain (label?_eq_none_iff.1 hlabel) hlines
      | some label =>
        have hline := label?_eq_some_iff.1 hlabel
        match lines with
        | [] =>
          simp only [laidOut, hlabel]
          exact .lone hline
        | first :: lines =>
          obtain ⟨body, rest, rfl, hbody, hrest⟩ := exists_definition lines
          rw [List.length_cons, List.length_append] at hn
          have hout := ih rest.length (by omega) rest rfl
          simp only [laidOut, hlabel, laidOut_body_append hbody hrest]
          exact .item hline hbody hrest hout

theorem arranged_iff {lines out : List Text} : Arranged lines out ↔ laidOut .outside lines = out :=
  ⟨laidOut_of_arranged, fun h => h ▸ arranged_laidOut lines⟩

/-! ## Chapters -/

/-- The lines of a chapter are prepared one after the other, each once, and the results are
arranged; or the first line that cannot be prepared is the error. -/
theorem layOut_prepareLine (index : Index) (assets : Assets) (lines : List Text) :
    (∀ out, layOut (prepareLine index assets) lines = .ok out ↔
      ∃ prepared,
        List.Forall₂ (fun raw line => prepareLine index assets raw = .ok line) lines prepared ∧
          Arranged prepared out) ∧
    ∀ e, layOut (prepareLine index assets) lines = .error e ↔
      FirstFault (fun raw e => prepareLine index assets raw = .error e) lines e := by
  constructor
  · intro out
    simp only [layOut_eq, map_eq_ok_iff, mapM_eq_ok_iff, arranged_iff]
  · intro e
    rw [layOut_eq, map_eq_error_iff, mapM_eq_error_iff]

/-- An item whose definition goes on behind an empty line, and a line that ends it. -/
theorem layOut_prepareLine_item :
    layOut (prepareLine .empty ⟨⟨.empty, []⟩, []⟩)
        ["- term a: b:".toList, "\t* c".toList, [], " d".toList, "  ".toList, "e".toList] =
      .ok ["a: b".toList, [], ":    * c".toList, [], "    d".toList, "    ".toList, "e".toList] := by
  refine ((layOut_prepareLine _ _ _).1 _).2
    ⟨["- term a: b:".toList, "\t* c".toList, [], " d".toList, "  ".toList, "e".toList], ?_, ?_⟩
  · exact mapM_eq_ok_iff.1 (by cbv)
  · exact arranged_iff.2 (by cbv)

end DefinitionList

end Bindery
