import Bindery.Text.Basic

set_option autoImplicit false

/-! # Definition lists

In a chapter, an item of a definition list is a line `- term Label:` with the definition on the
lines below it. In the combined document the label stands by itself, an empty line follows, the
first line of the definition opens with a colon, and all its lines are indented.

`step` says what happens to one line in each mode. A line that ends a definition, or follows a
label, is handed back and looked at again in the next mode; `Progress.advance` keeps it in a slot
and takes it from there before it prepares another line. -/

namespace Bindery

namespace DefinitionList

/-! ## One line -/

/-- What the next line is looked at as. -/
inductive Mode where
  /-- A line outside definitions. -/
  | outside
  /-- The line behind a label; the separating line is still to be written. -/
  | separator
  /-- The first line of a definition. -/
  | first
  /-- A further line of a definition, or the line behind it. -/
  | body
  deriving DecidableEq, Repr

/-- What a line brings about. -/
structure Turn where
  /-- The line that is written, if one is. -/
  written : Option Text
  /-- The mode for the next line. -/
  next : Mode
  /-- The line itself, if it has to be looked at again. -/
  back : Option Text
  deriving DecidableEq, Repr

/-- What a line with a label starts with. -/
def termMarker : Text := "- term ".toList

/-- The text before the last colon, if there is a colon. -/
def beforeLastColon? (text : Text) : Option Text :=
  match text.reverse.dropWhile (· ≠ ':') with
  | [] => none
  | _ :: before => some before.reverse

/-- The label of a line that opens an item: what stands between the marker and the last colon of
the line, if anything does. -/
def label? (line : Text) : Option Text :=
  match Text.after? termMarker line with
  | none => none
  | some rest =>
    match beforeLastColon? (rest.takeWhile (· ≠ '\n')) with
    | some (c :: label) => some (c :: label)
    | _ => none

/-- The indentation of a definition. -/
def indent : Text := [' ', ' ', ' ', ' ']

/-- The first line of a definition. -/
def firstLine (line : Text) : Text := ':' :: indent ++ Text.trimStart line

/-- A further line of a definition. -/
def bodyLine (line : Text) : Text := indent ++ Text.trimStart line

/-- The line starts with white space. -/
def isIndented (line : Text) : Bool :=
  match line with
  | [] => false
  | c :: _ => isBlank c

/-- What a prepared line brings about in each mode. -/
def step : Mode → Text → Turn
  | .outside, line =>
    match label? line with
    | some label => ⟨some label, .separator, none⟩
    | none => ⟨some line, .outside, none⟩
  | .separator, line => ⟨some [], .first, some line⟩
  | .first, line => ⟨some (firstLine line), .body, none⟩
  | .body, line =>
    if line = [] then ⟨some [], .body, none⟩
    else if isIndented line then ⟨some (bodyLine line), .body, none⟩
    else ⟨none, .outside, some line⟩

/-! ## All lines -/

/-- How far the lines of a chapter have been dealt with. -/
structure Progress where
  /-- What the next line is looked at as. -/
  mode : Mode
  /-- A prepared line that has to be looked at again. -/
  slot : Option Text
  /-- The lines that have not been prepared yet. -/
  ahead : List Text
  deriving DecidableEq, Repr

namespace Progress

/-- Before the first line. -/
def start (lines : List Text) : Progress := ⟨.outside, none, lines⟩

/-- How the line in the slot counts: it is handed back once more in some modes. -/
def slotRank : Mode → Option Text → Nat
  | _, none => 0
  | .outside, some _ => 1
  | .first, some _ => 1
  | .separator, some _ => 2
  | .body, some _ => 2

/-- A bound on the number of looks that are still to come. -/
def rank (p : Progress) : Nat := 3 * p.ahead.length + slotRank p.mode p.slot

/-- Looks at a prepared line; `ahead` is what follows it. -/
def look (mode : Mode) (line : Text) (ahead : List Text) : Option Text × Progress :=
  let turn := step mode line
  (turn.written, ⟨turn.next, turn.back, ahead⟩)

/-- Looks at the next line: at the one in the slot, else at the first line ahead, prepared. There
is nothing left to do when there is neither. -/
def advance {ε : Type} (prepare : Text → Except ε Text) (p : Progress) :
    Except ε (Option (Option Text × Progress)) :=
  match p.slot, p.ahead with
  | some line, ahead => .ok (some (look p.mode line ahead))
  | none, raw :: ahead => (prepare raw).map fun line => some (look p.mode line ahead)
  | none, [] => .ok none

theorem slotRank_step (mode : Mode) (line : Text) :
    slotRank (step mode line).next (step mode line).back < slotRank mode (some line) := by
  cases mode <;> simp only [step] <;> (repeat' split) <;> simp [slotRank]

theorem slotRank_le (mode : Mode) (slot : Option Text) : slotRank mode slot ≤ 2 := by
  cases mode <;> cases slot <;> simp [slotRank]

/-- Every look brings the end nearer. -/
theorem rank_advance {ε : Type} {prepare : Text → Except ε Text} {p p' : Progress}
    {written : Option Text} (h : advance prepare p = .ok (some (written, p'))) :
    p'.rank < p.rank := by
  obtain ⟨mode, slot, ahead⟩ := p
  cases slot with
  | some line =>
    cases h
    have := slotRank_step mode line
    simp only [rank]
    omega
  | none =>
    cases ahead with
    | nil => cases h
    | cons raw ahead =>
      simp only [advance] at h
      cases hr : prepare raw with
      | error e => simp [hr, Except.map] at h
      | ok line =>
        rw [hr] at h
        cases h
        have := slotRank_step mode line
        have := slotRank_le mode (some line)
        simp only [rank, List.length_cons]
        omega

/-- Deals with everything that is left; the lines that are written. -/
def finish {ε : Type} (prepare : Text → Except ε Text) (p : Progress) : Except ε (List Text) :=
  match h : advance prepare p with
  | .error e => .error e
  | .ok none => .ok []
  | .ok (some (written, p')) =>
    have := rank_advance h
    (finish prepare p').map (written.toList ++ ·)
  termination_by p.rank
  decreasing_by exact this

end Progress

/-- Prepares the lines of a chapter and lays out its definition lists. The first line that cannot
be prepared is the error. -/
def layOut {ε : Type} (prepare : Text → Except ε Text) (lines : List Text) :
    Except ε (List Text) :=
  (Progress.start lines).finish prepare

end DefinitionList

end Bindery
