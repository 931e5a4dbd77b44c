import Bindery.Proofs.Chapter.Run

set_option autoImplicit false

/-! # The rounds of the layout machine

A round of the machine is one look at a prepared line. `Course` says that rounds follow one another,
and `Handled` says which row of rounds belongs to a line ahead: it is prepared in one round and
looked at there, and if this round hands it back, it is looked at once more in the next round, which
does not. So the line in the slot is never lost. `layOut_rounds` says that the machine handles the
lines ahead one after the other until none is left or one cannot be prepared.

What a round writes is counted with what it owes: behind a label the separating line is still to be
written (`Progress.owed`). -/

namespace Bindery

namespace DefinitionList

variable {ε : Type} {prepare : Text → Except ε Text} {mode : Mode} {line raw : Text}
  {ahead : List Text}

/-! ## What is counted -/

/-- The line that is prepared in the next round. None is if the slot holds a line. -/
def Progress.asked? (p : Progress) : Option Text :=
  match p.slot with
  | some _ => none
  | none => p.ahead.head?

theorem slot_eq_none_of_asked? {p : Progress} (h : p.asked? = some raw) : p.slot = none := by
  obtain ⟨mode, slot | line, ahead⟩ := p
  · rfl
  · cases h

theorem asked?_eq_none {p : Progress} (h : p.slot = some line) : p.asked? = none := by
  rw [Progress.asked?, h]

/-- A round asks for no other line to be prepared. -/
theorem advance_congr {prepare' : Text → Except ε Text} {p : Progress}
    (h : ∀ raw, p.asked? = some raw → prepare' raw = prepare raw) :
    p.advance prepare' = p.advance prepare := by
  obtain ⟨mode, slot | line, ahead⟩ := p
  · cases ahead with
    | nil => rfl
    | cons raw ahead => simp only [Progress.advance, h raw rfl]
  · rfl

/-- How many lines are owed that no line ahead stands for: a separating line behind a label, if
another line follows. -/
def Progress.owed (p : Progress) : Nat := if p.mode = .separator ∧ p.ahead ≠ [] then 1 else 0

/-- One look of the machine at a prepared line. -/
structure Round where
  before : Progress
  /-- The line that is looked at. -/
  line : Text
  /-- The line that is written, if one is. -/
  written : Option Text
  after : Progress

namespace Round

/-- The machine makes the round: the line is the one in the slot, else the next one, prepared. -/
structure IsMade (prepare : Text → Except ε Text) (round : Round) : Prop where
  advance : round.before.advance prepare = .ok (some (round.written, round.after))
  line : round.before.slot = some round.line ∨
    ∃ raw, round.before.asked? = some raw ∧ prepare raw = .ok round.line

/-- The line is taken as one with a label, and another line follows. -/
def opensItem (round : Round) : Bool :=
  decide (round.before.mode = .outside) && (label? round.line).isSome &&
    decide (round.after.ahead ≠ [])

theorem opensItem_iff {round : Round} : round.opensItem = true ↔
    round.before.mode = .outside ∧ (label? round.line).isSome = true ∧ round.after.ahead ≠ [] := by
  simp [opensItem, and_assoc]

/-- The round in which the machine looks at the line in front of the lines ahead. -/
def looking (before : Progress) (line : Text) (ahead : List Text) : Round :=
  ⟨before, line, (Progress.look before.mode line ahead).1, (Progress.look before.mode line ahead).2⟩

theorem looking_written (before : Progress) (line : Text) (ahead : List Text) :
    (looking before line ahead).written = (step before.mode line).written := rfl

theorem looking_after (before : Progress) (line : Text) (ahead : List Text) :
    (looking before line ahead).after =
      ⟨(step before.mode line).next, (step before.mode line).back, ahead⟩ := rfl

theorem isMade_fresh (mode : Mode) (ahead : List Text) (h : prepare raw = .ok line) :
    (looking ⟨mode, none, raw :: ahead⟩ line ahead).IsMade prepare where
  advance := by
    simp only [looking, Progress.advance, h]
    rfl
  line := .inr ⟨raw, rfl, h⟩

theorem isMade_again (prepare : Text → Except ε Text) (mode : Mode) (line : Text)
    (ahead : List Text) : (looking ⟨mode, some line, ahead⟩ line ahead).IsMade prepare where
  advance := rfl
  line := .inl rfl

/-- A state leads to one round at most. -/
theorem IsMade.unique {round round' : Round} (h : round.IsMade prepare) (h' : round'.IsMade prepare)
    (hbefore : round.before = round'.before) : round = round' := by
  obtain ⟨before, line, written, after⟩ := round
  obtain ⟨_, line', _, _⟩ := round'
  cases hbefore
  have hlook := h.advance.symm.trans h'.advance
  cases hlook
  obtain rfl : line = line' := by
    rcases h.line with hslot | ⟨raw, hasked, hraw⟩
    · rcases h'.line with hslot' | ⟨raw, hasked, -⟩
      · exact Option.some.inj (hslot.symm.trans hslot')
      · cases hslot.symm.trans (slot_eq_none_of_asked? hasked)
    · rcases h'.line with hslot' | ⟨raw', hasked', hraw'⟩
      · cases hslot'.symm.trans (slot_eq_none_of_asked? hasked)
      · cases hasked.symm.trans hasked'
        exact Except.ok.inj (hraw.symm.trans hraw')
  rfl

end Round

/-- The machine makes the rounds one after the other, from the one state to the other. -/
inductive Course (prepare : Text → Except ε Text) : Progress → List Round → Progress → Prop
  | nil (p : Progress) : Course prepare p [] p
  | cons {round : Round} {rounds : List Round} {last : Progress} :
      round.IsMade prepare → Course prepare round.after rounds last →
      Course prepare round.before (round :: rounds) last

/-- The lines that are prepared in the rounds. -/
def askedIn (rounds : List Round) : List Text := rounds.filterMap (·.before.asked?)

/-- The lines that are written in the rounds. -/
def writtenIn (rounds : List Round) : List Text := rounds.flatMap (·.written.toList)

/-- The rounds in which a line ahead is handled. The slot is empty behind the last of them. -/
inductive Handled (prepare : Text → Except ε Text) (raw : Text) : List Round → Prop
  /-- The line is prepared and looked at. -/
  | once {round : Round} : round.before.asked? = some raw → prepare raw = .ok round.line →
      round.after.slot = none → Handled prepare raw [round]
  /-- The line is prepared, looked at and handed back, and it is looked at again. -/
  | twice {round again : Round} : round.before.asked? = some raw → prepare raw = .ok round.line →
      round.after.slot = some round.line → again.before = round.after →
      again.line = round.line → again.after.slot = none → Handled prepare raw [round, again]

theorem askedIn_append (rounds rounds' : List Round) :
    askedIn (rounds ++ rounds') = askedIn rounds ++ askedIn rounds' :=
  List.filterMap_append

theorem writtenIn_append (rounds rounds' : List Round) :
    writtenIn (rounds ++ rounds') = writtenIn rounds ++ writtenIn rounds' :=
  List.flatMap_append

/-- The rounds lead the machine over the line, and what they write and owe adds up. -/
structure Handling (prepare : Text → Except ε Text) (raw : Text) (p : Progress)
    (rounds : List Round) (q : Progress) : Prop where
  handled : Handled prepare raw rounds
  course : Course prepare p rounds q
  /-- The line itself and what was owed. -/
  written : (writtenIn rounds).length = 1 + p.owed
  owed : q.owed = if rounds.any Round.opensItem then 1 else 0

/-! ## One line -/

/-- A line that is handed back is not handed back again. -/
theorem step_back (mode : Mode) (line : Text) :
    (step mode line).back = none ∨
      (step mode line).back = some line ∧ (step mode line).next ≠ .separator ∧
        (step (step mode line).next line).back = none := by
  cases mode with
  | outside =>
    left
    simp only [step]
    split <;> rfl
  | separator => exact .inr ⟨rfl, by simp [step], rfl⟩
  | first => exact .inl rfl
  | body =>
    by_cases hempty : line = []
    · exact .inl (by simp [step, hempty])
    · by_cases hindented : isIndented line = true
      · exact .inl (by simp [step, hempty, hindented])
      · have hstep : step .body line = ⟨none, .outside, some line⟩ := by
          simp [step, hempty, hindented]
        right
        rw [hstep]
        refine ⟨rfl, by simp, ?_⟩
        simp only [step]
        split <;> rfl

/-- A look writes a line or hands one back, and behind a label it does both. -/
theorem length_written_step (mode : Mode) (line : Text) :
    (step mode line).written.toList.length + (step mode line).back.toList.length =
      1 + if mode = .separator then 1 else 0 := by
  cases mode with
  | outside =>
    simp only [step]
    split <;> rfl
  | separator => rfl
  | first => rfl
  | body =>
    simp only [step]
    split
    · rfl
    · split <;> rfl

theorem step_eq_separator_iff :
    (step mode line).next = .separator ↔ mode = .outside ∧ (label? line).isSome = true := by
  constructor
  · intro h
    obtain ⟨hmode, label, hlabel, -⟩ := step_eq_separator h
    exact ⟨hmode, by rw [hlabel, Option.isSome_some]⟩
  · rintro ⟨rfl, hlabel⟩
    obtain ⟨label, hlabel⟩ := Option.isSome_iff_exists.1 hlabel
    simp [step, hlabel]

theorem owed_cons :
    Progress.owed ⟨mode, none, raw :: ahead⟩ = if mode = .separator then 1 else 0 := by
  simp [Progress.owed]

/-- Behind a look a line is owed exactly if the look opens an item. -/
theorem owed_step (before : Progress) (line : Text) (slot : Option Text) (ahead : List Text) :
    Progress.owed ⟨(step before.mode line).next, slot, ahead⟩ =
      if (Round.looking before line ahead).opensItem then 1 else 0 := by
  simp [Progress.owed, Round.opensItem_iff, Round.looking, Progress.look, step_eq_separator_iff,
    and_assoc]

theorem opensItem_looking_eq_false (before : Progress) (ahead : List Text)
    (h : (step before.mode line).next ≠ .separator) :
    (Round.looking before line ahead).opensItem = false := by
  rw [Bool.eq_false_iff]
  intro hopens
  obtain ⟨hmode, hlabel, -⟩ := Round.opensItem_iff.1 hopens
  exact h (step_eq_separator_iff.2 ⟨hmode, hlabel⟩)

/-- A line that is not handed back. -/
theorem handling_once (ahead : List Text) (hraw : prepare raw = .ok line)
    (hback : (step mode line).back = none) :
    Handling prepare raw ⟨mode, none, raw :: ahead⟩
      [.looking ⟨mode, none, raw :: ahead⟩ line ahead] ⟨(step mode line).next, none, ahead⟩ := by
  have hafter := Round.looking_after ⟨mode, none, raw :: ahead⟩ line ahead
  have hcount := length_written_step mode line
  have howed := owed_step ⟨mode, none, raw :: ahead⟩ line none ahead
  simp only [hback] at hafter hcount
  constructor
  case handled => exact .once rfl hraw (by rw [hafter])
  case course => exact .cons (Round.isMade_fresh mode ahead hraw) (hafter ▸ .nil _)
  case written =>
    rw [owed_cons, ← hcount]
    simp [writtenIn, Round.looking_written]
  case owed => simpa using howed

/-- A line that is handed back. -/
theorem handling_twice (ahead : List Text) (hraw : prepare raw = .ok line)
    (hback : (step mode line).back = some line) (hnext : (step mode line).next ≠ .separator)
    (hagain : (step (step mode line).next line).back = none) :
    Handling prepare raw ⟨mode, none, raw :: ahead⟩
      [.looking ⟨mode, none, raw :: ahead⟩ line ahead,
        .looking ⟨(step mode line).next, some line, ahead⟩ line ahead]
      ⟨(step (step mode line).next line).next, none, ahead⟩ := by
  have hafter := Round.looking_after ⟨mode, none, raw :: ahead⟩ line ahead
  have hafter' := Round.looking_after ⟨(step mode line).next, some line, ahead⟩ line ahead
  have hcount := length_written_step mode line
  have hcount' := length_written_step (step mode line).next line
  have howed := owed_step ⟨(step mode line).next, some line, ahead⟩ line none ahead
  simp only [hback, Option.toList_some, List.length_singleton] at hafter hcount
  simp only [hagain, if_neg hnext, Option.toList_none, List.length_nil] at hafter' hcount'
  constructor
  case handled => exact .twice rfl hraw (by rw [hafter]; rfl) hafter.symm rfl (by rw [hafter'])
  case course =>
    refine .cons (Round.isMade_fresh mode ahead hraw) ?_
    rw [hafter]
    exact .cons (Round.isMade_again prepare _ line ahead) (hafter' ▸ .nil _)
  case written =>
    rw [owed_cons, ← hcount]
    simp only [writtenIn, List.flatMap_cons, List.flatMap_nil, Round.looking_written,
      List.length_append, List.length_nil]
    omega
  case owed =>
    -- it is handed back behind a label or behind a definition, and opens no item there
    rw [howed, List.any_cons, opensItem_looking_eq_false ⟨mode, none, raw :: ahead⟩ ahead hnext]
    simp

/-- A line ahead that can be prepared is handled, and then the slot is empty again. -/
theorem exists_handling (mode : Mode) (ahead : List Text) (hraw : prepare raw = .ok line) :
    ∃ rounds next,
      Handling prepare raw ⟨mode, none, raw :: ahead⟩ rounds ⟨next, none, ahead⟩ := by
  rcases step_back mode line with hback | ⟨hback, hnext, hagain⟩
  · exact ⟨_, _, handling_once ahead hraw hback⟩
  · exact ⟨_, _, handling_twice ahead hraw hback hnext hagain⟩

/-! ## All lines -/

theorem finish_of_advance {p q : Progress} {written : Option Text}
    (h : p.advance prepare = .ok (some (written, q))) :
    p.finish prepare = (q.finish prepare).map (written.toList ++ ·) := by
  rw [Progress.finish]
  split
  · next hsame => cases h.symm.trans hsame
  · next hsame => cases h.symm.trans hsame
  · next hsame =>
    cases h.symm.trans hsame
    rfl

namespace Course

variable {p q last : Progress} {rounds rounds' : List Round}

theorem append (h : Course prepare p rounds q) (h' : Course prepare q rounds' last) :
    Course prepare p (rounds ++ rounds') last := by
  induction h with
  | nil => exact h'
  | cons hmade _ ih => exact .cons hmade (ih h')

theorem cases_head (h : Course prepare p rounds last) :
    rounds = [] ∨ ∃ round rest, rounds = round :: rest ∧ round.before = p ∧
      round.IsMade prepare ∧ Course prepare round.after rest last := by
  cases h with
  | nil => exact .inl rfl
  | cons hmade hrest => exact .inr ⟨_, _, rfl, rfl, hmade, hrest⟩

/-- There is one way to go on until no round can be made. -/
theorem isPrefix (h : Course prepare p rounds last)
    (hlast : ∀ written q, last.advance prepare ≠ .ok (some (written, q)))
    (h' : Course prepare p rounds' q) : rounds' <+: rounds := by
  induction h generalizing rounds' with
  | nil p =>
    rcases h'.cases_head with rfl | ⟨round, _, -, rfl, hmade, -⟩
    · exact List.nil_prefix
    · exact absurd hmade.advance (hlast _ _)
  | cons hmade _ ih =>
    rcases h'.cases_head with rfl | ⟨round, rest, rfl, hbefore, hmade', hrest⟩
    · exact List.nil_prefix
    · obtain rfl := hmade'.unique hmade hbefore
      exact List.cons_prefix_cons.2 ⟨rfl, ih hlast hrest⟩

theorem finish_eq (h : Course prepare p rounds last) :
    p.finish prepare = (last.finish prepare).map (writtenIn rounds ++ ·) := by
  induction h with
  | nil p => cases p.finish prepare <;> rfl
  | @cons round rounds last hmade _ ih =>
    rw [finish_of_advance hmade.advance, ih]
    cases last.finish prepare with
    | error e => rfl
    | ok out => simp [Except.map, writtenIn]

end Course

/-- The lines ahead are handled one after the other up to the first that cannot be prepared. -/
theorem exists_rows (prepare : Text → Except ε Text) (mode : Mode) (ahead : List Text) :
    ∃ front behind rows last, ahead = front ++ behind ∧
      (∀ raw ∈ behind.head?, ∃ e, prepare raw = .error e) ∧
      List.Forall₂ (Handled prepare) front rows ∧
      Course prepare ⟨mode, none, ahead⟩ rows.flatten ⟨last, none, behind⟩ ∧
      (writtenIn rows.flatten).length + Progress.owed ⟨last, none, behind⟩ =
        front.length + Progress.owed ⟨mode, none, ahead⟩ +
          rows.countP (·.any Round.opensItem) := by
  induction ahead generalizing mode with
  | nil => exact ⟨[], [], [], mode, rfl, by simp, .nil, .nil _, rfl⟩
  | cons raw ahead ih =>
    cases hraw : prepare raw with
    | error e =>
      exact ⟨[], raw :: ahead, [], mode, rfl, by simp [hraw], .nil, .nil _, by simp [writtenIn]⟩
    | ok line =>
      obtain ⟨row, next, hrow⟩ := exists_handling mode ahead hraw
      obtain ⟨front, behind, rows, last, rfl, hstop, hrows, hcourse, hcount⟩ := ih next
      refine ⟨raw :: front, behind, row :: rows, last, rfl, hstop, .cons hrow.handled hrows,
        hrow.course.append hcourse, ?_⟩
      rw [hrow.owed] at hcount
      rw [List.flatten_cons, writtenIn_append, List.length_append, List.length_cons,
        List.countP_cons, hrow.written]
      omega

/-! ## What handled lines have in common -/

theorem Handled.length_le {row : List Round} (h : Handled prepare raw row) :
    row.length ≤ 2 := by
  cases h <;> simp

/-- A line is prepared once. -/
theorem Handled.askedIn_eq {row : List Round} (h : Handled prepare raw row) :
    askedIn row = [raw] := by
  cases h with
  | once hasked => simp [askedIn, hasked]
  | twice hasked _ hback hagain => simp [askedIn, hasked, hagain, asked?_eq_none hback]

/-- A line is handed back only if none was in the slot. -/
theorem Handled.slot_eq_none {row : List Round} (h : Handled prepare raw row) :
    ∀ round ∈ row, round.after.slot ≠ none → round.before.slot = none := by
  cases h with
  | once _ _ hafter => simp [hafter]
  | twice hasked _ _ _ _ hafter => simp [hafter, slot_eq_none_of_asked? hasked]

section

variable {front : List Text} {rows : List (List Round)}

theorem length_flatten_le (h : List.Forall₂ (Handled prepare) front rows) :
    rows.flatten.length ≤ 2 * front.length := by
  induction h with
  | nil => simp
  | cons hrow _ ih =>
    have hlength := hrow.length_le
    rw [List.flatten_cons, List.length_append, List.length_cons]
    omega

theorem askedIn_flatten (h : List.Forall₂ (Handled prepare) front rows) :
    askedIn rows.flatten = front := by
  induction h with
  | nil => rfl
  | cons hrow _ ih =>
    rw [List.flatten_cons, askedIn_append, hrow.askedIn_eq, ih, List.singleton_append]

theorem slot_eq_none_of_mem_flatten (h : List.Forall₂ (Handled prepare) front rows)
    {round : Round} (hround : round ∈ rows.flatten) (hafter : round.after.slot ≠ none) :
    round.before.slot = none := by
  induction h with
  | nil => cases hround
  | cons hrow _ ih =>
    rcases List.mem_append.1 hround with hhere | hlater
    · exact hrow.slot_eq_none round hhere hafter
    · exact ih hlater

end

/-- The machine makes its rounds in one way. It handles the lines one after the other, each in one
round or in two, and stops when all are handled or one cannot be prepared; an attempt to prepare
that fails counts with the rounds in the bound. A line is handed back only if none was in the slot,
and at the end none is there. If all lines are handled, one is written for each of them and one more
for each that opens an item with another line behind it. -/
theorem layOut_rounds {ε : Type} (prepare : Text → Except ε Text) (lines : List Text) :
    ∃ rows last, Course prepare (Progress.start lines) rows.flatten last ∧
      (∀ rounds q, Course prepare (Progress.start lines) rounds q → rounds <+: rows.flatten) ∧
      rows.flatten.length + last.asked?.toList.length ≤ 2 * lines.length ∧
      (∀ round ∈ rows.flatten, round.after.slot ≠ none → round.before.slot = none) ∧
      last.slot = none ∧
      ((List.Forall₂ (Handled prepare) lines rows ∧
          askedIn rows.flatten = lines ∧ last.ahead = [] ∧
          layOut prepare lines = .ok (writtenIn rows.flatten) ∧
          (writtenIn rows.flatten).length =
            lines.length + rows.countP (·.any Round.opensItem)) ∨
        ∃ front raw behind e, lines = front ++ raw :: behind ∧
          List.Forall₂ (Handled prepare) front rows ∧
          askedIn rows.flatten = front ∧ last.ahead = raw :: behind ∧
          prepare raw = .error e ∧ layOut prepare lines = .error e) ∧
      ∀ (p : Progress) (prepare' : Text → Except ε Text),
        (∀ raw, p.asked? = some raw → prepare' raw = prepare raw) →
          p.advance prepare' = p.advance prepare := by
  obtain ⟨front, behind, rows, last, rfl, hstop, hrows, hcourse, hcount⟩ :=
    exists_rows prepare .outside lines
  have hlayOut : layOut prepare (front ++ behind) = _ := hcourse.finish_eq
  have hlength := length_flatten_le hrows
  have hasked := askedIn_flatten hrows
  have hslots := fun round (hround : round ∈ rows.flatten) =>
    slot_eq_none_of_mem_flatten hrows hround
  rw [finish_eq] at hlayOut
  cases behind with
  | nil =>
    rw [List.append_nil] at hcourse hlayOut hcount ⊢
    refine ⟨rows, _, hcourse, fun rounds q hrun => hcourse.isPrefix nofun hrun, hlength, hslots,
      rfl, .inl ⟨hrows, hasked, rfl, ?_, ?_⟩, fun _ _ => advance_congr⟩
    · simpa [pure, Except.pure, Except.map] using hlayOut
    · simpa [Progress.owed] using hcount
  | cons raw behind =>
    obtain ⟨e, hraw⟩ := hstop raw rfl
    refine ⟨rows, _, hcourse, fun rounds q hrun => hcourse.isPrefix ?_ hrun, ?_, hslots, rfl,
      .inr ⟨front, raw, behind, e, rfl, hrows, hasked, rfl, hraw, ?_⟩, fun _ _ => advance_congr⟩
    · simp [Progress.advance, hraw, Except.map]
    · simp only [Progress.asked?, List.head?_cons, Option.toList_some, List.length_nil,
        List.length_append, List.length_cons]
      omega
    · rw [hlayOut, mapM_cons_error hraw]
      rfl

end DefinitionList

end Bindery
