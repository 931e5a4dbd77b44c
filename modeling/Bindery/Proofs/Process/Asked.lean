import Bindery.Process.Command

set_option autoImplicit false

/-! # What a run of a script asks

Which commands a script runs depends on what the programs answer. `Script.AsksWithin` bounds them: a
run asks for some commands of a list, each at most once and in the order of the list. Scripts one
after the other ask within their lists one after the other (`Script.asksWithin_bind`). -/

namespace Bindery

namespace Script

variable {α β ε : Type} {respond : Workspace → Command → Outcome} {first second : List Command}

/-- After a script that succeeds, the next one is run with its value. -/
theorem run_andThen_ok {script : Script (Except ε α)} {next : α → Script (Except ε β)} {value : α}
    {asked : List (Command × Outcome)} (h : script.run respond = (.ok value, asked)) :
    (script.andThen next).run respond =
      (((next value).run respond).1, asked ++ ((next value).run respond).2) := by
  rw [andThen, run_bind, h]

/-- After a script that fails, nothing is run. -/
theorem run_andThen_error {script : Script (Except ε α)} {next : α → Script (Except ε β)} {e : ε}
    {asked : List (Command × Outcome)} (h : script.run respond = (.error e, asked)) :
    (script.andThen next).run respond = (.error e, asked) := by
  rw [andThen, run_bind, h]
  simp [run]

/-- The run of the script asks for commands of the list, each at most once and in their order. -/
def AsksWithin (respond : Workspace → Command → Outcome) (commands : List Command)
    (script : Script α) : Prop :=
  ((script.run respond).2.map (·.1)).Sublist commands

theorem asksWithin_done (value : α) (commands : List Command) :
    (done value).AsksWithin respond commands :=
  List.nil_sublist commands

theorem asksWithin_call {files : Workspace} {command : Command} {next : Outcome → Script α}
    (h : ∀ outcome, (next outcome).AsksWithin respond second) :
    (call files command next).AsksWithin respond (command :: second) :=
  (h _).cons_cons command

theorem asksWithin_bind {script : Script α} {next : α → Script β}
    (h : script.AsksWithin respond first)
    (hnext : (next (script.run respond).1).AsksWithin respond second) :
    (script.bind next).AsksWithin respond (first ++ second) := by
  unfold AsksWithin
  rw [run_bind, List.map_append]
  exact h.append hnext

/-- What asks for nothing more adds nothing. -/
theorem asksWithin_bind_nil {script : Script α} {next : α → Script β}
    (h : script.AsksWithin respond first)
    (hnext : (next (script.run respond).1).AsksWithin respond []) :
    (script.bind next).AsksWithin respond first := by
  rw [← List.append_nil first]
  exact asksWithin_bind h hnext

theorem asksWithin_map {script : Script α} (f : α → β) (h : script.AsksWithin respond first) :
    (script.map f).AsksWithin respond first :=
  asksWithin_bind_nil h (asksWithin_done _ [])

theorem asksWithin_andThen {script : Script (Except ε α)} {next : α → Script (Except ε β)}
    (h : script.AsksWithin respond first)
    (hnext : ∀ value, (script.run respond).1 = .ok value →
      (next value).AsksWithin respond second) :
    (script.andThen next).AsksWithin respond (first ++ second) := by
  refine asksWithin_bind h ?_
  cases hresult : (script.run respond).1 with
  | error e => exact asksWithin_done _ second
  | ok value => exact hnext value hresult

end Script

end Bindery
