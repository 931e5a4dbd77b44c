import Bindery.Files.Workspace

set_option autoImplicit false

/-! # Running programs

A program run is asked for by a `Command` and answered by an `Outcome`: the program cannot be
started, or it exits with a status and its output. What the book tools do with other programs is a
`Script`: a tree that has, at each run, one branch for every outcome. So the runs of a script can
be told for all programs at once, and `Script.run` tells them for given ones. -/

namespace Bindery

/-! ## Commands and outcomes -/

/-- A request to run a program. -/
structure Command where
  /-- A name to be searched for, or a path. -/
  program : Path
  arguments : List Text
  /-- What the program reads from standard input. -/
  input : Bytes := []
  deriving DecidableEq, Repr

/-- How a program ends. -/
inductive Status where
  | code (code : Nat)
  | signal (number : Nat)
  deriving DecidableEq, Repr

/-- The names of the signals, from number `1` on. -/
def signalNames : List String :=
  ["SIGHUP", "SIGINT", "SIGQUIT", "SIGILL", "SIGTRAP", "SIGABRT", "SIGBUS", "SIGFPE", "SIGKILL",
    "SIGUSR1", "SIGSEGV", "SIGUSR2", "SIGPIPE", "SIGALRM", "SIGTERM", "SIGSTKFLT", "SIGCHLD",
    "SIGCONT", "SIGSTOP", "SIGTSTP", "SIGTTIN", "SIGTTOU", "SIGURG", "SIGXCPU", "SIGXFSZ",
    "SIGVTALRM", "SIGPROF", "SIGWINCH", "SIGIO", "SIGPWR", "SIGSYS"]

/-- The name of a signal. -/
def signalName (number : Nat) : Option String :=
  match number with
  | 0 => none
  | n + 1 => signalNames[n]?

/-- The words for a status. -/
def Status.message : Status → Text
  | .code n => "exit status: ".toList ++ Text.ofNat n
  | .signal n =>
    "signal: ".toList ++ Text.ofNat n ++
      match signalName n with
      | some name => " (".toList ++ name.toList ++ ")".toList
      | none => []

/-- What a program that was started leaves behind. -/
structure Exit where
  status : Status
  /-- What it wrote to standard output. -/
  output : Bytes
  /-- What it wrote to standard error. -/
  errors : Bytes
  deriving DecidableEq, Repr

/-- The program ended well. -/
def Exit.succeeded (exit : Exit) : Bool := exit.status = .code 0

/-- What comes of a command. -/
abbrev Outcome := Except OsError Exit

/-! ## Scripts -/

/-- A computation that runs programs. -/
inductive Script (α : Type) where
  /-- Nothing is left to run. -/
  | done (value : α)
  /-- A program is run while the files are as given; the rest depends on the outcome. -/
  | call (files : Workspace) (command : Command) (next : Outcome → Script α)

namespace Script

variable {α β ε : Type}

/-- One script after another. -/
def bind : Script α → (α → Script β) → Script β
  | done value, next => next value
  | call files command rest, next => call files command fun outcome => (rest outcome).bind next

/-- A script with its result changed. -/
def map (f : α → β) (script : Script α) : Script β := script.bind fun value => done (f value)

/-- One script after another that may fail; the second is not begun if the first fails. -/
def andThen (script : Script (Except ε α)) (next : α → Script (Except ε β)) :
    Script (Except ε β) :=
  script.bind fun
    | .error e => done (.error e)
    | .ok value => next value

/-- Runs a script with programs that respond as given: its result, and each command with what came
of it, in the order in which they were run. -/
def run (respond : Workspace → Command → Outcome) : Script α → α × List (Command × Outcome)
  | done value => (value, [])
  | call files command next =>
    let outcome := respond files command
    let (value, log) := (next outcome).run respond
    (value, (command, outcome) :: log)

/-- A script after another starts from the result of that one, and its commands come behind. -/
theorem run_bind (respond : Workspace → Command → Outcome) (script : Script α)
    (next : α → Script β) :
    (script.bind next).run respond =
      (((next (script.run respond).1).run respond).1,
        (script.run respond).2 ++ ((next (script.run respond).1).run respond).2) := by
  induction script with
  | done value => rfl
  | call files command rest ih => simp [bind, run, ih]

theorem run_map (respond : Workspace → Command → Outcome) (script : Script α) (f : α → β) :
    (script.map f).run respond = (f (script.run respond).1, (script.run respond).2) := by
  simp [map, run_bind, run]

end Script

end Bindery
