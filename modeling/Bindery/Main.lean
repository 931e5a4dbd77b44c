import Bindery.CommandLine.Snapshot

set_option autoImplicit false

/-! # The command

Standard input tells the files and variables, up to an empty line. For each program that is to be
run, its command line is printed, and the next line of the input tells what came of it. At the
end, the files that are new are told, and what the command writes goes to standard output and
standard error. -/

namespace Bindery

/-- The next line of the input without its end. -/
def nextLine (input : IO.FS.Stream) : IO Text := do
  let line ← input.getLine
  return ((Text.lines line.toList).head?).getD []

/-- The lines of the input up to an empty one. -/
partial def linesToGap (input : IO.FS.Stream) : IO (List Text) := do
  let line ← nextLine input
  if line.isEmpty then return []
  return line :: (← linesToGap input)

/-- Plays a script: tells each command and asks what came of it. -/
def play {α : Type} (input output : IO.FS.Stream) : Script α → IO α
  | .done value => return value
  | .call _ command next => do
    output.putStrLn (String.ofList (commandLine command.program command.arguments))
    output.flush
    let told ← nextLine input
    play input output (next ((CommandLine.outcome? told).getD (.error .noEntry)))

/-- Reads a snapshot and runs the command in it; the code that the command ends with. -/
def runHere (arguments : List String) : IO UInt32 := do
  let input ← IO.getStdin
  let output ← IO.getStdout
  let errors ← IO.getStderr
  match CommandLine.Snapshot.ofLines (← linesToGap input) with
  | none =>
    errors.putStrLn "The lines on standard input are no snapshot."
    return 2
  | some snapshot =>
    let script :=
      CommandLine.run snapshot.files snapshot.environment (arguments.map String.toList)
    let ending ← play input output script
    for told in CommandLine.Snapshot.changes snapshot.files ending.files do
      output.putStrLn (String.ofList told)
    output.write ⟨ending.output.toArray⟩
    errors.write ⟨ending.errors.toArray⟩
    return ending.code.toUInt32

end Bindery

/-- Runs the command with the given arguments. -/
def main (arguments : List String) : IO UInt32 := Bindery.runHere arguments
