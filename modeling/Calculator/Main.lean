import Calculator.Command.Run

/-!
# The command

The thin layer around `Calculator.Command`: it fetches the environment and the lines of input, and
writes what the command answers, each answer as soon as its line has been read.
-/

namespace Calculator.Command

/-- Writes an output to the two streams. -/
def Output.write (output : Output) : IO Unit := do
  IO.print output.out
  (← IO.getStdout).flush
  IO.eprint output.err

/-- Reads bytes up to a line feed, which is left out, or up to the end of the input. Gives nothing if
the input had ended already. -/
partial def nextLine (input : IO.FS.Stream) (read : Array UInt8) : IO (Option (List UInt8)) := do
  match (← input.read 1).toList with
  | [] => return if read.isEmpty then none else some read.toList
  | byte :: _ => if byte = 10 then return some read.toList else nextLine input (read.push byte)

/-- Answers lines of input until one of them stops the prompt or none is left. -/
partial def converseWith (host : Host) (options : Options) (input : IO.FS.Stream) :
    IO UInt32 := do
  match ← nextLine input #[] with
  | none => return 0
  | some line =>
    match Prompt.respond host options (Prompt.decode line) with
    | .stop code output =>
      output.write
      return code.toUInt32
    | .proceed output =>
      output.write
      converseWith host options input

/-- Runs the command on a host. -/
def main (host : Host) (arguments : List String) : IO UInt32 := do
  let environment ← IO.getEnv "EXPRCALC_MAX_DEPTH"
  match plan host arguments environment with
  | .leave outcome =>
    outcome.output.write
    return outcome.code.toUInt32
  | .prompt options =>
    Prompt.greeting.write
    converseWith host options (← IO.getStdin)

end Calculator.Command
