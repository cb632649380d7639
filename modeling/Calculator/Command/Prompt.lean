import Calculator.Command.Answer

/-!
# The prompt

Without an expression among its arguments the command asks for expressions and answers them line
by line, until a line says `exit` or the input ends. A line that is not valid text ends the prompt
with a complaint, and so does an answer that breaks down.
-/

namespace Calculator.Command.Prompt

def greeting : Output := .line "Enter Your Mathematical Expression (or 'exit' to quit):"

/-- The lines that the prompt writes after each answer. -/
def invitation : Output := .line "\nEnter another expression (or 'exit' to quit):"

/-- Whether a line without its outer blanks asks to leave the prompt. -/
def isExit (line : List Char) : Bool := line.map Char.toLower == ['e', 'x', 'i', 't']

inductive Reaction where
  | proceed (output : Output)
  /-- Write something and stop with an exit code. -/
  | stop (code : Nat) (output : Output)

/-- What the prompt does about an answer. -/
def react (answer : Answer) : Reaction :=
  match answer.ending with
  | .value | .fault => .proceed (answer.output ++ invitation)
  | .breakdown => .stop answer.ending.code answer.output

/-- What the prompt does about a line, which is `none` if it is not valid text. -/
def respond (host : Host) (options : Options) : Option String → Reaction
  | none => .stop 1 { err := host.invalidLine }
  | some line =>
    let line := Text.trim line.toList
    if isExit line then .stop 0 (.line "Goodbye!")
    else if line = [] then .proceed (.line "Please enter an expression." ++ invitation)
    else react (answer host options (String.ofList line))

/-- Answers lines until one of them stops the prompt or none is left. -/
def converse (host : Host) (options : Options) : List (Option String) → Outcome
  | [] => ⟨0, {}⟩
  | line :: rest =>
    match respond host options line with
    | .stop code output => ⟨code, output⟩
    | .proceed output =>
      let later := converse host options rest
      ⟨later.code, output ++ later.output⟩

/-- Splits bytes at line feeds into lines, none of which is opened by a line feed at the very
end. -/
def splitLines : List UInt8 → List (List UInt8)
  | [] => []
  | byte :: bytes =>
    if byte = 10 then [] :: splitLines bytes
    else
      match splitLines bytes with
      | [] => [[byte]]
      | line :: others => (byte :: line) :: others

def decode (line : List UInt8) : Option String := String.fromUTF8? ⟨line.toArray⟩

def run (host : Host) (options : Options) (input : ByteArray) : Outcome :=
  let outcome := converse host options ((splitLines input.toList).map decode)
  { outcome with output := greeting ++ outcome.output }

end Calculator.Command.Prompt
