import Calculator.Command.Prompt

/-!
# Running the command

What the command does with its arguments: leave the run to the host, answer one expression, or start
the prompt. The exit code of an answer is zero for a value, one for a fault, and greater than that
for a breakdown. A prompt that comes to its end leaves zero.
-/

namespace Calculator.Command

/-- What the command is going to do. -/
inductive Plan where
  /-- Nothing more than to leave this behind. -/
  | leave (outcome : Outcome)
  /-- Answer lines of input. -/
  | prompt (options : Options)

/-- The outcome of answering one expression. -/
def answerOnce (host : Host) (options : Options) (source : String) : Outcome :=
  let answer := answer host options source
  ⟨answer.ending.code, answer.output⟩

/-- What the command is going to do with its arguments and the depth limit of the environment. -/
def plan (host : Host) (arguments : List String) (environment : Option String) : Plan :=
  match host.read arguments environment with
  | .error outcome => .leave outcome
  | .ok options =>
    match options.expression with
    | some source => .leave (answerOnce host options source)
    | none => .prompt options

/-- What a run of the command leaves behind, given its arguments, the depth limit of the environment
and its whole input. -/
def run (host : Host) (arguments : List String) (environment : Option String)
    (input : ByteArray) : Outcome :=
  match plan host arguments environment with
  | .leave outcome => outcome
  | .prompt options => Prompt.run host options input

end Calculator.Command
