import Calculator.Calculation
import Calculator.Command.Host
import Calculator.Fault.Report

/-!
# Answering an expression

The command answers an expression with its value, or with a report of the fault in it and some
advice. On request it shows the tokens and the tree first, as far as there are any. If the report
cannot be written, the command breaks down.
-/

namespace Calculator.Command

/-- How an answer ends. -/
inductive Ending where
  | value
  | fault
  | breakdown
deriving DecidableEq

/-- The exit code of a run that ends with an answer. -/
def Ending.code : Ending → Nat
  | value => 0
  | fault => 1
  | breakdown => 101

theorem Ending.code_eq_iff {ending : Ending} : ending.code = 101 ↔ ending = breakdown := by
  cases ending <;> decide

/-- How an answer ends, and what is written for it. -/
structure Answer where
  ending : Ending
  output : Output
deriving DecidableEq

/-- An answer after something that has been written already. -/
def Answer.after (output : Output) (answer : Answer) : Answer :=
  { answer with output := output ++ answer.output }

/-- A report of a fault, and advice if there is some. -/
def complain (host : Host) (source : String) (fault : Fault) : Answer :=
  match fault.report? source with
  | none => ⟨.breakdown, { err := host.breakdown }⟩
  | some report =>
    let hint := match fault.cause.advice? with
      | none => ""
      | some advice => "Hint: " ++ advice ++ "\n"
    ⟨.fault, { err := report ++ hint }⟩

/-- The lines that a flag asks for. -/
def shown (flag : Bool) (text : String) : Output := if flag then .line text else {}

/-- What is written about the value of a tree. -/
def conclude (host : Host) (source : String) : Except Fault Float → Answer
  | .ok value => ⟨.value, .line ("Result: " ++ Decimal.pointed value)⟩
  | .error fault => complain host source fault

/-- The answer to an expression. -/
def answer (host : Host) (options : Options) (source : String) : Answer :=
  let tokens := shown options.tokens
    ("Tokens: " ++ Token.listing (Token.scan options.settings source))
  match (parse options.settings source).outcome with
  | .error fault => (complain host source fault).after tokens
  | .ok tree =>
    (conclude host source tree.value).after
      (tokens ++ shown options.tree ("Tree: " ++ tree.display))

end Calculator.Command
