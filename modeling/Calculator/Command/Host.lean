import Calculator.Settings

/-!
# What the command takes from outside

The command neither reads its arguments itself nor words what is said when it cannot go on. Both are
left to a host, which turns arguments into options or ends the run in their place.
-/

namespace Calculator.Command

/-- What is written to the two output streams. -/
structure Output where
  out : String := ""
  err : String := ""
deriving DecidableEq

namespace Output

/-- One output and then another. -/
def append (first second : Output) : Output :=
  ⟨first.out ++ second.out, first.err ++ second.err⟩

instance : Append Output := ⟨append⟩

@[simp] theorem out_append (first second : Output) :
    (first ++ second).out = first.out ++ second.out := rfl

@[simp] theorem err_append (first second : Output) :
    (first ++ second).err = first.err ++ second.err := rfl

/-- A line on the standard output. -/
def line (text : String) : Output := { out := text ++ "\n" }

end Output

/-- What a run of the command leaves behind: an exit code and its output. -/
structure Outcome where
  code : Nat
  output : Output
deriving DecidableEq

/-- What the arguments ask for. Without an expression it is the prompt. -/
structure Options where
  /-- Whether the tokens are to be shown. -/
  tokens : Bool := false
  /-- Whether the tree is to be shown. -/
  tree : Bool := false
  lenient : Bool := false
  maxDepth : Nat := 1024
  expression : Option String := none
deriving DecidableEq

/-- The settings that options ask for. -/
def Options.settings (options : Options) : Settings :=
  (if options.lenient then Settings.lenient else {}).withMaxDepth options.maxDepth

/-- What the command is run on. -/
structure Host where
  /-- Reads arguments such as `--tokens`, `--ast`, `--lenient` and `--max-depth`, and the depth limit
  of the environment if there is one. Arguments that make no sense, or that ask for something else
  than an answer, have an outcome of their own. -/
  read : List String → Option String → Except Outcome Options
  /-- What is said about a line of input that is not valid text. -/
  invalidLine : String
  /-- What is said when a report cannot be written. -/
  breakdown : String

end Calculator.Command
