import Calculator.Expr.Display
import Calculator.Text.Quoted

/-!
# Events

What a calculation tells about its work, as values: the tokens as they are read, the signs as they
are folded into a tree, the operations as they are carried out, and the results in between. The
order of events is the order of the work; `Event.message` words them.
-/

namespace Calculator

/-- A step of a calculation worth telling about. -/
inductive Event where
  | lexed (token : Token)
  /-- More of a number was read and added to the token of its first part. -/
  | joined (text : String) (previous : Token)
  /-- A character that belongs to no token was dropped. -/
  | skipped (c : Char) (position : Nat)
  | scanned (tokens : List Token)
  /-- A sign and its two operands became one tree. -/
  | folded (sign : Sign)
  /-- Tokens after a complete expression are ignored from here on. -/
  | trailing (position : Nat)
  | parsed (tree : Expr)
  | computed (left : Float) (operator : Operator) (right result : Float)
  | finished (value : Float)

namespace Event

/-- How much an event matters: results in between more than single steps. -/
inductive Level where
  | debug
  | trace
deriving DecidableEq

def Level.name : Level → String
  | debug => "DEBUG"
  | trace => "TRACE"

def level : Event → Level
  | lexed _ | joined _ _ | skipped _ _ | folded _ | computed _ _ _ _ => .trace
  | scanned _ | trailing _ | parsed _ | finished _ => .debug

def message : Event → String
  | lexed token => "lexed " ++ token.display ++ " at " ++ token.span.start.repr
  | joined text previous => "joining " ++ text ++ " onto " ++ previous.display
  | skipped c position =>
    "skipping unrecognised character " ++ Text.quote c ++ " at " ++ position.repr
  | scanned tokens => "tokens: " ++ Token.listing tokens
  | folded sign => "folding " ++ sign.operator.symbol ++ " at " ++ sign.span.start.repr
  | trailing position => "ignoring trailing tokens from position " ++ position.repr
  | parsed tree => "parsed: " ++ tree.display
  | computed left operator right result =>
    Decimal.plain left ++ " " ++ operator.symbol ++ " " ++ Decimal.plain right ++ " = " ++
      Decimal.plain result
  | finished value => "result: " ++ Decimal.pointed value

end Event

end Calculator
