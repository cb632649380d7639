import Calculator.Expr.Parser

/-!
# Parsing step by step

A session parses a list of tokens on request, one action at a time: it can read single tokens,
open and close levels, change its rules, and read an expression or a part of one where it stands.
A session goes on after a fault from where the fault left it: the tokens that were read stay read,
and the levels that were open stay open.
-/

namespace Calculator

/-- The state of parsing between two actions. -/
structure Session where
  /-- The greatest number of open levels and the greatest height of a tree. -/
  limit : Nat
  rules : Rules
  cursor : Cursor
  depth : Nat := 0

namespace Session

/-- A session at the start of a list of tokens, to which the mark for the end of the input is added
if it is missing. -/
def start (settings : Settings) (rules : Rules) (tokens : List Token) : Session :=
  { limit := settings.maxDepth, rules, cursor := { rest := Token.terminated tokens } }

/-- What can be asked of a session. -/
inductive Action where
  | advance
  | enter
  /-- Close a level, if one is open. -/
  | leave
  | addOperand (kind : Token.Kind) (rule : OperandRule)
  | addOperator (kind : Token.Kind) (power : BindingPower)
  | expression (least : Nat)
  | operand
  | number
  /-- Read a token as a minus sign, and its operand. -/
  | negation
  /-- Read a token as an opening parenthesis, and the rest of the group. -/
  | grouping
  /-- Read an operator and its right operand after a left one. -/
  | binary (left : Expr) (power : BindingPower)
  | checkHeight (tree : Expr)

/-- What an action gives when it succeeds. -/
inductive Reply where
  | done
  | token (token : Token)
  | tree (tree : Expr)

/-- Runs a parser on the levels that are open now. After a fault the levels stay as they were where
it arose. -/
def parse (session : Session) (parser : Parser Expr) : Except Fault Reply × Session :=
  match parser.run session.cursor with
  | .ok tree cursor => (.ok (.tree tree), { session with cursor })
  | .error failure cursor => (.error failure.fault, { session with cursor, depth := failure.depth })

/-- Opens a level. It counts as open even if that is one too many. -/
def enter (session : Session) : Except Fault Reply × Session :=
  let opened := { session with depth := session.depth + 1 }
  if opened.depth ≤ session.limit then (.ok .done, opened)
  else (.error (session.cursor.tooDeep session.limit), opened)

def act (session : Session) : Action → Except Fault Reply × Session
  | .advance => (.ok (.token session.cursor.current),
      { session with cursor := session.cursor.advance })
  | .enter => session.enter
  | .leave => (.ok .done, { session with depth := session.depth - 1 })
  | .addOperand kind rule => (.ok .done,
      { session with rules := session.rules.addOperand kind rule })
  | .addOperator kind power => (.ok .done,
      { session with rules := session.rules.addOperator kind power })
  | .expression least =>
    session.parse (Parser.expression session.rules session.limit session.depth least)
  | .operand => session.parse (Parser.operand session.rules session.limit session.depth)
  | .number => session.parse (Parser.number session.depth)
  | .negation => session.parse (Parser.negation session.rules session.limit session.depth)
  | .grouping => session.parse (Parser.grouping session.rules session.limit session.depth)
  | .binary left power =>
    session.parse (Parser.binary session.rules session.limit session.depth left power)
  | .checkHeight tree => session.parse (Parser.checkHeight session.limit session.depth tree)

def after (session : Session) (actions : List Action) : Session :=
  actions.foldl (fun session action => (session.act action).2) session

end Session

end Calculator
