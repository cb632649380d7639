import Calculator.Span

/-!
# Tokens

The words of an expression: numbers, parentheses, five operator signs, characters that belong to
none of these, and a mark for the end of the input. A token keeps the text it was read from and
the span of that text. Its kind alone decides where it may stand.
-/

namespace Calculator

/-- What a token is, apart from its text. -/
inductive Token.Kind where
  | endOfInput
  | number
  | openParen
  | closeParen
  | plus
  | dash
  | star
  | slash
  | caret
  | unknown
deriving DecidableEq, Inhabited

namespace Token.Kind

/-- Every kind once, in the order in which listings show them. -/
def all : List Kind :=
  [endOfInput, number, openParen, closeParen, plus, dash, star, slash, caret, unknown]

theorem mem_all (kind : Kind) : kind ∈ all := by
  cases kind <;> decide

/-- The word that stands for a kind in token listings. -/
def name : Kind → String
  | endOfInput => "EOF"
  | number => "Number"
  | openParen => "OpenParen"
  | closeParen => "CloseParen"
  | plus => "Plus"
  | dash => "Dash"
  | star => "Star"
  | slash => "Slash"
  | caret => "Caret"
  | unknown => "Unknown"

/-- The kind of a token that is always the same single character. -/
def ofSymbol? : Char → Option Kind
  | '(' => some openParen
  | ')' => some closeParen
  | '+' => some plus
  | '-' => some dash
  | '*' => some star
  | '/' => some slash
  | '^' => some caret
  | _ => none

end Token.Kind

/-- A word of an expression: its kind, the text it was read from, and where that text stands. -/
structure Token where
  kind : Token.Kind
  text : String
  span : Span
deriving DecidableEq, Inhabited

namespace Token

/-- The mark for the end of the input, standing at a position. -/
def finish (position : Nat) : Token := ⟨.endOfInput, "", .point position⟩

/-- How a token is shown: its kind, and its text where one kind has many texts. -/
def display (token : Token) : String :=
  match token.kind with
  | .number | .unknown => token.kind.name ++ "(" ++ token.text ++ ")"
  | kind => kind.name

/-- The tokens in order, between brackets and without the marks for the end of the input. -/
def listing (tokens : List Token) : String :=
  let shown := (tokens.filter fun token => token.kind != .endOfInput).map display
  "[" ++ ", ".intercalate shown ++ "]"

/-- The list with a mark for the end of the input as its last token: the list itself if it ends in
one, and otherwise with one added where its last token stops. -/
def terminated (tokens : List Token) : List Token :=
  match tokens.getLast? with
  | none => [finish 0]
  | some last => if last.kind = .endOfInput then tokens else tokens ++ [finish last.span.stop]

theorem terminated_ne_nil (tokens : List Token) : terminated tokens ≠ [] := by
  unfold terminated
  cases present : tokens.getLast? with
  | none => simp
  | some last =>
    have nonempty : tokens ≠ [] := by
      intro empty
      simp [empty] at present
    by_cases ending : last.kind = .endOfInput <;> simp [ending, nonempty]

end Token

end Calculator
