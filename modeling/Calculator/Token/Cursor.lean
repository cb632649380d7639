import Calculator.Event
import Calculator.Fault

/-!
# A cursor over tokens

The tokens that are still to be read, and what has happened so far. The first token is the current
one. Reading moves past it, but never past a mark for the end of the input, so that whatever
follows the first such mark is out of reach.
-/

namespace Calculator

/-- A place in a list of tokens, and the events up to it. -/
structure Cursor where
  /-- The current token and those after it. -/
  rest : List Token
  /-- What has happened so far. -/
  log : Array Event := #[]

namespace Cursor

/-- The token that would be read next. -/
def current (cursor : Cursor) : Token := cursor.rest.headD (Token.finish 0)

/-- Whether a token is left before the end of the input. -/
def hasToken (cursor : Cursor) : Bool := cursor.current.kind != .endOfInput

/-- The cursor after the current token, or the same at the end of the input. -/
def advance (cursor : Cursor) : Cursor :=
  if cursor.hasToken then { cursor with rest := cursor.rest.tail } else cursor

/-- The cursor after one more event. -/
def note (cursor : Cursor) (event : Event) : Cursor := { cursor with log := cursor.log.push event }

/-- The fault that the current token cannot stand where it does. -/
def unexpected (cursor : Cursor) : Fault :=
  let token := cursor.current
  let found := if token.kind = .endOfInput then none else some token.text
  ⟨.invalidExpression found, token.span.start⟩

/-- The fault that one level more than the limit would open at the current token. -/
def tooDeep (cursor : Cursor) (limit : Nat) : Fault :=
  ⟨.nestingTooDeep limit, cursor.current.span.start⟩

@[simp] theorem rest_note (cursor : Cursor) (event : Event) :
    (cursor.note event).rest = cursor.rest := rfl

@[simp] theorem current_cons (token : Token) (rest : List Token) (log : Array Event) :
    (Cursor.mk (token :: rest) log).current = token := rfl

/-- Reading leaves all tokens but the first, unless the first marks the end of the input. -/
theorem advance_cons (token : Token) (rest : List Token) (log : Array Event) :
    (Cursor.mk (token :: rest) log).advance =
      if token.kind = .endOfInput then ⟨token :: rest, log⟩ else ⟨rest, log⟩ := by
  by_cases ending : token.kind = .endOfInput <;> simp [advance, hasToken, current, ending]

end Cursor

end Calculator
