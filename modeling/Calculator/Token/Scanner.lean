import Calculator.Event
import Calculator.Settings
import Calculator.Text.Blank

/-!
# Scanning

A scanner splits a text into tokens, from left to right. A run of digits and points is one number,
well formed or not; each operator sign and each parenthesis is a token of its own; a run of blank
characters is passed over. Any other character becomes a token of its own under strict settings
and is dropped under lenient ones, as if it were not in the text: parts of a number with only
dropped characters between them are one number.

`Scanner.step` reads one of these pieces, and `Token.scan` repeats it to the end of the text.
-/

namespace Calculator

def isNumeral (c : Char) : Bool := c.isDigit || c == '.'

/-- Whether a character belongs to no token and is not blank either. -/
def isUnrecognised (c : Char) : Bool :=
  !isNumeral c && !Text.isBlank c && (Token.Kind.ofSymbol? c).isNone

/-- A place in a text and what has been read up to it. -/
structure Scanner where
  /-- Whether characters that belong to no token are kept. -/
  strict : Bool
  /-- Bytes before this place, each character counted as it is encoded in UTF-8. -/
  offset : Nat := 0
  column : Nat := 0
  /-- The tokens read so far, the last one first. -/
  emitted : List Token := []
  /-- Whether the last token is a number and only dropped characters have followed it. -/
  extendsNumber : Bool := false
  log : Array Event := #[]

namespace Scanner

def start (settings : Settings) : Scanner := { strict := settings.strict }

def tokens (scanner : Scanner) : List Token := scanner.emitted.reverse

/-- Moves past a text, which should be what comes next. -/
def advance (scanner : Scanner) (text : String) : Scanner :=
  { scanner with
    offset := scanner.offset + text.utf8ByteSize
    column := scanner.column + text.length }

/-- The span of a text that would start here. -/
def spanOf (scanner : Scanner) (text : String) : Span :=
  ⟨scanner.column, scanner.column + text.length⟩

def push (scanner : Scanner) (token : Token) : Scanner :=
  { scanner with
    emitted := token :: scanner.emitted
    extendsNumber := token.kind == .number
    log := scanner.log.push (.lexed token) }

@[simp] theorem tokens_push (scanner : Scanner) (token : Token) :
    (scanner.push token).tokens = scanner.tokens ++ [token] := by
  simp [push, tokens]

@[simp] theorem tokens_advance (scanner : Scanner) (text : String) :
    (scanner.advance text).tokens = scanner.tokens := rfl

/-- Reads a text as a token of its own. -/
def read (scanner : Scanner) (kind : Token.Kind) (text : String) : Scanner :=
  (scanner.push ⟨kind, text, scanner.spanOf text⟩).advance text

/-- Reads a run of digits and points: more of the last token if that may still grow, and otherwise
a token of its own. -/
def readNumber (scanner : Scanner) (text : String) : Scanner :=
  match scanner.extendsNumber, scanner.emitted with
  | true, previous :: older =>
    let span := ⟨previous.span.start, (scanner.spanOf text).stop⟩
    let whole := { previous with text := previous.text ++ text, span }
    { scanner with
      emitted := whole :: older
      log := scanner.log.push (.joined text previous) }.advance text
  | _, _ => scanner.read .number text

/-- Passes over a run of blank characters, after which no number goes on. -/
def skipBlank (scanner : Scanner) (text : String) : Scanner :=
  { scanner with extendsNumber := false }.advance text

/-- Keeps or drops a character that belongs to no token. -/
def readUnrecognised (scanner : Scanner) (c : Char) : Scanner :=
  if scanner.strict then scanner.read .unknown (String.singleton c)
  else
    { scanner with log := scanner.log.push (.skipped c scanner.column) }.advance
      (String.singleton c)

/-- Reads the piece of text that starts with `c`, and gives what is left of `rest` after it. -/
def step (scanner : Scanner) (c : Char) (rest : List Char) : Scanner × List Char :=
  if isNumeral c then
    (scanner.readNumber (String.ofList (c :: rest.takeWhile isNumeral)),
      rest.dropWhile isNumeral)
  else if Text.isBlank c then
    (scanner.skipBlank (String.ofList (c :: rest.takeWhile Text.isBlank)),
      rest.dropWhile Text.isBlank)
  else
    match Token.Kind.ofSymbol? c with
    | some kind => (scanner.read kind (String.singleton c), rest)
    | none => (scanner.readUnrecognised c, rest)

/-- A step uses up its first character at least. -/
theorem length_step_le (scanner : Scanner) (c : Char) (rest : List Char) :
    (scanner.step c rest).2.length ≤ rest.length := by
  unfold step
  split
  · exact (List.dropWhile_sublist isNumeral).length_le
  · split
    · exact (List.dropWhile_sublist Text.isBlank).length_le
    · split <;> exact Nat.le_refl _

def run (scanner : Scanner) : List Char → Scanner
  | [] => scanner
  | c :: rest =>
    let next := scanner.step c rest
    next.1.run next.2
termination_by text => text.length
decreasing_by exact Nat.lt_succ_of_le (length_step_le scanner c rest)

def finish (scanner : Scanner) : Scanner := scanner.push (Token.finish scanner.column)

/-- What is left of a text after a number of bytes, unless these end inside a character or go
beyond the text. -/
def dropBytes? : Nat → List Char → Option (List Char)
  | 0, text => some text
  | _ + 1, [] => none
  | count + 1, c :: text =>
    if c.utf8Size ≤ count + 1 then dropBytes? (count + 1 - c.utf8Size) text else none

/-- What is left of the source at this place, unless the place is not between two of its
characters. -/
def remainder? (scanner : Scanner) (source : String) : Option String :=
  (dropBytes? scanner.offset source.toList).map String.ofList

/-- Whether nothing is left of the source at this place. -/
def atEnd (scanner : Scanner) (source : String) : Bool := source.utf8ByteSize ≤ scanner.offset

end Scanner

def Scanner.scan (settings : Settings) (source : String) : Scanner :=
  ((Scanner.start settings).run source.toList).finish

/-- The tokens of a text, the mark for its end included. -/
def Token.scan (settings : Settings) (source : String) : List Token :=
  (Scanner.scan settings source).tokens

end Calculator
