/-!
# Positions and spans

A position counts characters from the start of the text, the first one at zero. A span names a
stretch of text by the position of its first character and the position just after its last.
Spans of tokens and of trees are carried along as they are: nothing here asks that a span ends
after it starts.
-/

namespace Calculator

/-- The stretch of text from `start` up to, and not including, `stop`. -/
structure Span where
  /-- Position of the first character. -/
  start : Nat
  /-- Position just after the last character. -/
  stop : Nat
deriving DecidableEq, Inhabited

namespace Span

/-- The empty span at a position. -/
def point (position : Nat) : Span := ⟨position, position⟩

/-- The span from the start of one stretch to the end of another. -/
def join (first last : Span) : Span := ⟨first.start, last.stop⟩

@[simp] theorem join_start (first last : Span) : (first.join last).start = first.start := rfl

@[simp] theorem join_stop (first last : Span) : (first.join last).stop = last.stop := rfl

end Span

end Calculator
