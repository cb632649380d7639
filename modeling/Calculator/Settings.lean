/-!
# Settings

How deep an expression may nest, and how much of its text may be passed over. By default nothing
is passed over; the lenient settings drop characters that belong to no token and ignore whatever
follows a complete expression.
-/

namespace Calculator

structure Settings where
  /-- The greatest number of nested levels and the greatest height of a tree. -/
  maxDepth : Nat := 1024
  /-- Whether a character that belongs to no token becomes a token of its own, which no expression
  admits. Otherwise it is dropped. -/
  strict : Bool := true
  /-- Whether tokens that follow a complete expression are ignored. Otherwise they are a fault. -/
  trailing : Bool := false
deriving DecidableEq

namespace Settings

instance : Inhabited Settings := ⟨{}⟩

/-- Drops characters that belong to no token and ignores trailing tokens. -/
def lenient : Settings := { strict := false, trailing := true }

def withMaxDepth (settings : Settings) (maxDepth : Nat) : Settings := { settings with maxDepth }

def withStrict (settings : Settings) (strict : Bool) : Settings := { settings with strict }

def withTrailing (settings : Settings) (trailing : Bool) : Settings := { settings with trailing }

end Settings

end Calculator
