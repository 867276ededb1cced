/-!
# Locations

Where a declaration was written, and a fault together with the place it was found at.
-/

namespace PointBuy

/-- A line of a named source, counted from 1. -/
structure Location where
  path : String
  line : Nat
deriving DecidableEq, Inhabited

/-- A location as messages show it. -/
def Location.text (l : Location) : String := s!"({l.path}:{l.line})"

/-- A fault and where it was found. -/
structure Located (ε : Type) where
  fault : ε
  location : Location
deriving DecidableEq

end PointBuy
