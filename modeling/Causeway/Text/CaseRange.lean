/-!
A range of characters that share one case mapping.
-/

namespace Causeway.Text

/-- Every `step`-th code point from `first` to `last`; `first` maps to `image` and the others keep
their distance to it. -/
structure CaseRange where
  first : Nat
  last : Nat
  step : Nat
  image : Nat
  deriving DecidableEq, Repr

namespace CaseRange

def covers (r : CaseRange) (c : Nat) : Bool :=
  r.first ≤ c && c ≤ r.last && (c - r.first) % r.step == 0

def apply (r : CaseRange) (c : Nat) : Nat := r.image + (c - r.first)

end CaseRange

/-- The image of a code point under a list of ranges, itself where none covers it. -/
def mapCase (ranges : List CaseRange) (c : Nat) : Nat :=
  match ranges.find? (·.covers c) with
  | some r => r.apply c
  | none => c

/-- Membership in a union of closed intervals. -/
def inIntervals (intervals : List (Nat × Nat)) (c : Nat) : Bool :=
  intervals.any fun i => i.1 ≤ c && c ≤ i.2

end Causeway.Text
