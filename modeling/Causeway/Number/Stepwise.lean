import Causeway.Number.Double

/-!
The value of a numeral found step by step: the coefficient is rounded, and then scaled by powers of ten
with a rounding after each step. With many digits, or far from one, this may miss the nearest double.
-/

namespace Causeway.Number

namespace Magnitude

def times (v w : Magnitude) : Option Magnitude :=
  binary64.nearest (v.ratio.1 * w.ratio.1) (v.ratio.2 * w.ratio.2)

def dividedBy (v w : Magnitude) : Option Magnitude :=
  binary64.nearest (v.ratio.1 * w.ratio.2) (v.ratio.2 * w.ratio.1)

def ofPower (k : Nat) : Option Magnitude := binary64.nearest (tenPow k) 1

end Magnitude

namespace Decimal

/-- The last power of ten that is a double. -/
def lastPower : Nat := 308

/-- Below the reach of two powers everything is zero. -/
def stepwise (d : Decimal) : Option Magnitude := do
  let v ← binary64.nearest d.coefficient 1
  match d.exponent with
  | .ofNat e =>
    if e ≤ lastPower then v.times (← Magnitude.ofPower e)
    else if v.significand = 0 then some v
    else none
  | .negSucc e =>
    let last ← Magnitude.ofPower lastPower
    if e + 1 ≤ lastPower then v.dividedBy (← Magnitude.ofPower (e + 1))
    else if e + 1 ≤ 2 * lastPower then
      (← v.dividedBy last).dividedBy (← Magnitude.ofPower (e + 1 - lastPower))
    else some ⟨0, binary64.minExponent⟩

end Decimal

namespace Double

def ofNumeral (d : Decimal) : Double := ofRounded d.negative d.stepwise

end Double

end Causeway.Number
