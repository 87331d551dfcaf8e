import Causeway.Number.Binary

/-!
The fewest decimal digits that read back as a given binary value. A decimal reads back as `v` when
it lies in the interval of reals that round to `v`; the ends belong to it iff the significand is
even. Of the shortest decimals in it the nearest to `v` is taken.
-/

namespace Causeway.Number

/-- A positive decimal `digits * 10 ^ exponent`. -/
structure Digits where
  digits : Nat
  exponent : Int
  deriving DecidableEq, Repr

/-- The interval around `v` of what rounds to it: numerators of the lower end, the value and the
upper end over one denominator. -/
structure Around where
  low : Nat
  value : Nat
  high : Nat
  denominator : Nat
  closed : Bool

namespace Around

/-- The ends are half a gap away: a quarter of the last place below a binade's start, else half. -/
def ofMagnitude (f : Format) (v : Magnitude) : Around :=
  let m := 4 * v.significand
  let low := if f.isBinadeStart v then m - 1 else m - 2
  let closed := v.significand % 2 == 0
  match v.exponent - 2 with
  | .ofNat e => ⟨low * twoPow e, m * twoPow e, (m + 2) * twoPow e, 1, closed⟩
  | .negSucc e => ⟨low, m, m + 2, twoPow (e + 1), closed⟩

/-- Whether `num / denominator` lies in the interval. -/
def holds (a : Around) (num : Nat) : Bool :=
  if a.closed then a.low ≤ num && num ≤ a.high else a.low < num && num < a.high

/-- The interval with all numbers multiplied by `10 ^ k`. -/
def shift (a : Around) (k : Int) : Around :=
  match k with
  | .ofNat e =>
    { a with low := a.low * tenPow e, value := a.value * tenPow e, high := a.high * tenPow e }
  | .negSucc e => { a with denominator := a.denominator * tenPow (e + 1) }

/-- The natural in the interval that is nearest to its value, if the value's neighbours lie in it.
A tie goes up if `tieUp` and else to the even one. -/
def neighbour? (a : Around) (tieUp : Bool) : Option Nat :=
  let c := a.value / a.denominator
  let r := a.value % a.denominator
  let down := a.holds (c * a.denominator)
  let up := a.holds ((c + 1) * a.denominator)
  if down && up then
    if 2 * r < a.denominator then some c
    else if a.denominator < 2 * r then some (c + 1)
    else if tieUp || c % 2 == 1 then some (c + 1) else some c
  else if down then some c
  else if up then some (c + 1)
  else none

/-- Tries grids of `10 ^ top`, `10 ^ (top - 1)`, and so on, `fuel + 1` of them at most. -/
def search (a : Around) (tieUp : Bool) (top : Int) : Nat → Option Digits
  | 0 => (a.shift (-top)).neighbour? tieUp |>.map (⟨·, top⟩)
  | fuel + 1 =>
    match (a.shift (-top)).neighbour? tieUp with
    | some c => some ⟨c, top⟩
    | none => a.search tieUp (top - 1) fuel

end Around

/-- The number of decimal digits of a natural, one for zero. -/
def digitCount (n : Nat) : Nat := (Nat.toDigits 10 n).length

/-- Takes trailing zeros out of the digits; `fuel` bounds their number. -/
def Digits.stripZeros (d : Digits) : Nat → Digits
  | 0 => d
  | fuel + 1 =>
    if d.digits ≠ 0 ∧ d.digits % 10 = 0 then stripZeros ⟨d.digits / 10, d.exponent + 1⟩ fuel else d

/-- The exponent of the leading decimal digit of `num / den`, or one more. -/
def leadingExponent (num den : Nat) : Int := (digitCount num : Int) - digitCount den

/-- The shortest decimal of a finite value that is not zero. Eighteen significant digits are enough
for either format, and the search may start one place too high. -/
def shortest (f : Format) (tieUp : Bool) (v : Magnitude) : Digits :=
  let a := Around.ofMagnitude f v
  match a.search tieUp (leadingExponent a.value a.denominator) 20 with
  | some d => d.stripZeros 20
  | none => ⟨0, 0⟩

end Causeway.Number
