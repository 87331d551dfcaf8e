import Causeway.Number.Power

/-!
Binary floating-point formats. A finite value is `significand * 2 ^ exponent`; `Format.nearest`
rounds a ratio of naturals to the nearest such value, a tie going to the even significand.
-/

namespace Causeway.Number

/-- A binary format with subnormal values: significands have at most `precision` bits and exponents
run from `minExponent` to `maxExponent`. -/
structure Format where
  precision : Nat
  minExponent : Int
  maxExponent : Int

/-- The 64-bit interchange format. -/
def binary64 : Format := ⟨53, -1074, 971⟩

/-- The 32-bit interchange format. -/
def binary32 : Format := ⟨24, -149, 104⟩

/-- The absolute value of a finite number. -/
structure Magnitude where
  significand : Nat
  exponent : Int
  deriving DecidableEq, Repr

/-- The nearest natural to `num / den`, a half going to the even one. -/
def roundHalfEven (num den : Nat) : Nat :=
  let q := num / den
  let r := num % den
  if 2 * r < den then q
  else if den < 2 * r then q + 1
  else if q % 2 = 0 then q else q + 1

/-- The ratio `num / den` divided by `2 ^ exponent`, as a ratio of naturals. -/
def scaled (num den : Nat) (exponent : Int) : Nat × Nat :=
  match exponent with
  | .ofNat e => (num, den * twoPow e)
  | .negSucc e => (num * twoPow (e + 1), den)

namespace Format

/-- The least exponent at which the ratio needs no more than `precision` bits before the point. -/
def exponentFor (f : Format) (num den : Nat) : Int :=
  let guess : Int := (num.log2 : Int) - den.log2 - f.precision
  let (n, d) := scaled num den guess
  let fits := if n / d < twoPow f.precision then guess else guess + 1
  max f.minExponent fits

/-- The nearest value of the format to `num / den`; `none` where it lies beyond the largest one. -/
def nearest (f : Format) (num den : Nat) : Option Magnitude :=
  if num = 0 then some ⟨0, f.minExponent⟩
  else
    let e := f.exponentFor num den
    let (n, d) := scaled num den e
    let m := roundHalfEven n d
    let v : Magnitude := if m = twoPow f.precision then ⟨twoPow (f.precision - 1), e + 1⟩ else ⟨m, e⟩
    if f.maxExponent < v.exponent then none else some v

/-- Whether the value is the least of its binade, so that the gap below it is half the one above. -/
def isBinadeStart (f : Format) (v : Magnitude) : Bool :=
  v.significand == twoPow (f.precision - 1) && decide (f.minExponent < v.exponent)

end Format

namespace Magnitude

/-- The value as a ratio of naturals. -/
def ratio (v : Magnitude) : Nat × Nat :=
  match v.exponent with
  | .ofNat e => (v.significand * twoPow e, 1)
  | .negSucc e => (v.significand, twoPow (e + 1))

/-- Whether the value is a natural number. -/
def isWhole (v : Magnitude) : Bool :=
  match v.exponent with
  | .ofNat _ => true
  | .negSucc e => v.significand % twoPow (e + 1) == 0

/-- The value without its fraction. -/
def floor (v : Magnitude) : Nat :=
  let (n, d) := v.ratio
  n / d

end Magnitude

end Causeway.Number
