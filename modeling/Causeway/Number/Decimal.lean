import Causeway.Number.Binary

/-!
Decimal numerals and their reading. A numeral is kept as an exact number, `coefficient * 10 ^
exponent` with a sign, before it is rounded to a binary format.
-/

namespace Causeway.Number

/-- An exact decimal number; the sign of zero is kept. -/
structure Decimal where
  negative : Bool
  coefficient : Nat
  exponent : Int
  deriving DecidableEq, Repr

def isDigit (c : Char) : Bool := '0' ≤ c && c ≤ '9'

def digitValue (c : Char) : Nat := c.toNat - '0'.toNat

/-- The number that a row of digits denotes. -/
def ofDigits (ds : List Char) : Nat := ds.foldl (fun n c => 10 * n + digitValue c) 0

/-- A natural number: one digit or more and nothing else. -/
def readNat (s : List Char) : Option Nat :=
  if s.isEmpty then none else if s.all isDigit then some (ofDigits s) else none

/-- A sign in front of a number: `+`, `-` or none. -/
def readSign : List Char → Bool × List Char
  | '-' :: r => (true, r)
  | '+' :: r => (false, r)
  | s => (false, s)

/-- An integer with an optional sign. -/
def readInt (s : List Char) : Option Int :=
  let (negative, r) := readSign s
  (readNat r).map fun n => if negative then -(n : Int) else n

/-- An integer within bounds, both included. -/
def readIntWithin (low high : Int) (s : List Char) : Option Int :=
  (readInt s).filter fun i => low ≤ i && i ≤ high

namespace Decimal

/-- The exponent part after `e`: an optional sign and digits, to the end of the text. -/
def readExponent (s : List Char) : Option Int := readInt s

/-- Digits with an optional point and fraction and an optional exponent, to the end of the text.
Either side of the point may be empty, but not both. -/
def readUnsigned (negative : Bool) (s : List Char) : Option Decimal :=
  let whole := s.takeWhile isDigit
  let r := s.dropWhile isDigit
  let (fraction, r) : List Char × List Char := match r with
    | '.' :: r => (r.takeWhile isDigit, r.dropWhile isDigit)
    | r => ([], r)
  if whole.isEmpty && fraction.isEmpty then none
  else
    let value (e : Int) : Decimal :=
      ⟨negative, ofDigits (whole ++ fraction), e - fraction.length⟩
    match r with
    | [] => some (value 0)
    | c :: r => if c = 'e' ∨ c = 'E' then (readExponent r).map value else none

end Decimal

/-- The nearest magnitude of a format to a decimal; `none` beyond the largest. Decimals outside
`1e-400 … 1e400` are decided by their size alone. -/
def Decimal.magnitude (f : Format) (d : Decimal) : Option Magnitude :=
  if d.coefficient = 0 then some ⟨0, f.minExponent⟩
  else
    let lead := d.exponent + (Nat.toDigits 10 d.coefficient).length
    if 400 < lead then none
    else if lead < -400 then some ⟨0, f.minExponent⟩
    else match d.exponent with
      | .ofNat e => f.nearest (d.coefficient * tenPow e) 1
      | .negSucc e => f.nearest d.coefficient (tenPow (e + 1))

end Causeway.Number
