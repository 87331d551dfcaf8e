import Causeway.Number.Double

/-!
What plain scalars of YAML denote: nothing, truth values, integers in four bases and floats. Digits
after a leading zero are no number.
-/

namespace Causeway.Yaml

open Number

def isNullText (s : String) : Bool := ["null", "Null", "NULL", "~"].contains s

def boolOf? (s : String) : Option Bool :=
  if ["true", "True", "TRUE"].contains s then some true
  else if ["false", "False", "FALSE"].contains s then some false
  else none

/-- The value of a digit in bases up to 16. -/
def digitOf? (base : Nat) (c : Char) : Option Nat :=
  let n := if '0' ≤ c ∧ c ≤ '9' then some (c.toNat - 48)
    else if 'a' ≤ c ∧ c ≤ 'f' then some (c.toNat - 87)
    else if 'A' ≤ c ∧ c ≤ 'F' then some (c.toNat - 55)
    else none
  n.filter (· < base)

def naturalOf? (base : Nat) (s : List Char) : Option Nat :=
  if s.isEmpty then none
  else s.foldlM (fun n c => (digitOf? base c).map fun d => base * n + d) 0

/-- Two digits or more of which the first is zero. -/
def isPaddedNumber (s : List Char) : Bool :=
  match (readSign s).2 with
  | '0' :: c :: r => (c :: r).all isDigit
  | _ => false

/-- The base that a number is marked with and the digits after the mark. -/
def basedDigits? : List Char → Option (Nat × List Char)
  | '0' :: 'x' :: r => some (16, r)
  | '0' :: 'o' :: r => some (8, r)
  | '0' :: 'b' :: r => some (2, r)
  | _ => none

/-- An integer of any size, with an optional sign. -/
def integerOf? (s : String) : Option Int :=
  let cs := s.toList
  let (negative, r) := readSign cs
  let signed (n : Nat) : Int := if negative then -(n : Int) else n
  match (basedDigits? r).bind fun (base, ds) => naturalOf? base ds with
  | some n => some (signed n)
  | none => if isPaddedNumber cs then none else (naturalOf? 10 r).map signed

/-- A finite decimal numeral, an infinity or NaN. -/
def doubleOf? (s : String) : Option Double :=
  let (negative, r) := readSign s.toList
  if [".inf", ".Inf", ".INF"].contains (String.ofList r) then some (.infinity negative)
  else if [".nan", ".NaN", ".NAN"].contains s then some (.quietNan false)
  else if isPaddedNumber s.toList then none
  else ((Decimal.readUnsigned negative r).map Double.ofDecimal).filter Double.isFinite

end Causeway.Yaml
