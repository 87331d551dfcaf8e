import Causeway.Number.Layout
import Causeway.Number.Decimal

/-!
Numbers of the 64-bit binary format, kept as their bits. `Double.view` reads the bits; every
operation is defined on that view, and two doubles are the same when their bits are.
-/

namespace Causeway.Number

structure Double where
  bits : UInt64
  deriving DecidableEq, Repr

/-- What the bits of a floating-point number say. -/
inductive FloatView where
  | nan (negative : Bool)
  | infinite (negative : Bool)
  | finite (negative : Bool) (magnitude : Magnitude)
  deriving DecidableEq, Repr

namespace Double

def signBit : Nat := twoPow 63

/-- Sign, eleven bits of exponent and fifty-two of fraction. -/
def view (d : Double) : FloatView :=
  let n := d.bits.toNat
  let negative := signBit ≤ n
  let exponent : Nat := n / twoPow 52 % twoPow 11
  let fraction := n % twoPow 52
  if exponent = 2047 then if fraction = 0 then .infinite negative else .nan negative
  else if exponent = 0 then .finite negative ⟨fraction, -1074⟩
  else .finite negative ⟨twoPow 52 + fraction, (exponent : Int) - 1075⟩

def ofBits (negative : Bool) (n : Nat) : Double :=
  ⟨UInt64.ofNat (n + if negative then signBit else 0)⟩

def infinity (negative : Bool) : Double := ofBits negative (2047 * twoPow 52)

def quietNan (negative : Bool) : Double := ofBits negative (2047 * twoPow 52 + twoPow 51)

def zero (negative : Bool) : Double := ofBits negative 0

/-- The bits of a magnitude of the format: a carry out of the fraction is the next exponent. -/
def ofMagnitude (negative : Bool) (v : Magnitude) : Double :=
  ofBits negative ((v.exponent + 1074).toNat * twoPow 52 + v.significand)

/-- An overflow is infinite. -/
def ofRounded (negative : Bool) : Option Magnitude → Double
  | some v => ofMagnitude negative v
  | none => infinity negative

def ofRatio (negative : Bool) (num den : Nat) : Double :=
  ofRounded negative (binary64.nearest num den)

def ofInt (i : Int) : Double := ofRatio (i < 0) i.natAbs 1

def ofDecimal (d : Decimal) : Double := ofRounded d.negative (d.magnitude binary64)

def isFinite (d : Double) : Bool :=
  match d.view with
  | .finite _ _ => true
  | _ => false

/-- Finite and without a fraction. -/
def isWhole (d : Double) : Bool :=
  match d.view with
  | .finite _ v => v.isWhole
  | _ => false

/-- The number without its fraction, drawn into the bounds; zero for NaN. -/
def truncateWithin (low high : Int) (d : Double) : Int :=
  match d.view with
  | .nan _ => 0
  | .infinite negative => if negative then low else high
  | .finite negative v =>
    let i : Int := if negative then -(v.floor : Int) else v.floor
    max low (min high i)

/-- Equality of numbers: both zeros are equal and NaN differs from itself. -/
def sameNumber (a b : Double) : Bool :=
  match a.view, b.view with
  | .nan _, _ => false
  | _, .nan _ => false
  | .finite _ v, .finite _ w => a == b || (v.significand == 0 && w.significand == 0)
  | _, _ => a == b

def text (l : Layout) (f : Format) : FloatView → List Char
  | .nan _ => "NaN".toList
  | .infinite negative => if negative then "-inf".toList else "inf".toList
  | .finite negative v => (if negative then ['-'] else []) ++ l.magnitudeText f v

/-- The number in plain notation. -/
def plainText (d : Double) : String := String.ofList (text plain binary64 d.view)

/-- A finite number in JSON notation. -/
def jsonText (d : Double) : String := String.ofList (text jsonNotation binary64 d.view)

def lowerAscii (s : List Char) : List Char := s.map Char.toLower

/-- A decimal numeral or, in any case of letters, the name of an infinity or of NaN. -/
def readWith {α : Type} (special : FloatView → α) (decimal : Decimal → α) (s : List Char) :
    Option α :=
  let (negative, r) := readSign s
  let name := lowerAscii r
  if name = "inf".toList ∨ name = "infinity".toList then some (special (.infinite negative))
  else if name = "nan".toList then some (special (.nan negative))
  else (Decimal.readUnsigned negative r).map decimal

def ofSpecial : FloatView → Double
  | .nan negative => quietNan negative
  | .infinite negative => infinity negative
  | .finite negative v => ofMagnitude negative v

def read (s : List Char) : Option Double := readWith ofSpecial ofDecimal s

end Double

/-- A number of the 32-bit format, given by its view. -/
structure Single where
  view : FloatView
  deriving DecidableEq, Repr

namespace Single

def ofRounded (negative : Bool) : Option Magnitude → Single
  | some v => ⟨.finite negative v⟩
  | none => ⟨.infinite negative⟩

def ofDecimal (d : Decimal) : Single := ofRounded d.negative (d.magnitude binary32)

def read (s : List Char) : Option Single := Double.readWith (⟨·⟩) ofDecimal s

/-- The nearest number of the 32-bit format. -/
def ofDouble (d : Double) : Single :=
  match d.view with
  | .finite negative v =>
    let (n, m) := v.ratio
    ofRounded negative (binary32.nearest n m)
  | special => ⟨special⟩

/-- Every number of the 32-bit format is one of the 64-bit format. -/
def toDouble (s : Single) : Double :=
  match s.view with
  | .finite negative v =>
    let (n, m) := v.ratio
    Double.ofRatio negative n m
  | special => Double.ofSpecial special

def plainText (s : Single) : String := String.ofList (Double.text plain binary32 s.view)

end Single

end Causeway.Number
