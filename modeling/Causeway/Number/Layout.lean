import Causeway.Number.Shortest

/-!
How the digits of a number are laid out as text. The digits come from `shortest`; a `Layout` says
where positional notation ends and how an exponent is written.
-/

namespace Causeway.Number

/-- The decisions of one notation for finite numbers. -/
structure Layout where
  /-- Exponents of the leading digit for which the number is written without an exponent. -/
  positional : Int → Bool
  /-- Written after a number that has no fraction in positional notation. -/
  wholeMark : String
  /-- Written before an exponent that is not negative. -/
  plus : String
  /-- Whether an exact tie between two shortest decimals goes up; else to the even digit. -/
  tieUp : Bool

def decimalChars (n : Nat) : List Char := Nat.toDigits 10 n

/-- Digits with a point before the last `places` of them, zeros in front where they are missing. -/
def withPoint (digits : List Char) (places : Nat) : List Char :=
  let padded := List.replicate (places + 1 - digits.length) '0' ++ digits
  let cut := padded.length - places
  padded.take cut ++ '.' :: padded.drop cut

namespace Layout

def positionalText (l : Layout) (d : Digits) : List Char :=
  match d.exponent with
  | .ofNat e => decimalChars d.digits ++ List.replicate e '0' ++ l.wholeMark.toList
  | .negSucc e => withPoint (decimalChars d.digits) (e + 1)

/-- One digit before the point, the rest after it, then the exponent. -/
def scientificText (l : Layout) (d : Digits) : List Char :=
  let digits := decimalChars d.digits
  let lead := d.exponent + (digits.length - 1 : Nat)
  let mantissa := match digits with
    | [] => []
    | [c] => [c]
    | c :: r => c :: '.' :: r
  let sign := if lead < 0 then "-".toList else l.plus.toList
  mantissa ++ 'e' :: sign ++ decimalChars lead.natAbs

/-- The text of a finite value without its sign. -/
def magnitudeText (l : Layout) (f : Format) (v : Magnitude) : List Char :=
  if v.significand = 0 then '0' :: l.wholeMark.toList
  else
    let d := shortest f l.tieUp v
    let lead := d.exponent + ((decimalChars d.digits).length - 1 : Nat)
    if l.positional lead then l.positionalText d else l.scientificText d

end Layout

/-- Plain notation: never an exponent, and no mark on whole numbers. -/
def plain : Layout := ⟨fun _ => true, "", "", true⟩

/-- JSON notation: positional from `1e-5` up to below `1e16`, whole numbers marked by `.0`. -/
def jsonNotation : Layout := ⟨fun e => -5 ≤ e && e < 16, ".0", "+", false⟩

end Causeway.Number
