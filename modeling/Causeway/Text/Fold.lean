import Causeway.Text.CaseTable

/-!
Simple case folding: characters that differ by case alone have one folded form. `caseVariants` lists
the characters with the folded form of a given one.
-/

namespace Causeway.Text

def lowerCode (n : Nat) : Nat := mapCase CaseTable.lower n

def upperCode (n : Nat) : Nat := mapCase CaseTable.upper n

/-- Folded forms that are not the lower case of the upper case: the dotless i stands alone, and some
ligatures and accented letters have no case mapping to one character. -/
def foldExceptions : List (Nat × Nat) := [
  (0x131, 0x131), (0x1FD3, 0x390), (0x1FE3, 0x3B0), (0xFB05, 0xFB06)]

def foldCode (n : Nat) : Nat := (foldExceptions.lookup n).getD (lowerCode (upperCode n))

namespace CaseRange

/-- The code point that the range maps to `m`. -/
def source? (r : CaseRange) (m : Nat) : Option Nat :=
  let n := r.first + (m - r.image)
  if r.image ≤ m ∧ r.covers n then some n else none

end CaseRange

/-- A code point and those that a list of ranges maps to it. -/
def withSources (ranges : List CaseRange) (m : Nat) : List Nat :=
  m :: ranges.filterMap (·.source? m)

def caseVariants (n : Nat) : List Nat :=
  let f := foldCode n
  let candidates := (withSources CaseTable.lower f).flatMap (withSources CaseTable.upper)
  (candidates ++ foldExceptions.map Prod.fst).filter fun m => foldCode m == f

end Causeway.Text
