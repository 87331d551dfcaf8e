import Causeway.Text.Blank
import Causeway.Text.CaseRange
import Causeway.Text.Unprintable

/-!
Texts in quotes, as they are shown to people who look for faults: whatever cannot be seen is written by
its code point.
-/

namespace Causeway.Text

def hexChars (n : Nat) : List Char := Nat.toDigits 16 n

/-- How a character is shown between double quotes. -/
def shown (c : Char) : List Char :=
  if c = '\x00' then ['\\', '0']
  else if c = '\t' then ['\\', 't']
  else if c = '\r' then ['\\', 'r']
  else if c = '\n' then ['\\', 'n']
  else if c = '"' ∨ c = '\\' then ['\\', c]
  else if inIntervals unprintable c.toNat then
    ['\\', 'u', '\x7b'] ++ hexChars c.toNat ++ ['\x7d']
  else [c]

def quoted (s : String) : String := String.ofList ('"' :: (s.toList.flatMap shown ++ ['"']))

/-- Some texts between braces. -/
def braced (l : List String) : String := "\x7b" ++ joined ", " l ++ "\x7d"

end Causeway.Text
