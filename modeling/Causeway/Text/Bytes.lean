/-!
The text of bytes that may end within a character.
-/

namespace Causeway.Text

/-- The mark in the place of a character that is cut. -/
def replacement : String := "\ufffd"

/-- The text of bytes in UTF-8, of which the last character may be cut. -/
def ofBytes (l : List UInt8) : String :=
  let upTo (k : Nat) : Option String := String.fromUTF8? ⟨(l.take (l.length - k)).toArray⟩
  match upTo 0 with
  | some s => s
  | none => (([1, 2, 3].findSome? upTo).map (· ++ replacement)).getD ""

end Causeway.Text
