/-!
White space, by the Unicode property White_Space, and the cutting of texts at it.
-/

namespace Causeway.Text

/-- The 25 characters with the property White_Space. -/
def isBlank (c : Char) : Bool :=
  let n := c.toNat
  (0x9 ≤ n && n ≤ 0xD) || n == 0x20 || n == 0x85 || n == 0xA0 || n == 0x1680 ||
    (0x2000 ≤ n && n ≤ 0x200A) || n == 0x2028 || n == 0x2029 || n == 0x202F || n == 0x205F ||
    n == 0x3000

def trimStart (s : List Char) : List Char := s.dropWhile isBlank

def trimEnd (s : List Char) : List Char := (s.reverse.dropWhile isBlank).reverse

def trim (s : List Char) : List Char := trimEnd (trimStart s)

/-- The pieces between the elements that satisfy `p`, empty ones included. -/
def splitWhen {α : Type} (p : α → Bool) : List α → List (List α)
  | [] => [[]]
  | c :: r =>
    if p c then [] :: splitWhen p r
    else match splitWhen p r with
      | [] => [[c]]
      | w :: ws => (c :: w) :: ws

/-- The maximal runs of characters that are not blank. -/
def words (s : List Char) : List (List Char) := (splitWhen isBlank s).filter fun w => !w.isEmpty

def joinWith (sep : List Char) : List (List Char) → List Char
  | [] => []
  | [w] => w
  | w :: ws => w ++ sep ++ joinWith sep ws

/-- Blank from end to end, the empty text included. -/
def allBlank (s : List Char) : Bool := s.all isBlank

def trimmed (s : String) : String := String.ofList (trim s.toList)

def isBlankText (s : String) : Bool := allBlank s.toList

/-- The words of a text. -/
def wordsOf (s : String) : List String := (words s.toList).map String.ofList

/-- The texts with `sep` between neighbours. -/
def joined (sep : String) (l : List String) : String :=
  String.ofList (joinWith sep.toList (l.map String.toList))

end Causeway.Text
