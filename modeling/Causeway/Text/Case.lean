import Causeway.Text.CaseTable

/-!
Lower and upper case of texts by the Unicode default algorithm. A capital sigma at the end of a word
becomes a final sigma; every other character is mapped by itself, some of them to several.
-/

namespace Causeway.Text

def chars (codes : List Nat) : List Char := codes.map Char.ofNat

/-- Looks first for a mapping to several characters. -/
def caseOf (several : List (Nat × List Nat)) (ranges : List CaseRange) (c : Char) : List Char :=
  match several.lookup c.toNat with
  | some codes => chars codes
  | none => [Char.ofNat (mapCase ranges c.toNat)]

def lowerChar (c : Char) : List Char := caseOf CaseTable.lowerSeveral CaseTable.lower c

def upperChar (c : Char) : List Char := caseOf CaseTable.upperSeveral CaseTable.upper c

def isCased (c : Char) : Bool := inIntervals CaseTable.cased c.toNat

def isCaseIgnorable (c : Char) : Bool := inIntervals CaseTable.caseIgnorable c.toNat

/-- Whether the first character that is not ignorable is a cased one. -/
def startsCased (s : List Char) : Bool :=
  match s.dropWhile isCaseIgnorable with
  | [] => false
  | c :: _ => isCased c

/-- `before` holds the characters already passed, the nearest first. -/
def lowerFrom (before : List Char) : List Char → List Char
  | [] => []
  | c :: r =>
    let image :=
      if c = 'Σ' then [if startsCased before && !startsCased r then 'ς' else 'σ'] else lowerChar c
    image ++ lowerFrom (c :: before) r

def lower (s : List Char) : List Char := lowerFrom [] s

def upper (s : List Char) : List Char := s.flatMap upperChar

def lowered (s : String) : String := String.ofList (lower s.toList)

def uppered (s : String) : String := String.ofList (upper s.toList)

end Causeway.Text
