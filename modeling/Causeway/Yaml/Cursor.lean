/-!
Positions in YAML texts, and the kinds of characters that structure them.
-/

namespace Causeway.Yaml

def isBreak (c : Char) : Bool :=
  c == '\n' || c == '\r' || c == '\x85' || c == '\u2028' || c == '\u2029'

def isSpace (c : Char) : Bool := c == ' ' || c == '\t'

/-- Whether a word ends before this character or at the end of the text. -/
def endsWord : Option Char → Bool
  | none => true
  | some c => isSpace c || isBreak c

/-- Whether a text may hold the character at all. -/
def isAllowed (c : Char) : Bool :=
  let n := c.toNat
  n == 9 || n == 10 || n == 13 || (32 ≤ n && n ≤ 126) || n == 0x85 || (0xA0 ≤ n && n ≤ 0xD7FF) ||
    (0xE000 ≤ n && n ≤ 0xFFFD && n != 0xFEFF) || 0x10000 ≤ n

/-- What is left of a text and where that begins. -/
structure Cursor where
  rest : List Char
  line : Nat := 0
  column : Nat := 0
  index : Nat := 0
  deriving Inhabited

namespace Cursor

def peek (c : Cursor) (n : Nat) : Option Char := c.rest[n]?

def atEnd (c : Cursor) : Bool := c.rest.isEmpty

/-- Passes over some characters of one line. -/
def skip (c : Cursor) (n : Nat) : Cursor :=
  { c with rest := c.rest.drop n, column := c.column + n, index := c.index + n }

/-- Passes over a line break. All breaks read as line feeds but the two separators of Unicode. -/
def takeBreak (c : Cursor) : Char × Cursor :=
  let width := match c.rest with
    | '\r' :: '\n' :: _ => 2
    | _ => 1
  let seen := match c.rest with
    | '\u2028' :: _ => '\u2028'
    | '\u2029' :: _ => '\u2029'
    | _ => '\n'
  (seen, { rest := c.rest.drop width, line := c.line + 1, index := c.index + width })

def startsWith (c : Cursor) (mark : String) : Bool := mark.toList.isPrefixOf c.rest

/-- At three characters that begin or end a document. -/
def atMarker (c : Cursor) : Bool :=
  c.column == 0 && (c.startsWith "---" || c.startsWith "...") && endsWord (c.peek 3)

/-- Passes over the characters before the next line break. -/
def skipToBreak (c : Cursor) : Cursor := c.skip (c.rest.takeWhile fun x => !isBreak x).length

def skipSpaces (c : Cursor) : Cursor := c.skip (c.rest.takeWhile isSpace).length

end Cursor

end Causeway.Yaml
