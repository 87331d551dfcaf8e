import Causeway.Json.Basic

/-!
The text of JSON values: compact, and indented by two blanks a level. Control characters, quotes and
backslashes are escaped; every other character stands for itself.
-/

namespace Causeway.Json

open Number

def hexDigit (n : Nat) : Char := if n < 10 then Char.ofNat (48 + n) else Char.ofNat (87 + n)

def escape (c : Char) : List Char :=
  if c = '"' then ['\\', '"']
  else if c = '\\' then ['\\', '\\']
  else if c = '\n' then ['\\', 'n']
  else if c = '\r' then ['\\', 'r']
  else if c = '\t' then ['\\', 't']
  else if c.toNat = 8 then ['\\', 'b']
  else if c.toNat = 12 then ['\\', 'f']
  else if c.toNat < 32 then ['\\', 'u', '0', '0', hexDigit (c.toNat / 16), hexDigit (c.toNat % 16)]
  else [c]

def quote (s : String) : List Char := '"' :: (s.toList.flatMap escape ++ ['"'])

def scalarText : Json → List Char
  | .null => "null".toList
  | .bool true => "true".toList
  | .bool false => "false".toList
  | .integer i => (toString i).toList
  | .real d => d.jsonText.toList
  | .string s => quote s
  | .array _ => []
  | .object _ => []

mutual

/-- The compact text, with no blanks between tokens. -/
def chars : Json → List Char
  | .array items => '[' :: itemChars items
  | .object members => '\x7b' :: memberChars members
  | scalar => scalarText scalar

/-- The items of an array and its closing bracket. -/
def itemChars : List Json → List Char
  | [] => [']']
  | [x] => chars x ++ [']']
  | x :: r => chars x ++ ',' :: itemChars r

/-- The members of an object and its closing brace. -/
def memberChars : List (String × Json) → List Char
  | [] => ['\x7d']
  | [(n, x)] => quote n ++ ':' :: chars x ++ ['\x7d']
  | (n, x) :: r => quote n ++ ':' :: chars x ++ ',' :: memberChars r

end

def text (j : Json) : String := String.ofList j.chars

def newLine (level : Nat) : List Char := '\n' :: List.replicate (2 * level) ' '

mutual

/-- Every item and member on a line of its own; empty arrays and objects stay closed up. -/
def indentedAt (level : Nat) : Json → List Char
  | .array [] => ['[', ']']
  | .array items => '[' :: itemsIndented level items
  | .object [] => ['\x7b', '\x7d']
  | .object members => '\x7b' :: membersIndented level members
  | scalar => scalarText scalar

def itemsIndented (level : Nat) : List Json → List Char
  | [] => newLine level ++ [']']
  | [x] => newLine (level + 1) ++ indentedAt (level + 1) x ++ newLine level ++ [']']
  | x :: r => newLine (level + 1) ++ indentedAt (level + 1) x ++ ',' :: itemsIndented level r

def membersIndented (level : Nat) : List (String × Json) → List Char
  | [] => newLine level ++ ['\x7d']
  | [(n, x)] =>
    newLine (level + 1) ++ quote n ++ ':' :: ' ' :: indentedAt (level + 1) x ++ newLine level ++
      ['\x7d']
  | (n, x) :: r =>
    newLine (level + 1) ++ quote n ++ ':' :: ' ' :: indentedAt (level + 1) x ++
      ',' :: membersIndented level r

end

def indentedText (j : Json) : String := String.ofList (j.indentedAt 0)

end Causeway.Json
