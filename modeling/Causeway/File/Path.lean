import Causeway.Text.Search

/-!
Paths with slashes between their parts.
-/

namespace Causeway.Path

def isAbsolute (p : String) : Bool := p.toList.head? == some '/'

/-- A path seen from a folder; an absolute one stays as it is. -/
def join (folder p : String) : String :=
  if isAbsolute p ∨ folder = "" then p
  else if folder.toList.getLast? = some '/' then folder ++ p
  else folder ++ "/" ++ p

/-- The parts of a path; empty ones and single dots are no parts. -/
def parts (p : String) : List String :=
  ((Text.splitAt ['/'] p.toList).map String.ofList).filter fun s => s ≠ "" ∧ s ≠ "."

/-- The last part, unless it leads upwards. -/
def fileName? (p : String) : Option String := (parts p).getLast?.filter (· ≠ "..")

/-- What follows the last dot of a file name that has one behind its first character. -/
def extensionOf? (name : String) : Option String :=
  let r := name.toList.reverse
  match r.dropWhile (· ≠ '.') with
  | [] => none
  | [_] => none
  | _ => some (String.ofList (r.takeWhile (· ≠ '.')).reverse)

def extension? (p : String) : Option String := (fileName? p).bind extensionOf?

/-- The parts with every way upwards taken. -/
def resolved (p : String) : List String :=
  (parts p).foldl (fun l s => if s = ".." then l.dropLast else l ++ [s]) []

/-- Whether a path can only name a folder. -/
def namesFolder (p : String) : Bool :=
  match p.toList.reverse with
  | '/' :: _ => true
  | '.' :: '/' :: _ => true
  | '.' :: '.' :: '/' :: _ => true
  | _ => false

end Causeway.Path
