import Causeway.Document.Json
import Causeway.Error

/-!
Directions in which edges are followed.
-/

namespace Causeway

inductive Direction where
  | into
  | out
  | both
  deriving DecidableEq, Repr, Inhabited

namespace Direction

def name : Direction → String
  | .into => "in"
  | .out => "out"
  | .both => "both"

def ofName? (s : String) : Option Direction := [into, out, both].find? fun d => d.name == s

/-- Reads a direction in any case of letters, with white space around it. -/
def parse (s : String) : Except Error Direction :=
  let word := Text.lowered (Text.trimmed s)
  match ofName? word with
  | some d => .ok d
  | none => .error (.config ("Unknown direction: " ++ word))

def read (n : Json.Node) : Option Direction := n.caseName.bind ofName?

/-- Whether edges that leave a vertex are followed. -/
def followsOut (d : Direction) : Bool := d ≠ .into

/-- Whether edges that enter a vertex are followed. -/
def followsIn (d : Direction) : Bool := d ≠ .out

end Direction

end Causeway
