import Causeway.Document.Reading
import Causeway.Value.Reader

/-!
The reading of JSON documents: a node is a part of a document together with how deep it may still
nest.
-/

namespace Causeway.Json

open Number

/-- A part of a document and the depth left for it. -/
structure Node where
  depth : Nat
  written : Written

namespace Node

def integer (n : Node) : Option Int :=
  match n.written with
  | .number whole d =>
    match numberOf whole d with
    | some (.integer i) => some i
    | _ => none
  | _ => none

/-- Any number, a whole one too. -/
def double (n : Node) : Option Double :=
  match n.written with
  | .number whole d =>
    match numberOf whole d with
    | some (.integer i) => some (Double.ofInt i)
    | some (.real x) => some x
    | _ => none
  | _ => none

def text (n : Node) : Option String :=
  match n.written with
  | .string s => s
  | _ => none

def bool (n : Node) : Option Bool :=
  match n.written with
  | .bool b => some b
  | _ => none

def members (n : Node) : Option (List (String × Node)) :=
  match n.written, n.depth with
  | .object members, depth + 1 =>
    members.mapM fun (name, x) => name.map fun name => (name, ⟨depth, x⟩)
  | _, _ => none

def items (n : Node) : Option (List Node) :=
  match n.written, n.depth with
  | .array items, depth + 1 => some (items.map fun x => ⟨depth, x⟩)
  | _, _ => none

/-- A name alone, or as the only member of an object with nothing in it. -/
def caseName (n : Node) : Option String :=
  match n.written, n.depth with
  | .string s, _ => s
  | .object [(name, .null)], _ + 1 => name
  | _, _ => none

def present (n : Node) : Option Node :=
  match n.written with
  | .null => none
  | _ => some n

def value (n : Node) : Option Value :=
  (Content.ofWritten n.depth n.written).bind Value.ofContent

end Node

def reading : Reading Node where
  integer := Node.integer
  text := Node.text
  bool := Node.bool
  present := Node.present
  members := Node.members
  items := Node.items
  positions := Node.items

/-- Reads a whole JSON document. -/
def readDocument {α : Type} (read : Node → Option α) (s : String) : Option α :=
  (Written.read? s).bind fun x => read ⟨depthLimit, x⟩

end Causeway.Json
