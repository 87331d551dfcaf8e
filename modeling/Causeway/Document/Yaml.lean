import Causeway.Yaml.Setting

/-!
The reading of YAML documents. Texts are taken from scalars of any kind; numbers and truth values only
from plain ones.
-/

namespace Causeway.Yaml

/-- A part of a document and the depth left for it. -/
structure Node where
  depth : Nat
  tree : Tree

namespace Node

def plain? (n : Node) : Option String :=
  match n.tree with
  | .scalar true _ s => some s
  | _ => none

def text (n : Node) : Option String :=
  match n.tree with
  | .scalar _ _ s => some s
  | _ => none

def integer (n : Node) : Option Int := n.plain?.bind integerOf?

def bool (n : Node) : Option Bool := n.plain?.bind boolOf?

def isEmpty (n : Node) : Bool := n.plain? == some ""

/-- Nothing is an empty map, unless it is written out. -/
def members (n : Node) : Option (List (String × Node)) :=
  match n.tree, n.depth with
  | .mapping _ members, depth + 1 =>
    members.mapM fun (k, x) => (Node.mk depth k).text.map (·, ⟨depth, x⟩)
  | _, _ => if n.isEmpty then some [] else none

def items (n : Node) : Option (List Node) :=
  match n.tree, n.depth with
  | .sequence _ items, depth + 1 => some (items.map (⟨depth, ·⟩))
  | _, _ => if n.isEmpty then some [] else none

def present (n : Node) : Option Node :=
  match n.plain? with
  | some s => if s = "" ∨ isNullText s then none else some n
  | none => some n

def setting (n : Node) : Option Setting := Setting.ofTree n.depth n.tree

end Node

def reading : Reading Node where
  integer := Node.integer
  text := Node.text
  bool := Node.bool
  present := Node.present
  members := Node.members
  items := Node.items
  positions _ := none

/-- Collections may nest this deep. -/
def depthLimit : Nat := 128

/-- Reads a whole YAML document. -/
def readDocument {α : Type} (read : Node → Option α) (s : String) : Option α :=
  (Tree.read? s).bind fun x => read ⟨depthLimit, x⟩

end Causeway.Yaml
