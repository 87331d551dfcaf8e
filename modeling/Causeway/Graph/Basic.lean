import Causeway.Graph.Element
import Causeway.SemanticType

/-!
Graphs as results of queries: classes with the types of their properties, nodes, edges, and whether
the result was cut short. Results merge, the first one winning.
-/

namespace Causeway

/-- The semantic types of properties, by class and by name. -/
abbrev ClassTypes := NameMap (NameMap SemanticType)

namespace ClassTypes

/-- Gives a class an entry if it has none. -/
def ensureClass (t : ClassTypes) (cls : String) : ClassTypes := t.insertNew cls NameMap.empty

def typeOf? (t : ClassTypes) (cls property : String) : Option SemanticType :=
  (NameMap.get? t cls).bind (·.get? property)

def knows (t : ClassTypes) (cls property : String) : Bool := (t.typeOf? cls property).isSome

/-- Gives a property its type; the first one stays. -/
def register (t : ClassTypes) (cls property : String) (type : SemanticType) : ClassTypes :=
  t.update cls fun properties =>
    (properties.getD NameMap.empty).insertNew property type

/-- Adds the classes of another registry and their types, unless they have one. -/
def merge (t u : ClassTypes) : ClassTypes :=
  u.entries.foldl
    (fun t (cls, properties) =>
      properties.entries.foldl (fun t (property, type) => t.register cls property type)
        (t.ensureClass cls))
    t

end ClassTypes

/-- The result of a graph query. -/
structure Graph where
  nodeClasses : ClassTypes
  edgeClasses : ClassTypes
  nodes : Graph.ElementSet
  edges : Graph.ElementSet
  truncated : Bool
  deriving Inhabited

namespace Graph

/-- The record entry of a node that counts its incoming edges by class. -/
def inKey : String := "@in"

/-- The record entry of a node that counts its outgoing edges by class. -/
def outKey : String := "@out"

/-- The record entry of a node that counts all its edges. -/
def edgeCountKey : String := "@edgeCount"

def empty : Graph := ⟨NameMap.empty, NameMap.empty, .empty, .empty, false⟩

def isEmpty (g : Graph) : Bool := g.nodes.isEmpty && g.edges.isEmpty

/-- The union with another result. What is there stays, and a cut in either is one in both. -/
def merge (g h : Graph) : Graph where
  nodeClasses := g.nodeClasses.merge h.nodeClasses
  edgeClasses := g.edgeClasses.merge h.edgeClasses
  nodes := g.nodes.insertAll h.nodes.toList
  edges := g.edges.insertAll h.edges.toList
  truncated := g.truncated || h.truncated

def nodeIsWellFormed (g : Graph) (e : Element) : Bool :=
  e.group == .nodes && e.labels.all g.nodeClasses.contains &&
    [inKey, outKey, edgeCountKey].all e.record.contains

def edgeIsWellFormed (g : Graph) (e : Element) : Bool :=
  let ends (x : Option String) := x.any fun s => s ≠ ""
  e.group == .edges && e.labels.all g.edgeClasses.contains && ends e.source && ends e.target

/-- Every label is a class of the graph, nodes have their counters and edges their ends. -/
def isWellFormed (g : Graph) : Bool :=
  g.nodes.toList.all g.nodeIsWellFormed && g.edges.toList.all g.edgeIsWellFormed

end Graph

end Causeway
