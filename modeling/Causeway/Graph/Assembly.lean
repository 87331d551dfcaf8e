import Causeway.ElementId
import Causeway.Graph.Basic

/-!
Building graphs from what a data source returns. Native vertices and edges become elements with
composite ids; nodes get counters of their edges, the first type of a property stays, and a limit on
nodes and edges cuts the result short. Counters are kept in words of 64 bits and added here without a
bound, which is the same as long as all the counters of a vertex together stay below `2 ^ 64`.
-/

namespace Causeway.Graph

open Number

/-- A property as the data source reports it. -/
structure NativeProperty where
  name : String
  value : Value
  /-- The type that the data source declares, if it declares one. -/
  nativeType : Option String := none
  /-- Whether it refers to another record. -/
  link : Bool := false

namespace NativeProperty

/-- Links and the fields in which a data source keeps a vertex's edges are no contents of it. -/
def isBookkeeping (p : NativeProperty) : Bool :=
  p.link || "in_".toList.isPrefixOf p.name.toList || "out_".toList.isPrefixOf p.name.toList

/-- The declared type, else the type of a scalar value. -/
def semanticType? (p : NativeProperty) : Option SemanticType :=
  match p.nativeType with
  | some n => some (SemanticType.ofName n)
  | none => if p.value.isScalar then some (SemanticType.ofValue p.value) else none

end NativeProperty

structure NativeVertex where
  id : String
  labels : List String
  properties : List NativeProperty := []
  /-- The numbers of incoming edges by label. -/
  inEdges : NameMap Nat := NameMap.empty
  outEdges : NameMap Nat := NameMap.empty

namespace NativeVertex

/-- A sum from `2 ^ 64` on overflows where counters are words, and does not here. -/
def addCount (counts : NameMap Nat) (label : String) (count : Nat) : NameMap Nat :=
  counts.update label fun n => n.getD 0 + count

def withIn (v : NativeVertex) (label : String) (count : Nat) : NativeVertex :=
  { v with inEdges := addCount v.inEdges label count }

def withOut (v : NativeVertex) (label : String) (count : Nat) : NativeVertex :=
  { v with outEdges := addCount v.outEdges label count }

/-- The number of all edges, a loop counting twice; like `addCount`, it has no bound here. -/
def edgeCount (v : NativeVertex) : Nat :=
  v.inEdges.values.foldr Nat.add 0 + v.outEdges.values.foldr Nat.add 0

end NativeVertex

structure NativeEdge where
  id : String
  label : String
  source : String
  target : String
  properties : List NativeProperty := []

/-- What a cursor over a graph yields. -/
inductive NativeElement where
  | vertex (v : NativeVertex)
  | edge (e : NativeEdge)

def countsValue (counts : NameMap Nat) : Value :=
  .ofMap (counts.map fun _ n => Value.ofInteger n)

/-- The properties that count, the last one of a name staying. -/
def recordOf (properties : List NativeProperty) : NameMap Value :=
  NameMap.ofList ((properties.filter (!·.isBookkeeping)).map fun p => (p.name, p.value))

/-- Registers the types of an element's properties under one of its labels. -/
def registerProperties (classes : ClassTypes) (label : String)
    (properties : List NativeProperty) : ClassTypes :=
  (properties.filter (!·.isBookkeeping)).foldl
    (fun classes p =>
      match p.semanticType? with
      | some type => classes.register label p.name type
      | none => classes)
    (classes.ensureClass label)

/-- The builder of one result. -/
structure Assembler where
  dataSource : Int
  scheme : IdScheme
  /-- The most nodes and the most edges to take. -/
  limit : Option Nat := none
  result : Graph := Graph.empty

namespace Assembler

/-- A limit of zero is none. -/
def withLimit (a : Assembler) (limit : Nat) : Assembler :=
  { a with limit := if limit = 0 then none else some limit }

def encode (a : Assembler) (native : String) : String := a.scheme.encode a.dataSource native

/-- Whether there are as many nodes or as many edges as there may be. -/
def isFull (a : Assembler) : Bool :=
  a.limit.any fun l => l ≤ a.result.nodes.size || l ≤ a.result.edges.size

def truncate (a : Assembler) : Assembler := { a with result.truncated := true }

/-- The counters override properties of their names. -/
def vertexRecord (v : NativeVertex) : NameMap Value :=
  ((recordOf v.properties).insert inKey (countsValue v.inEdges)
    |>.insert outKey (countsValue v.outEdges)).insert edgeCountKey (Value.ofInteger v.edgeCount)

def vertexElement (a : Assembler) (v : NativeVertex) : Element :=
  .node (Text.joined " " v.labels) (a.encode v.id) (vertexRecord v)

def edgeElement (a : Assembler) (e : NativeEdge) : Element :=
  .edge e.label (a.encode e.id) (a.encode e.source) (a.encode e.target) (recordOf e.properties)

/-- Its classes and types are registered whether or not its id is taken. -/
def addVertex (a : Assembler) (v : NativeVertex) : Assembler :=
  { a with
    result.nodeClasses :=
      v.labels.foldl (fun c label => registerProperties c label v.properties) a.result.nodeClasses
    result.nodes := a.result.nodes.insert (a.vertexElement v) }

def addEdge (a : Assembler) (e : NativeEdge) : Assembler :=
  { a with
    result.edgeClasses := registerProperties a.result.edgeClasses e.label e.properties
    result.edges := a.result.edges.insert (a.edgeElement e) }

def add (a : Assembler) : NativeElement → Assembler
  | .vertex v => a.addVertex v
  | .edge e => a.addEdge e

/-- Whether an element would be kept, its id being free. -/
def isNew (a : Assembler) : NativeElement → Bool
  | .vertex v => !a.result.nodes.contains (a.encode v.id)
  | .edge e => !a.result.edges.contains (a.encode e.id)

/-- Takes elements until there are no more or the limit is reached; only what is then left over
makes the result a cut one. -/
def ingest (a : Assembler) : List NativeElement → Assembler
  | [] => a
  | x :: xs => if a.isFull then a.truncate else (a.add x).ingest xs

end Assembler

end Causeway.Graph
