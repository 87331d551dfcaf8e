import Causeway.Graph.Assembly
import Causeway.Graph.Json

/-!
Datasets: property graphs held in memory, in the order in which they were written. Ids may repeat,
and edges may end at vertices that are not there.
-/

namespace Causeway.Memory

structure Vertex where
  id : String
  cls : String
  properties : NameMap Value := NameMap.empty
  deriving Inhabited

structure Edge where
  id : String
  cls : String
  source : String
  target : String
  properties : NameMap Value := NameMap.empty
  deriving Inhabited

/-- A property graph. -/
structure Dataset where
  vertices : List Vertex := []
  edges : List Edge := []
  deriving Inhabited

def sameProperties (a b : NameMap Value) : Bool := Value.sameEntries a.entries b.entries

namespace Vertex

def withProperty (v : Vertex) (name : String) (x : Value) : Vertex :=
  { v with properties := v.properties.insert name x }

def same (v w : Vertex) : Bool :=
  v.id == w.id && v.cls == w.cls && sameProperties v.properties w.properties

instance : BEq Vertex := ⟨same⟩

def toJson (v : Vertex) : Json := .obj [
  ("id", .string v.id), ("class", .string v.cls), ("properties", v.properties.toJson Value.serialize)]

def readProperties : Option Json.Node → Option (NameMap Value) :=
  Reading.withDefault (Json.reading.mapOf Json.Node.value) NameMap.empty

def read (n : Json.Node) : Option Vertex := do
  match ← Json.reading.fields ["id", "class", "properties"] n with
  | [id, cls, properties] =>
    pure {
      id := ← Reading.required Json.Node.text id
      cls := ← Reading.required Json.Node.text cls
      properties := ← readProperties properties }
  | _ => none

end Vertex

namespace Edge

def withProperty (e : Edge) (name : String) (x : Value) : Edge :=
  { e with properties := e.properties.insert name x }

def same (e f : Edge) : Bool :=
  e.id == f.id && e.cls == f.cls && e.source == f.source && e.target == f.target &&
    sameProperties e.properties f.properties

instance : BEq Edge := ⟨same⟩

def toJson (e : Edge) : Json := .obj [
  ("id", .string e.id), ("class", .string e.cls), ("from", .string e.source),
  ("to", .string e.target), ("properties", e.properties.toJson Value.serialize)]

def read (n : Json.Node) : Option Edge := do
  match ← Json.reading.fields ["id", "class", "from", "to", "properties"] n with
  | [id, cls, source, target, properties] =>
    pure {
      id := ← Reading.required Json.Node.text id
      cls := ← Reading.required Json.Node.text cls
      source := ← Reading.required Json.Node.text source
      target := ← Reading.required Json.Node.text target
      properties := ← Vertex.readProperties properties }
  | _ => none

end Edge

namespace Dataset

def same (d e : Dataset) : Bool := d.vertices == e.vertices && d.edges == e.edges

instance : BEq Dataset := ⟨same⟩

def toJson (d : Dataset) : Json := .obj [
  ("vertices", .array (d.vertices.map Vertex.toJson)),
  ("edges", .array (d.edges.map Edge.toJson))]

def read (n : Json.Node) : Option Dataset := do
  match ← Json.reading.fields ["vertices", "edges"] n with
  | [vertices, edges] =>
    pure {
      vertices := ← Reading.withDefault (Json.reading.listOf Vertex.read) [] vertices
      edges := ← Reading.withDefault (Json.reading.listOf Edge.read) [] edges }
  | _ => none

/-- Reads a dataset from JSON text. -/
def ofText (s : String) : Except Error Dataset :=
  match Json.readDocument read s with
  | some d => .ok d
  | none => .error (.jsonParse "not a dataset")

/-- The first vertex of an id. -/
def vertex? (d : Dataset) (id : String) : Option Vertex := d.vertices.find? (·.id == id)

/-- The first edge of an id. -/
def edge? (d : Dataset) (id : String) : Option Edge := d.edges.find? (·.id == id)

def vertexClasses (d : Dataset) : NameSet := NameSet.ofList (d.vertices.map (·.cls))

def edgeClasses (d : Dataset) : NameSet := NameSet.ofList (d.edges.map (·.cls))

def verticesOf (d : Dataset) (cls : String) : List Vertex := d.vertices.filter (·.cls == cls)

def edgesOf (d : Dataset) (cls : String) : List Edge := d.edges.filter (·.cls == cls)

def nativeProperties (properties : NameMap Value) : List Graph.NativeProperty :=
  properties.entries.map fun (name, value) => { name, value }

/-- A vertex with the numbers of its edges by class; an edge from a vertex to itself counts on both
sides. -/
def nativeVertex (d : Dataset) (v : Vertex) : Graph.NativeVertex :=
  d.edges.foldl
    (fun n e =>
      let n := if e.target = v.id then n.withIn e.cls 1 else n
      if e.source = v.id then n.withOut e.cls 1 else n)
    { id := v.id, labels := [v.cls], properties := nativeProperties v.properties }

def nativeEdge (e : Edge) : Graph.NativeEdge where
  id := e.id
  label := e.cls
  source := e.source
  target := e.target
  properties := nativeProperties e.properties

end Dataset

end Causeway.Memory
