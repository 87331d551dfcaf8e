import Causeway.DataSource
import Causeway.Graph.Request
import Causeway.Memory.Expansion
import Causeway.Metadata
import Causeway.Sprite.Script

/-!
Answers of a dataset: graphs for requests, its schema, and its index. Composite ids follow the record
scheme.
-/

namespace Causeway.Memory

/-- The type of data source that datasets serve. -/
def tag : String := "memory"

/-- The most sprites of one window of the index. -/
def windowSize : Nat := 100

/-- The query for elements of all classes. -/
def allClasses : String := "*"

def scheme : IdScheme := .record

def assembler (ds : DataSource) : Graph.Assembler := { dataSource := ds.id, scheme }

namespace Dataset

def nativeElements (d : Dataset) (vertices : List Vertex) (edges : List Edge) :
    List Graph.NativeElement :=
  vertices.map (fun v => .vertex (d.nativeVertex v)) ++ edges.map (fun e => .edge (nativeEdge e))

/-- The graph of some vertices and edges, within a limit. -/
def assemble (d : Dataset) (ds : DataSource) (limit : Nat) (vertices : List Vertex)
    (edges : List Edge) : Graph :=
  (((assembler ds).withLimit limit).ingest (d.nativeElements vertices edges)).result

/-- The elements of a class, or all where the class is blank or a star. -/
def query (d : Dataset) (ds : DataSource) (text : String) (limit : Nat) : Except Error Graph :=
  let cls := Text.trimmed text
  if cls = "" ∨ cls = allClasses then .ok (d.assemble ds limit d.vertices d.edges)
  else if d.vertexClasses.contains cls || d.edgeClasses.contains cls then
    .ok (d.assemble ds limit (d.verticesOf cls) (d.edgesOf cls))
  else .error (.notFound ("class '" ++ cls ++ "'"))

/-- The neighbourhood of the elements: vertices, then edges, each in the order met. -/
def expand (d : Dataset) (ds : DataSource) (ids : List String) (direction : Direction)
    (label : Option String) (hops : Nat) : Except Error Graph := do
  let native ← scheme.decodeAll ds.id ids
  let w := d.walk native direction label hops
  pure (d.assemble ds 0 w.reached.toList w.traversed.toList)

/-- The vertex of a native id, else the edge of it. -/
def element? (d : Dataset) (id : String) : Option Graph.NativeElement :=
  match d.vertex? id with
  | some v => some (.vertex (d.nativeVertex v))
  | none => (d.edge? id).map fun e => .edge (nativeEdge e)

/-- The elements of some ids; ids of nothing are passed over. -/
def load (d : Dataset) (ds : DataSource) (ids : List String) : Except Error Graph := do
  let native ← scheme.decodeAll ds.id ids
  pure ((assembler ds).ingest (native.filterMap d.element?)).result

def matchesFilter (filter : Option Graph.PropertyFilter) (properties : NameMap Value) : Bool :=
  filter.all fun f => (properties.get? f.property).any (· == f.value)

def ofClass (d : Dataset) (ds : DataSource) (cls : String) (filter : Option Graph.PropertyFilter)
    (limit : Nat) : Graph :=
  d.assemble ds limit
    ((d.verticesOf cls).filter fun v => matchesFilter filter v.properties)
    ((d.edgesOf cls).filter fun e => matchesFilter filter e.properties)

def between (d : Dataset) (ds : DataSource) (sources labels targets : List String) :
    Except Error Graph := do
  let sources ← scheme.decodeAll ds.id sources
  let targets ← scheme.decodeAll ds.id targets
  let keep (e : Edge) : Bool :=
    (labels.isEmpty || labels.contains e.cls) && sources.contains e.source &&
      (targets.isEmpty || targets.contains e.target)
  pure (d.assemble ds 0 [] (d.edges.filter keep))

/-- The answer to a request. -/
def answer (d : Dataset) (ds : DataSource) : Graph.Request → Except Error Graph
  | .query text limit => d.query ds text limit
  | .expand ids direction label hops => d.expand ds ids direction label hops
  | .load ids => d.load ds ids
  | .ofClass cls filter limit => .ok (d.ofClass ds cls filter limit)
  | .between sources labels targets => d.between ds sources labels targets
  | .probe => .ok Graph.empty

def vertexSprite (ds : DataSource) (v : Vertex) : Sprite :=
  ((Sprite.empty.add "@id" (.string (scheme.encode ds.id v.id))).add "@class" (.string v.cls)).load
    v.properties.entries

def edgeSprite (ds : DataSource) (e : Edge) : Sprite :=
  ((((Sprite.empty.add "@id" (.string (scheme.encode ds.id e.id))).add "@class" (.string e.cls)).add
    "@source" (.string (scheme.encode ds.id e.source))).add
    "@target" (.string (scheme.encode ds.id e.target))).load e.properties.entries

/-- Vertex classes and then edge classes, each in name order and in windows of its own. -/
def script (d : Dataset) (ds : DataSource) : Script where
  windows :=
    (d.vertexClasses.names.flatMap fun cls =>
      chunksOf windowSize ((d.verticesOf cls).map (vertexSprite ds))) ++
    d.edgeClasses.names.flatMap fun cls =>
      chunksOf windowSize ((d.edgesOf cls).map (edgeSprite ds))

/-- Counts one element of a class; the first scalar value of a property gives its type. -/
def describe (classes : NameMap TypeClass) (cls : String) (properties : NameMap Value) :
    NameMap TypeClass :=
  classes.update cls fun c =>
    let c := c.getD { name := cls, cardinality := 0 }
    properties.entries.foldl
      (fun c (name, x) =>
        if x.isScalar && !c.properties.contains name then
          c.withProperty name (SemanticType.ofValue x)
        else c)
      { c with cardinality := c.cardinality + 1 }

def metadata (d : Dataset) : Metadata where
  nodeClasses := d.vertices.foldl (fun m v => describe m v.cls v.properties) NameMap.empty
  edgeClasses := d.edges.foldl (fun m e => describe m e.cls e.properties) NameMap.empty

end Dataset

end Causeway.Memory
