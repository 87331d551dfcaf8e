import Causeway.Document.Json
import Causeway.Graph.Assembly

/-!
The JSON form of graphs: writing, and reading back. Presentation hints have defaults; everything else
of a graph has to be there.
-/

namespace Causeway

def NameMap.toJson {α : Type} (m : NameMap α) (f : α → Json) : Json :=
  .object (m.map fun _ x => f x).entries

namespace SemanticType

def toJson (t : SemanticType) : Json := .string t.name

def read (n : Json.Node) : Option SemanticType := n.text.map ofName

end SemanticType

namespace ClassTypes

def toJson (t : ClassTypes) : Json := NameMap.toJson t fun m => m.toJson SemanticType.toJson

def read : Json.Node → Option ClassTypes :=
  Json.reading.mapOf (Json.reading.mapOf SemanticType.read)

end ClassTypes

namespace Graph

open Number

namespace Element

/-- A member only where there is a value. -/
def optionalMember (name : String) (x : Option String) : List (String × Json) :=
  match x with
  | some s => [(name, .string s)]
  | none => []

def dataToJson (e : Element) : Json := .obj (
  [("id", .string e.id)] ++ optionalMember "parent" e.parent ++
    optionalMember "source" e.source ++ optionalMember "target" e.target ++
    [("record", e.record.toJson Value.serialize)])

def toJson (e : Element) : Json := .obj [
  ("classes", .string e.classes),
  ("group", .string e.group.name),
  ("data", e.dataToJson),
  ("position", .obj [("x", .ofDouble e.position.x), ("y", .ofDouble e.position.y)]),
  ("selected", .bool e.selected),
  ("selectable", .bool e.selectable),
  ("locked", .bool e.locked),
  ("grabbable", .bool e.grabbable)]

def readPosition (n : Json.Node) : Option Position := do
  match ← Json.reading.fields ["x", "y"] n with
  | [x, y] =>
    pure { x := ← Reading.required Json.Node.double x, y := ← Reading.required Json.Node.double y }
  | _ => none

/-- The part of an element that is its data, laid over an element without any. -/
def readData (blank : Element) (n : Json.Node) : Option Element := do
  match ← Json.reading.fields ["id", "parent", "source", "target", "record"] n with
  | [id, parent, source, target, record] =>
    pure { blank with
      id := ← Reading.required Json.Node.text id
      parent := ← Json.reading.optional Json.Node.text parent
      source := ← Json.reading.optional Json.Node.text source
      target := ← Json.reading.optional Json.Node.text target
      record := ← Reading.withDefault (Json.reading.mapOf Json.Node.value) NameMap.empty record }
  | _ => none

def fieldNames : List String :=
  ["classes", "group", "data", "position", "selected", "selectable", "locked", "grabbable"]

def read (n : Json.Node) : Option Element := do
  match ← Json.reading.fields fieldNames n with
  | [classes, group, data, position, selected, selectable, locked, grabbable] =>
    let classes ← Reading.required Json.Node.text classes
    let group ← Reading.required (fun n => n.caseName.bind Group.ofName?) group
    let e ← Reading.required (readData { classes, group, id := "" }) data
    pure { e with
      position := ← Reading.withDefault readPosition {} position
      selected := ← Reading.withDefault Json.Node.bool false selected
      selectable := ← Reading.withDefault Json.Node.bool true selectable
      locked := ← Reading.withDefault Json.Node.bool false locked
      grabbable := ← Reading.withDefault Json.Node.bool true grabbable }
  | _ => none

end Element

namespace ElementSet

def toJson (s : ElementSet) : Json := .array (s.toList.map Element.toJson)

def read (n : Json.Node) : Option ElementSet :=
  (Json.reading.listOf Element.read n).map ofList

end ElementSet

def toJson (g : Graph) : Json := .obj [
  ("nodesClasses", g.nodeClasses.toJson),
  ("edgesClasses", g.edgeClasses.toJson),
  ("nodes", g.nodes.toJson),
  ("edges", g.edges.toJson),
  ("truncated", .bool g.truncated)]

def fieldNames : List String := ["nodesClasses", "edgesClasses", "nodes", "edges", "truncated"]

def read (n : Json.Node) : Option Graph := do
  match ← Json.reading.fields fieldNames n with
  | [nodeClasses, edgeClasses, nodes, edges, truncated] =>
    pure {
      nodeClasses := ← Reading.required ClassTypes.read nodeClasses
      edgeClasses := ← Reading.required ClassTypes.read edgeClasses
      nodes := ← Reading.required ElementSet.read nodes
      edges := ← Reading.required ElementSet.read edges
      truncated := ← Reading.required Json.Node.bool truncated }
  | _ => none

/-- Reads a graph from JSON text. -/
def ofText? (s : String) : Option Graph := Json.readDocument read s

end Graph

end Causeway
