import Causeway.Graph.Json

/-!
Schema summaries: the classes of a data source with their sizes and properties.
-/

namespace Causeway

/-- A property of a class. -/
structure TypeProperty where
  name : String
  type : SemanticType
  deriving DecidableEq

/-- A vertex type, an edge type or a table. -/
structure TypeClass where
  name : String
  cardinality : Nat
  properties : NameMap TypeProperty := NameMap.empty

structure Metadata where
  nodeClasses : NameMap TypeClass := NameMap.empty
  edgeClasses : NameMap TypeClass := NameMap.empty
  deriving Inhabited

namespace TypeProperty

def toJson (p : TypeProperty) : Json :=
  .obj [("name", .string p.name), ("type", p.type.toJson)]

def read (n : Json.Node) : Option TypeProperty := do
  match ← Json.reading.fields ["name", "type"] n with
  | [name, type] =>
    pure {
      name := ← Reading.required Json.Node.text name
      type := ← Reading.required SemanticType.read type }
  | _ => none

end TypeProperty

namespace TypeClass

def withProperty (c : TypeClass) (name : String) (type : SemanticType) : TypeClass :=
  { c with properties := c.properties.insert name ⟨name, type⟩ }

def toJson (c : TypeClass) : Json := .obj [
  ("name", .string c.name),
  ("cardinality", .integer c.cardinality),
  ("properties", c.properties.toJson TypeProperty.toJson)]

def read (n : Json.Node) : Option TypeClass := do
  match ← Json.reading.fields ["name", "cardinality", "properties"] n with
  | [name, cardinality, properties] =>
    pure {
      name := ← Reading.required Json.Node.text name
      cardinality :=
        (← Reading.required (Json.reading.integerWithin 0 Json.greatestInteger) cardinality).toNat
      properties := ← Reading.required (Json.reading.mapOf TypeProperty.read) properties }
  | _ => none

end TypeClass

namespace Metadata

def toJson (m : Metadata) : Json := .obj [
  ("nodesClasses", m.nodeClasses.toJson TypeClass.toJson),
  ("edgesClasses", m.edgeClasses.toJson TypeClass.toJson)]

def read (n : Json.Node) : Option Metadata := do
  match ← Json.reading.fields ["nodesClasses", "edgesClasses"] n with
  | [nodeClasses, edgeClasses] =>
    pure {
      nodeClasses := ← Reading.required (Json.reading.mapOf TypeClass.read) nodeClasses
      edgeClasses := ← Reading.required (Json.reading.mapOf TypeClass.read) edgeClasses }
  | _ => none

end Metadata

end Causeway
