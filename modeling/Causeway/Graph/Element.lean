import Causeway.Text.Blank
import Causeway.Value.Basic

/-!
Graph elements as renderers take them, and ordered sets of elements with distinct ids.
-/

namespace Causeway.Graph

open Number

inductive Group where
  | nodes
  | edges
  | unknown
  deriving DecidableEq, Repr, Inhabited

namespace Group

def name : Group → String
  | .nodes => "nodes"
  | .edges => "edges"
  | .unknown => "unk"

def ofName? (s : String) : Option Group := [nodes, edges, unknown].find? fun g => g.name == s

end Group

/-- A hint where to draw an element. -/
structure Position where
  x : Double := .zero false
  y : Double := .zero false
  deriving DecidableEq, Repr, Inhabited

/-- A node or an edge with its record. -/
structure Element where
  /-- The class; several labels have a blank between them. -/
  classes : String
  group : Group
  id : String
  parent : Option String := none
  /-- Where an edge starts; nodes have no ends. -/
  source : Option String := none
  target : Option String := none
  record : NameMap Value := NameMap.empty
  position : Position := {}
  selected : Bool := false
  selectable : Bool := true
  locked : Bool := false
  grabbable : Bool := true
  deriving Inhabited

namespace Element

/-- The single labels of the class text. -/
def labels (e : Element) : List String := Text.wordsOf e.classes

def node (classes id : String) (record : NameMap Value) : Element :=
  { classes, group := .nodes, id, record }

def edge (classes id source target : String) (record : NameMap Value) : Element :=
  { classes, group := .edges, id, source, target, record }

end Element

/-- Elements in insertion order with the position of each id. -/
structure ElementSet where
  elements : Array Element
  positions : NameMap Nat
  deriving Inhabited

namespace ElementSet

def empty : ElementSet := ⟨#[], NameMap.empty⟩

def toList (s : ElementSet) : List Element := s.elements.toList

def size (s : ElementSet) : Nat := s.elements.size

def isEmpty (s : ElementSet) : Bool := s.elements.isEmpty

def contains (s : ElementSet) (id : String) : Bool := s.positions.contains id

/-- Adds an element unless its id is taken. -/
def insert (s : ElementSet) (e : Element) : ElementSet :=
  if s.contains e.id then s
  else ⟨s.elements.push e, s.positions.insert e.id s.elements.size⟩

/-- An `insert` that tells whether the element was added. -/
def offer (s : ElementSet) (e : Element) : Bool × ElementSet :=
  if s.contains e.id then (false, s)
  else (true, ⟨s.elements.push e, s.positions.insert e.id s.elements.size⟩)

def get? (s : ElementSet) (id : String) : Option Element :=
  (s.positions.get? id).bind fun i => s.elements[i]?

def insertAll (s : ElementSet) (l : List Element) : ElementSet := l.foldl insert s

/-- The first element of each id. -/
def ofList (l : List Element) : ElementSet := empty.insertAll l

def ids (s : ElementSet) : List String := s.toList.map (·.id)

end ElementSet

end Causeway.Graph
