import Causeway.Graph.Assembly
import Causeway.Proofs.Graph.ElementSet

/-!
# What an assembler makes

Every native vertex becomes a node and every native edge an edge, inserted in the order in which
they come (`foldl_add_elements`). Without a limit this is all there is to a run (`ingest_eq_foldl`),
and nothing is cut short. What holds of nodes and edges alike is told of a `Kind`.
-/

namespace Causeway.Graph

/-- The two kinds of elements. -/
inductive Kind where
  | node
  | edge
  deriving DecidableEq

theorem Kind.exists_iff {p : Kind → Prop} : (∃ k, p k) ↔ p .node ∨ p .edge := by
  constructor
  · rintro ⟨k, hk⟩
    cases k with
    | node => exact .inl hk
    | edge => exact .inr hk
  · rintro (h | h)
    · exact ⟨_, h⟩
    · exact ⟨_, h⟩

theorem Kind.forall_iff {p : Kind → Prop} : (∀ k, p k) ↔ p .node ∧ p .edge := by
  constructor
  · exact fun h => ⟨h .node, h .edge⟩
  · rintro ⟨hnode, hedge⟩ k
    cases k with
    | node => exact hnode
    | edge => exact hedge

/-- The elements of a kind. -/
def elements (g : Graph) : Kind → ElementSet
  | .node => g.nodes
  | .edge => g.edges

/-- Both sets of elements have the positions of their ids. -/
structure Indexed (g : Graph) : Prop where
  nodes : g.nodes.Indexed
  edges : g.edges.Indexed

theorem Indexed.elements {g : Graph} (h : g.Indexed) (k : Kind) : (g.elements k).Indexed := by
  cases k with
  | node => exact h.nodes
  | edge => exact h.edges

theorem indexed_empty : Graph.empty.Indexed := ⟨ElementSet.indexed_empty, ElementSet.indexed_empty⟩

namespace Assembler

variable {a : Assembler} {x : NativeElement}

/-- The element of a kind that a native element becomes. -/
def elementOf? (a : Assembler) : Kind → NativeElement → Option Element
  | .node, .vertex v => some (a.vertexElement v)
  | .edge, .edge e => some (a.edgeElement e)
  | .node, .edge _ | .edge, .vertex _ => none

@[simp]
theorem add_limit (a : Assembler) (x : NativeElement) : (a.add x).limit = a.limit := by
  cases x <;> rfl

@[simp]
theorem add_truncated (a : Assembler) (x : NativeElement) :
    (a.add x).result.truncated = a.result.truncated := by
  cases x <;> rfl

@[simp]
theorem elementOf?_add (a : Assembler) (x : NativeElement) : (a.add x).elementOf? = a.elementOf? := by
  funext k y
  cases k <;> cases y <;> cases x <;> rfl

theorem add_elements (a : Assembler) (x : NativeElement) (k : Kind) :
    (a.add x).result.elements k = (a.result.elements k).insertAll (a.elementOf? k x).toList := by
  cases k <;> cases x <;> rfl

theorem indexed_add (h : a.result.Indexed) (x : NativeElement) : (a.add x).result.Indexed := by
  cases x with
  | vertex v => exact ⟨h.nodes.insert _, h.edges⟩
  | edge e => exact ⟨h.nodes, h.edges.insert _⟩

theorem indexed_ingest (ha : a.result.Indexed) (xs : List NativeElement) :
    (a.ingest xs).result.Indexed := by
  induction xs generalizing a with
  | nil => exact ha
  | cons x xs ih =>
    rw [ingest]
    split
    · exact ⟨ha.nodes, ha.edges⟩
    · exact ih (indexed_add ha x)

theorem indexed_foldl_add (ha : a.result.Indexed) (xs : List NativeElement) :
    (xs.foldl add a).result.Indexed := by
  induction xs generalizing a with
  | nil => exact ha
  | cons x xs ih => exact ih (indexed_add ha x)

theorem isFull_of_unlimited (hlimit : a.limit = none) : a.isFull = false := by
  simp [isFull, hlimit]

theorem ingest_cons_of_unlimited (hlimit : a.limit = none) (xs : List NativeElement) :
    a.ingest (x :: xs) = (a.add x).ingest xs := by
  rw [ingest, isFull_of_unlimited hlimit]
  rfl

/-- Without a limit, every element is added. -/
theorem ingest_eq_foldl (hlimit : a.limit = none) (xs : List NativeElement) :
    a.ingest xs = xs.foldl add a := by
  induction xs generalizing a with
  | nil => rfl
  | cons x xs ih => rw [ingest_cons_of_unlimited hlimit, ih (by simpa using hlimit), List.foldl_cons]

theorem foldl_add_elements (a : Assembler) (xs : List NativeElement) (k : Kind) :
    (xs.foldl add a).result.elements k =
      (a.result.elements k).insertAll (xs.filterMap (a.elementOf? k)) := by
  induction xs generalizing a with
  | nil => rfl
  | cons x xs ih =>
    rw [List.foldl_cons, ih, add_elements, elementOf?_add]
    cases hx : a.elementOf? k x with
    | none => rw [List.filterMap_cons_none hx]; rfl
    | some e => rw [List.filterMap_cons_some hx]; rfl

theorem foldl_add_truncated (a : Assembler) (xs : List NativeElement) :
    (xs.foldl add a).result.truncated = a.result.truncated := by
  induction xs generalizing a with
  | nil => rfl
  | cons x xs ih => rw [List.foldl_cons, ih, add_truncated]

/-- Vertices and then edges. -/
def verticesThenEdges (vs : List NativeVertex) (es : List NativeEdge) : List NativeElement :=
  vs.map .vertex ++ es.map .edge

/-- The elements of a kind that vertices and edges become. -/
def elementsOf (a : Assembler) (vs : List NativeVertex) (es : List NativeEdge) :
    Kind → List Element
  | .node => vs.map a.vertexElement
  | .edge => es.map a.edgeElement

theorem filterMap_elementOf? (a : Assembler) (vs : List NativeVertex) (es : List NativeEdge)
    (k : Kind) : (verticesThenEdges vs es).filterMap (a.elementOf? k) = a.elementsOf vs es k := by
  rw [verticesThenEdges, List.filterMap_append, List.filterMap_map, List.filterMap_map]
  cases k <;> simp [elementsOf, elementOf?, Function.comp_def]

theorem ingest_elements (hlimit : a.limit = none) (xs : List NativeElement) (k : Kind) :
    (a.ingest xs).result.elements k =
      (a.result.elements k).insertAll (xs.filterMap (a.elementOf? k)) := by
  rw [ingest_eq_foldl hlimit, foldl_add_elements]

theorem ingest_truncated (hlimit : a.limit = none) (xs : List NativeElement) :
    (a.ingest xs).result.truncated = a.result.truncated := by
  rw [ingest_eq_foldl hlimit, foldl_add_truncated]

/-! ### Records of nodes -/

/-- The counters stand in front of properties of their names. -/
theorem get?_vertexRecord (v : NativeVertex) :
    (vertexRecord v).get? inKey = some (countsValue v.inEdges) ∧
      (vertexRecord v).get? outKey = some (countsValue v.outEdges) ∧
      (vertexRecord v).get? edgeCountKey = some (Value.ofInteger v.edgeCount) := by
  simp [vertexRecord, NameMap.get?_insert, inKey, outKey, edgeCountKey]

/-- Beside the counters a node's record is that of the properties. -/
theorem get?_vertexRecord_of_not_mem (v : NativeVertex) {name : String}
    (hname : name ∉ [inKey, outKey, edgeCountKey]) :
    (vertexRecord v).get? name = (recordOf v.properties).get? name := by
  simp only [List.mem_cons, List.not_mem_nil, or_false, not_or] at hname
  obtain ⟨hin, hout, hall⟩ := hname
  rw [vertexRecord, NameMap.get?_insert, if_neg hall, NameMap.get?_insert, if_neg hout,
    NameMap.get?_insert, if_neg hin]

end Assembler

end Causeway.Graph
