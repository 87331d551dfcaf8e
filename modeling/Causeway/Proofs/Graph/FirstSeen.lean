import Causeway.Proofs.Graph.Consumed
import Mathlib.Data.List.Find

/-!
# First types and last values

The type that an assembler registers for a property is that of the first occurrence that has one, among
everything consumed under the class, kept or dropped (`typeOf?_foldl_add`). The value that a record
holds is that of the last occurrence on the vertex itself (`get?_recordOf`), and the vertex is the first
one of its id (`get?_ofList_filterMap`). No operation takes any of this back
(`first_type_last_value`).
-/

namespace Causeway.Graph

/-- The value of the last occurrence. -/
def lastValue? (properties : List NativeProperty) (name : String) : Option Value :=
  (properties.findRev? (NativeProperty.isOf name)).map (·.value)

/-- The properties that a vertex has under a label. -/
def NativeElement.vertexProperties (label : String) : NativeElement → List NativeProperty
  | .vertex v => if label ∈ v.labels then v.properties else []
  | .edge _ => []

def NativeElement.edgeProperties (label : String) : NativeElement → List NativeProperty
  | .vertex _ => []
  | .edge e => if label = e.label then e.properties else []

variable {name cls id : String}

/-! ### Types -/

theorem typeOf?_foldl_registerProperties (t : ClassTypes) (labels : List String)
    (properties : List NativeProperty) (cls name : String) :
    (labels.foldl (fun t label => registerProperties t label properties) t).typeOf? cls name =
      (t.typeOf? cls name).or (if cls ∈ labels then typeOfFirst? properties name else none) := by
  induction labels generalizing t with
  | nil => simp
  | cons label labels ih =>
    rw [List.foldl_cons, ih, typeOf?_registerProperties, Option.or_assoc]
    by_cases hcls : cls = label
    · by_cases hlater : label ∈ labels <;> simp [hcls, hlater]
    · simp [hcls]

namespace Assembler

theorem typeOf?_add (a : Assembler) (x : NativeElement) (cls name : String) :
    (a.add x).result.nodeClasses.typeOf? cls name =
        (a.result.nodeClasses.typeOf? cls name).or (typeOfFirst? (x.vertexProperties cls) name) ∧
      (a.add x).result.edgeClasses.typeOf? cls name =
        (a.result.edgeClasses.typeOf? cls name).or (typeOfFirst? (x.edgeProperties cls) name) := by
  have hnone : typeOfFirst? [] name = none := rfl
  cases x with
  | vertex v =>
    constructor
    · rw [NativeElement.vertexProperties, apply_ite (typeOfFirst? · name), hnone]
      exact typeOf?_foldl_registerProperties a.result.nodeClasses v.labels v.properties cls name
    · exact Option.or_none.symm
  | edge e =>
    constructor
    · exact Option.or_none.symm
    · rw [NativeElement.edgeProperties, apply_ite (typeOfFirst? · name), hnone]
      exact typeOf?_registerProperties a.result.edgeClasses e.label e.properties cls name

theorem typeOf?_foldl_add (a : Assembler) (xs : List NativeElement) (cls name : String) :
    (xs.foldl add a).result.nodeClasses.typeOf? cls name =
        (a.result.nodeClasses.typeOf? cls name).or
          (typeOfFirst? (xs.flatMap (·.vertexProperties cls)) name) ∧
      (xs.foldl add a).result.edgeClasses.typeOf? cls name =
        (a.result.edgeClasses.typeOf? cls name).or
          (typeOfFirst? (xs.flatMap (·.edgeProperties cls)) name) := by
  induction xs generalizing a with
  | nil => exact ⟨Option.or_none.symm, Option.or_none.symm⟩
  | cons x xs ih =>
    obtain ⟨hnodes, hedges⟩ := a.typeOf?_add x cls name
    rw [List.foldl_cons, (ih _).1, (ih _).2, hnodes, hedges, List.flatMap_cons, List.flatMap_cons,
      typeOfFirst?_append, typeOfFirst?_append, Option.or_assoc, Option.or_assoc]
    exact ⟨rfl, rfl⟩

/-- What is registered stays, whatever is done afterwards. -/
theorem typeOf?_run (a : Assembler) (operations : List Operation) (cls name : String) :
    (a.run operations).result.nodeClasses.typeOf? cls name =
        (a.result.nodeClasses.typeOf? cls name).or
          (typeOfFirst? ((a.consumed operations).flatMap (·.vertexProperties cls)) name) ∧
      (a.run operations).result.edgeClasses.typeOf? cls name =
        (a.result.edgeClasses.typeOf? cls name).or
          (typeOfFirst? ((a.consumed operations).flatMap (·.edgeProperties cls)) name) := by
  obtain ⟨limit, truncated, hrun⟩ := a.exists_run_eq operations
  rw [hrun]
  exact a.typeOf?_foldl_add (a.consumed operations) cls name

end Assembler

/-! ### Records -/

theorem get?_recordOf (properties : List NativeProperty) (name : String) :
    (recordOf properties).get? name = lastValue? properties name := by
  rw [recordOf, NameMap.get?_ofList_map, lastValue?, List.findRev?_eq_find?_reverse,
    List.findRev?_eq_find?_reverse, ← List.filter_reverse, List.find?_filter]
  refine congrArg (Option.map _) (List.find?_congr fun p _ => ?_)
  rw [NativeProperty.isOf, Bool.and_comm]
  simp [beq_eq_decide]

/-- Among elements made from a list, the first one of an id is found. -/
theorem ElementSet.get?_ofList_filterMap {α : Type} {f : α → Option Element} {xs : List α}
    {x : Element} : (ofList (xs.filterMap f)).get? id = some x ↔
      ∃ earlier y later, xs = earlier ++ y :: later ∧ f y = some x ∧ x.id = id ∧
        ∀ z ∈ earlier, ∀ e, f z = some e → e.id ≠ id := by
  rw [get?_ofList, List.find?_eq_some_iff_append]
  constructor
  · rintro ⟨hid, before, after, hsplit, hbefore⟩
    obtain ⟨front, back, rfl, rfl, hback⟩ := List.filterMap_eq_append_iff.mp hsplit
    obtain ⟨passed, y, later, rfl, hpassed, hy, -⟩ := List.filterMap_eq_cons_iff.mp hback
    refine ⟨front ++ passed, y, later, by simp, hy, by simpa using hid, fun z hz e he => ?_⟩
    rcases List.mem_append.mp hz with hz | hz
    · simpa using hbefore e (List.mem_filterMap.mpr ⟨z, hz, he⟩)
    · rw [hpassed z hz] at he
      cases he
  · rintro ⟨earlier, y, later, rfl, hy, hid, hearlier⟩
    refine ⟨by simpa using hid, earlier.filterMap f, later.filterMap f, ?_, fun e he => ?_⟩
    · rw [List.filterMap_append, List.filterMap_cons_some hy]
    · obtain ⟨z, hz, he⟩ := List.mem_filterMap.mp he
      simpa using hearlier z hz e he

namespace Assembler

variable {a : Assembler} {xs : List NativeElement}

/-- Two vertices, or two edges, that get the same id. -/
def Clash (a : Assembler) : NativeElement → NativeElement → Prop
  | .vertex v, .vertex w => a.encode v.id = a.encode w.id
  | .edge e, .edge f => a.encode e.id = a.encode f.id
  | _, _ => False

/-- An element is kept if no earlier one has its id. -/
def Keeps (a : Assembler) (xs : List NativeElement) (x : NativeElement) : Prop :=
  ∃ earlier later, xs = earlier ++ x :: later ∧ ∀ y ∈ earlier, ¬a.Clash y x

theorem clash_iff_elementOf? (a : Assembler) {k : Kind} (x : NativeElement) {e : Element}
    (he : a.elementOf? k x = some e) (y : NativeElement) :
    a.Clash y x ↔ ∃ e', a.elementOf? k y = some e' ∧ e'.id = e.id := by
  cases k <;> cases x <;> cases he <;> cases y <;>
    simp [Clash, elementOf?, vertexElement, edgeElement, Element.node, Element.edge]

/-- The set finds what is made of the kept elements of its kind. -/
theorem get?_ofList_iff_keeps {k : Kind} {e : Element} :
    (ElementSet.ofList (xs.filterMap (a.elementOf? k))).get? id = some e ↔
      ∃ x, a.Keeps xs x ∧ a.elementOf? k x = some e ∧ e.id = id := by
  rw [ElementSet.get?_ofList_filterMap]
  constructor
  · rintro ⟨earlier, x, later, rfl, hx, rfl, hearlier⟩
    refine ⟨x, ⟨earlier, later, rfl, fun y hy hsame => ?_⟩, hx, rfl⟩
    obtain ⟨e', he', hid⟩ := (a.clash_iff_elementOf? x hx y).mp hsame
    exact hearlier y hy e' he' hid
  · rintro ⟨x, ⟨earlier, later, rfl, hearlier⟩, hx, rfl⟩
    refine ⟨earlier, x, later, rfl, hx, rfl, fun y hy e' he' hid => ?_⟩
    exact hearlier y hy ((a.clash_iff_elementOf? x hx y).mpr ⟨e', he', hid⟩)

theorem get?_of_keeps {k : Kind} {x : NativeElement} {e : Element} (hx : a.Keeps xs x)
    (he : a.elementOf? k x = some e) :
    (ElementSet.ofList (xs.filterMap (a.elementOf? k))).get? e.id = some e :=
  get?_ofList_iff_keeps.mpr ⟨x, hx, he, rfl⟩

theorem exists_keeps_of_mem {k : Kind} {e : Element}
    (he : e ∈ (ElementSet.ofList (xs.filterMap (a.elementOf? k))).toList) :
    ∃ x, a.Keeps xs x ∧ a.elementOf? k x = some e := by
  have hget := (ElementSet.indexed_ofList _).get?_eq_some_iff.mpr ⟨he, rfl⟩
  obtain ⟨x, hx, hmade, -⟩ := get?_ofList_iff_keeps.mp hget
  exact ⟨x, hx, hmade⟩

/-- The nodes are those of the kept vertices. Beside their counters, they have the properties of these
vertices. -/
structure NodesOf (a : Assembler) (xs : List NativeElement) (nodes : ElementSet) : Prop where
  kept : ∀ v, a.Keeps xs (.vertex v) → ∃ x, nodes.get? (a.encode v.id) = some x ∧
    ∀ name ∉ [inKey, outKey, edgeCountKey], x.record.get? name = lastValue? v.properties name
  only : ∀ x ∈ nodes.toList, ∃ v, a.Keeps xs (.vertex v) ∧ x.id = a.encode v.id

/-- The edges are those of the kept ones, and have their properties. -/
structure EdgesOf (a : Assembler) (xs : List NativeElement) (edges : ElementSet) : Prop where
  kept : ∀ e, a.Keeps xs (.edge e) → ∃ x, edges.get? (a.encode e.id) = some x ∧
    ∀ name, x.record.get? name = lastValue? e.properties name
  only : ∀ x ∈ edges.toList, ∃ e, a.Keeps xs (.edge e) ∧ x.id = a.encode e.id

theorem nodesOf_ofList (a : Assembler) (xs : List NativeElement) :
    a.NodesOf xs (.ofList (xs.filterMap (a.elementOf? .node))) where
  kept v hv := by
    have hmade : a.elementOf? .node (.vertex v) = some (a.vertexElement v) := rfl
    refine ⟨a.vertexElement v, get?_of_keeps hv hmade, fun name hname => ?_⟩
    exact (get?_vertexRecord_of_not_mem v hname).trans (get?_recordOf v.properties name)
  only x hx := by
    obtain ⟨y, hy, hnode⟩ := exists_keeps_of_mem hx
    cases y with
    | vertex v => exact ⟨v, hy, congrArg Element.id (Option.some.inj hnode).symm⟩
    | edge => cases hnode

theorem edgesOf_ofList (a : Assembler) (xs : List NativeElement) :
    a.EdgesOf xs (.ofList (xs.filterMap (a.elementOf? .edge))) where
  kept e he := by
    have hmade : a.elementOf? .edge (.edge e) = some (a.edgeElement e) := rfl
    exact ⟨a.edgeElement e, get?_of_keeps he hmade, get?_recordOf e.properties⟩
  only x hx := by
    obtain ⟨y, hy, hedge⟩ := exists_keeps_of_mem hx
    cases y with
    | vertex => cases hedge
    | edge e => exact ⟨e, hy, congrArg Element.id (Option.some.inj hedge).symm⟩

/-- Whatever is done with an assembler, the type of a property in a class is that of its first typed
occurrence among all that was consumed of the class, and stays that. What is kept has the properties of
the first element of its id, each with its last value there. -/
theorem first_type_last_value (dataSource : Int) (scheme : IdScheme) (operations : List Operation) :
    let a : Assembler := { dataSource, scheme }
    let g := (a.run operations).result
    let xs := a.consumed operations
    (∀ cls name,
        g.nodeClasses.typeOf? cls name = typeOfFirst? (xs.flatMap (·.vertexProperties cls)) name ∧
        g.edgeClasses.typeOf? cls name = typeOfFirst? (xs.flatMap (·.edgeProperties cls)) name) ∧
      (∀ later cls name type,
        let g' := (a.run (operations ++ later)).result
        (g.nodeClasses.typeOf? cls name = some type → g'.nodeClasses.typeOf? cls name = some type) ∧
        (g.edgeClasses.typeOf? cls name = some type →
          g'.edgeClasses.typeOf? cls name = some type)) ∧
      a.NodesOf xs g.nodes ∧ a.EdgesOf xs g.edges := by
  intro a g xs
  refine ⟨fun cls name => a.typeOf?_run operations cls name, fun later cls name type => ?_, ?_⟩
  · -- what comes later is a run of what there is
    have hrun : a.run (operations ++ later) = (a.run operations).run later := List.foldl_append
    obtain ⟨hnodes, hedges⟩ := (a.run operations).typeOf?_run later cls name
    rw [hrun]
    exact ⟨fun h => by rw [hnodes, h, Option.some_or], fun h => by rw [hedges, h, Option.some_or]⟩
  · have hnodes : g.nodes = .ofList (xs.filterMap (a.elementOf? .node)) :=
      a.elements_run operations .node
    have hedges : g.edges = .ofList (xs.filterMap (a.elementOf? .edge)) :=
      a.elements_run operations .edge
    rw [hnodes, hedges]
    exact ⟨a.nodesOf_ofList xs, a.edgesOf_ofList xs⟩

def ship (built : Value) : NativeVertex where
  id := "#1:0"
  labels := ["Ship"]
  properties := [{ name := "built", value := built }]

/-- The vertex that comes second is dropped, but it is the first that tells a type. -/
theorem first_type_last_value_ship :
    let a : Assembler := { dataSource := 1, scheme := .record }
    let operations := [Operation.addVertex (ship .null), .addVertex (ship (.int 1912))]
    let g := (a.run operations).result
    g.nodeClasses.typeOf? "Ship" "built" = some .numeric ∧
      (∀ later, (a.run (operations ++ later)).result.nodeClasses.typeOf? "Ship" "built" =
        some .numeric) ∧
      ∃ x, g.nodes.get? "1_1_0" = some x ∧ x.record.get? "built" = some .null := by
  intro a operations g
  obtain ⟨htypes, hstays, hnodes, -⟩ := first_type_last_value 1 .record operations
  have htype : g.nodeClasses.typeOf? "Ship" "built" = some .numeric :=
    (htypes "Ship" "built").1.trans (by decide)
  obtain ⟨x, hx, hrecord⟩ := hnodes.kept (ship .null) ⟨[], _, rfl, by simp⟩
  exact ⟨htype, fun later => (hstays later "Ship" "built" .numeric).1 htype,
    x, hx, hrecord "built" (by decide)⟩

end Assembler

end Causeway.Graph
