import Causeway.Memory.Provider
import Causeway.Proofs.Graph.ClassTypes
import Causeway.Proofs.Graph.WellFormed
import Causeway.Proofs.Memory.Assembled
import Mathlib.Algebra.BigOperators.Group.List.Lemmas
import Mathlib.Algebra.GroupWithZero.Nat
import Mathlib.Data.List.Dedup

/-!
# The schema that goes with the data

A dataset tells its schema twice: as a summary, and in the registries of the graph of all its elements.
Describing an element in the summary and registering it are the same step as far as the registry goes
(`registerProperties_map`), so both have the same classes and types, and the summary has besides the
properties in which a data source keeps the edges of a vertex (`Datasets.metadata_agrees_with_query`).
The sizes in the summary count the elements of each class.
-/

namespace Causeway

/-- Whether a property is one of those in which a data source keeps the edges of a vertex. -/
def keepsEdges (name : String) : Bool :=
  "in_".toList.isPrefixOf name.toList || "out_".toList.isPrefixOf name.toList

/-- The types of a class as they are told with data. -/
def TypeClass.shownTypes (c : TypeClass) : NameMap SemanticType :=
  (c.properties.filter fun e => !keepsEdges e.1).map fun _ p => p.type

theorem TypeClass.get?_shownTypes (c : TypeClass) (name : String) :
    c.shownTypes.get? name =
      if keepsEdges name then none else (c.properties.get? name).map TypeProperty.type := by
  rw [shownTypes, NameMap.get?_map, NameMap.get?_filter c.properties fun n => !keepsEdges n]
  cases keepsEdges name <;> rfl

/-- Entries that tell how often each name stands in a list add up to the length of the list. -/
theorem NameMap.sum_values_of_counts {α : Type} {m : NameMap α} {f : α → Nat}
    {names : List String} (hnames : ∀ name, m.contains name = true ↔ name ∈ names)
    (hcounts : ∀ name x, m.get? name = some x → f x = names.count name) :
    (m.values.map f).sum = names.length := by
  have hvalues : m.values.map f = m.names.map (names.count ·) := by
    rw [NameMap.values, NameMap.names, List.map_map, List.map_map]
    exact List.map_congr_left fun e he => hcounts e.1 e.2 (Entries.get?_of_mem m.ordered he)
  have hperm : m.names.Perm names.dedup := by
    refine (List.perm_ext_iff_of_nodup m.nodup_names names.nodup_dedup).mpr fun name => ?_
    rw [← NameMap.contains_iff_mem_names, hnames, List.mem_dedup]
  rw [hvalues, (hperm.map _).sum_eq, List.sum_map_count_dedup_eq_length]

namespace Memory

open Causeway.Graph

namespace Dataset

variable {classes : NameMap TypeClass} {names : List String} {cls name : String}

/-- The type of the first scalar value of a name. -/
def firstType? (entries : List (String × Value)) (name : String) : Option SemanticType :=
  (entries.find? fun e => name == e.1 && e.2.isScalar).map fun e => .ofValue e.2

theorem firstType?_cons (e : String × Value) (entries : List (String × Value)) (name : String) :
    firstType? (e :: entries) name =
      (if name = e.1 ∧ e.2.isScalar = true then some (.ofValue e.2) else none).or
        (firstType? entries name) := by
  unfold firstType?
  by_cases hfirst : name = e.1 ∧ e.2.isScalar = true
  · rw [if_pos hfirst, List.find?_cons_of_pos (by simp [hfirst]), Option.map_some, Option.some_or]
  · rw [if_neg hfirst, List.find?_cons_of_neg (by simpa using hfirst), Option.none_or]

/-! ### Registering an element -/

theorem typeOfFirst?_nativeProperties (properties : NameMap Value) (name : String) :
    typeOfFirst? (nativeProperties properties) name =
      if keepsEdges name = false then firstType? properties.entries name else none := by
  have hmatches : ∀ (name' : String) (value : Value),
      let p : NativeProperty := { name := name', value }
      (p.isOf name && p.isTyped) = (!keepsEdges name && (name == name' && value.isScalar)) := by
    intro name' value
    by_cases hname : name = name'
    · subst hname
      simp [NativeProperty.isOf, NativeProperty.isBookkeeping, NativeProperty.isTyped, keepsEdges]
    · simp [NativeProperty.isOf, beq_eq_false_iff_ne.mpr hname,
        beq_eq_false_iff_ne.mpr (Ne.symm hname)]
  rw [typeOfFirst?, nativeProperties, List.find?_map, Option.map_map]
  simp only [Function.comp_def, hmatches]
  cases keepsEdges name with
  | true => simp
  | false => rfl

theorem typeOf?_registerProperties (t : ClassTypes) (label : String) (properties : NameMap Value)
    (cls name : String) :
    (registerProperties t label (nativeProperties properties)).typeOf? cls name =
      (t.typeOf? cls name).or
        (if cls = label ∧ keepsEdges name = false then firstType? properties.entries name
          else none) := by
  rw [Graph.typeOf?_registerProperties, typeOfFirst?_nativeProperties, ite_and]

/-! ### Describing an element -/

/-- Gives a property its type unless it has one. -/
def noteType (c : TypeClass) (e : String × Value) : TypeClass :=
  if e.2.isScalar && !c.properties.contains e.1 then c.withProperty e.1 (.ofValue e.2) else c

/-- Counts one element in its class, and notes the types of its properties. -/
def counted (c : Option TypeClass) (cls : String) (properties : NameMap Value) : TypeClass :=
  let c := c.getD { name := cls, cardinality := 0 }
  properties.entries.foldl noteType { c with cardinality := c.cardinality + 1 }

theorem get?_describe (classes : NameMap TypeClass) (cls : String) (properties : NameMap Value)
    (other : String) :
    (describe classes cls properties).get? other =
      if other = cls then some (counted (classes.get? cls) cls properties) else classes.get? other :=
  NameMap.get?_insert classes cls other _

theorem contains_describe (classes : NameMap TypeClass) (cls : String) (properties : NameMap Value)
    (other : String) :
    (describe classes cls properties).contains other = (classes.contains other || other == cls) := by
  rw [NameMap.contains, get?_describe, NameMap.contains]
  by_cases hcls : other = cls <;> simp [hcls]

theorem noteType_name (c : TypeClass) (e : String × Value) : (noteType c e).name = c.name := by
  unfold noteType
  split <;> rfl

theorem noteType_cardinality (c : TypeClass) (e : String × Value) :
    (noteType c e).cardinality = c.cardinality := by
  unfold noteType
  split <;> rfl

theorem get?_noteType (c : TypeClass) (e : String × Value) (name : String) :
    (noteType c e).properties.get? name = (c.properties.get? name).or
      (if name = e.1 ∧ e.2.isScalar = true then some ⟨name, .ofValue e.2⟩ else none) := by
  unfold noteType
  by_cases hnoted : name = e.1 ∧ e.2.isScalar = true
  · obtain ⟨rfl, hscalar⟩ := hnoted
    cases hproperty : c.properties.get? e.1 with
    | none => simp [hscalar, NameMap.contains, hproperty, TypeClass.withProperty, NameMap.get?_insert]
    | some p => simp [hscalar, NameMap.contains, hproperty]
  · rw [if_neg hnoted, Option.or_none]
    split
    · -- what is noted is of another name
      rename_i hnew
      have hname : name ≠ e.1 := fun heq => hnoted ⟨heq, (Bool.and_eq_true_iff.mp hnew).1⟩
      rw [TypeClass.withProperty, NameMap.get?_insert, if_neg hname]
    · rfl

theorem foldl_noteType (entries : List (String × Value)) (c : TypeClass) :
    (entries.foldl noteType c).name = c.name ∧
      (entries.foldl noteType c).cardinality = c.cardinality ∧
      ∀ name, (entries.foldl noteType c).properties.get? name =
        (c.properties.get? name).or ((firstType? entries name).map (⟨name, ·⟩)) := by
  induction entries generalizing c with
  | nil => exact ⟨rfl, rfl, fun name => (Option.or_none).symm⟩
  | cons e entries ih =>
    obtain ⟨hname, hcardinality, hproperties⟩ := ih (noteType c e)
    refine ⟨hname.trans (noteType_name c e), hcardinality.trans (noteType_cardinality c e), ?_⟩
    intro name
    rw [List.foldl_cons, hproperties, get?_noteType, firstType?_cons, Option.or_assoc]
    split <;> rfl

theorem get?_shownTypes_counted (c : Option TypeClass) (cls : String) (properties : NameMap Value)
    (name : String) :
    (counted c cls properties).shownTypes.get? name =
      (c.bind fun c => c.shownTypes.get? name).or
        (if keepsEdges name = false then firstType? properties.entries name else none) := by
  rw [TypeClass.get?_shownTypes, counted, (foldl_noteType _ _).2.2, Option.map_or, Option.map_map]
  cases hkeeps : keepsEdges name with
  | true => cases c <;> simp [TypeClass.get?_shownTypes, hkeeps]
  | false => cases c <;> simp [TypeClass.get?_shownTypes, hkeeps, Function.comp_def]

/-- Registering an element is describing it, as far as the registry goes. -/
theorem registerProperties_map (classes : NameMap TypeClass) (cls : String)
    (properties : NameMap Value) :
    registerProperties (classes.map fun _ c => c.shownTypes) cls (nativeProperties properties) =
      (describe classes cls properties).map fun _ c => c.shownTypes := by
  have htypeOf? : ∀ (m : NameMap TypeClass) (other name : String),
      ClassTypes.typeOf? (m.map fun _ c => c.shownTypes) other name =
        (m.get? other).bind fun c => c.shownTypes.get? name := by
    intro m other name
    rw [ClassTypes.typeOf?, NameMap.get?_map, Option.bind_map]
    rfl
  refine ClassTypes.ext_iff.mpr ⟨fun other => ?_, fun other name => ?_⟩
  · rw [contains_registerProperties, NameMap.contains_map, NameMap.contains_map, contains_describe]
  · rw [typeOf?_registerProperties, htypeOf?, htypeOf?, get?_describe]
    by_cases hcls : other = cls
    · subst hcls
      rw [if_pos rfl, Option.bind_some, get?_shownTypes_counted]
      simp only [true_and]
    · rw [if_neg (fun h => hcls h.1), if_neg hcls, Option.or_none]

theorem foldl_registerProperties {α : Type} (key : α → String) (properties : α → NameMap Value)
    (l : List α) (classes : NameMap TypeClass) :
    l.foldl (fun t x => registerProperties t (key x) (nativeProperties (properties x)))
        (classes.map fun _ c => c.shownTypes) =
      (l.foldl (fun m x => describe m (key x) (properties x)) classes).map fun _ c => c.shownTypes := by
  induction l generalizing classes with
  | nil => rfl
  | cons x l ih => rw [List.foldl_cons, registerProperties_map, ih, List.foldl_cons]

/-! ### The registries of a graph -/

theorem nativeVertex_properties (d : Dataset) (v : Vertex) :
    (d.nativeVertex v).properties = nativeProperties v.properties :=
  nativeVertex_project (·.properties) (fun _ _ _ => rfl) (fun _ _ _ => rfl) d v

theorem addVertex_nodeClasses (a : Assembler) (d : Dataset) (v : Vertex) :
    (a.addVertex (d.nativeVertex v)).result.nodeClasses =
      registerProperties a.result.nodeClasses v.cls (nativeProperties v.properties) := by
  rw [Assembler.addVertex, nativeVertex_labels, nativeVertex_properties]
  rfl

theorem foldl_add_vertices (a : Assembler) (d : Dataset) (vertices : List Vertex) :
    ((vertices.map fun v => NativeElement.vertex (d.nativeVertex v)).foldl Assembler.add
        a).result.nodeClasses =
      vertices.foldl (fun t v => registerProperties t v.cls (nativeProperties v.properties))
        a.result.nodeClasses ∧
    ((vertices.map fun v => NativeElement.vertex (d.nativeVertex v)).foldl Assembler.add
        a).result.edgeClasses = a.result.edgeClasses := by
  induction vertices generalizing a with
  | nil => exact ⟨rfl, rfl⟩
  | cons v vertices ih =>
    obtain ⟨hnodes, hedges⟩ := ih (a.add (.vertex (d.nativeVertex v)))
    rw [List.map_cons, List.foldl_cons, hnodes, hedges, List.foldl_cons, Assembler.add,
      addVertex_nodeClasses]
    exact ⟨rfl, rfl⟩

theorem foldl_add_edges (a : Assembler) (edges : List Edge) :
    ((edges.map fun e => NativeElement.edge (nativeEdge e)).foldl Assembler.add
        a).result.edgeClasses =
      edges.foldl (fun t e => registerProperties t e.cls (nativeProperties e.properties))
        a.result.edgeClasses ∧
    ((edges.map fun e => NativeElement.edge (nativeEdge e)).foldl Assembler.add
        a).result.nodeClasses = a.result.nodeClasses := by
  induction edges generalizing a with
  | nil => exact ⟨rfl, rfl⟩
  | cons e edges ih =>
    obtain ⟨hedges, hnodes⟩ := ih (a.add (.edge (nativeEdge e)))
    rw [List.map_cons, List.foldl_cons, hedges, hnodes]
    exact ⟨rfl, rfl⟩

/-- A registry of elements that are registered one after the other. -/
def registryOf {α : Type} (key : α → String) (properties : α → NameMap Value) (l : List α) :
    ClassTypes :=
  l.foldl (fun t x => registerProperties t (key x) (nativeProperties (properties x))) NameMap.empty

theorem assemble_registries (d : Dataset) (ds : DataSource) (vertices : List Vertex)
    (edges : List Edge) :
    (d.assemble ds 0 vertices edges).nodeClasses = registryOf Vertex.cls Vertex.properties vertices ∧
      (d.assemble ds 0 vertices edges).edgeClasses = registryOf Edge.cls Edge.properties edges := by
  have hlimit : ((assembler ds).withLimit 0).limit = none := rfl
  rw [assemble, Assembler.ingest_eq_foldl hlimit, nativeElements, List.foldl_append,
    (foldl_add_edges _ _).1, (foldl_add_edges _ _).2, (foldl_add_vertices _ _ _).1,
    (foldl_add_vertices _ _ _).2]
  exact ⟨rfl, rfl⟩

theorem assemble_classes (d : Dataset) (ds : DataSource) :
    (d.assemble ds 0 d.vertices d.edges).nodeClasses =
        d.metadata.nodeClasses.map (fun _ c => c.shownTypes) ∧
      (d.assemble ds 0 d.vertices d.edges).edgeClasses =
        d.metadata.edgeClasses.map fun _ c => c.shownTypes := by
  obtain ⟨hnodes, hedges⟩ := assemble_registries d ds d.vertices d.edges
  rw [hnodes, hedges]
  exact ⟨foldl_registerProperties Vertex.cls Vertex.properties d.vertices NameMap.empty,
    foldl_registerProperties Edge.cls Edge.properties d.edges NameMap.empty⟩

/-! ### Sizes of classes -/

/-- A class of that name with so many elements, its properties under their own names. -/
structure Counts (cls : String) (n : Nat) (c : TypeClass) : Prop where
  name : c.name = cls
  cardinality : c.cardinality = n
  named : ∀ name p, c.properties.get? name = some p → p.name = name

theorem counts_new (cls : String) : Counts cls 0 { name := cls, cardinality := 0 } :=
  ⟨rfl, rfl, fun _ _ hp => nomatch hp⟩

theorem Counts.counted {c : Option TypeClass} {n : Nat}
    (h : Counts cls n (c.getD { name := cls, cardinality := 0 })) (properties : NameMap Value) :
    Counts cls (n + 1) (counted c cls properties) := by
  unfold Dataset.counted
  generalize c.getD { name := cls, cardinality := 0 } = old at h
  obtain ⟨hname, hcardinality, hproperties⟩ :=
    foldl_noteType properties.entries { old with cardinality := old.cardinality + 1 }
  refine ⟨hname.trans h.name, hcardinality.trans (congrArg (· + 1) h.cardinality), ?_⟩
  intro name p hp
  rw [hproperties, Option.or_eq_some_iff] at hp
  rcases hp with hold | ⟨-, hnew⟩
  · exact h.named name p hold
  · obtain ⟨type, -, rfl⟩ := Option.map_eq_some_iff.mp hnew
    rfl

/-- A summary has a class for each of these names, which tells how often the name is among them. -/
structure Tallies (classes : NameMap TypeClass) (names : List String) : Prop where
  contains_iff : ∀ cls, classes.contains cls = true ↔ cls ∈ names
  counts : ∀ cls c, classes.get? cls = some c → Counts cls (names.count cls) c

theorem tallies_empty : Tallies NameMap.empty [] where
  contains_iff := by simp
  counts := by simp

theorem Tallies.describe (h : Tallies classes names) (cls : String) (properties : NameMap Value) :
    Tallies (describe classes cls properties) (names ++ [cls]) := by
  have hold : Counts cls (names.count cls) ((classes.get? cls).getD { name := cls, cardinality := 0 }) := by
    cases hget : classes.get? cls with
    | some c => exact h.counts cls c hget
    | none =>
      -- no class yet, since no element of it has come
      have hnew : cls ∉ names := by
        rw [← h.contains_iff, NameMap.contains, hget]
        exact Bool.false_ne_true
      rw [List.count_eq_zero.mpr hnew]
      exact counts_new cls
  constructor
  · intro other
    rw [contains_describe, Bool.or_eq_true, beq_iff_eq, h.contains_iff, List.mem_append,
      List.mem_singleton]
  · intro other c hc
    rw [get?_describe] at hc
    by_cases hcls : other = cls
    · subst hcls
      rw [if_pos rfl] at hc
      obtain rfl := Option.some.inj hc
      rw [List.count_append, List.count_singleton_self]
      exact hold.counted properties
    · rw [if_neg hcls] at hc
      rw [List.count_append, List.count_singleton, if_neg (by simpa using Ne.symm hcls), Nat.add_zero]
      exact h.counts other c hc

theorem Tallies.foldl {α : Type} (key : α → String) (properties : α → NameMap Value) (l : List α)
    (h : Tallies classes names) :
    Tallies (l.foldl (fun m x => Dataset.describe m (key x) (properties x)) classes)
      (names ++ l.map key) := by
  induction l generalizing classes names with
  | nil => simpa using h
  | cons x l ih =>
    have hrest := ih (h.describe (key x) (properties x))
    rwa [List.append_assoc, List.singleton_append] at hrest

theorem Tallies.sum_cardinality (h : Tallies classes names) :
    (classes.values.map TypeClass.cardinality).sum = names.length :=
  NameMap.sum_values_of_counts h.contains_iff fun cls c hc => (h.counts cls c hc).cardinality

theorem tallies_metadata (d : Dataset) :
    Tallies d.metadata.nodeClasses (d.vertices.map (·.cls)) ∧
      Tallies d.metadata.edgeClasses (d.edges.map (·.cls)) :=
  ⟨tallies_empty.foldl Vertex.cls Vertex.properties d.vertices,
    tallies_empty.foldl Edge.cls Edge.properties d.edges⟩

end Dataset

namespace Datasets

open Dataset

variable {m : Datasets} {ds : DataSource} {d : Dataset}

/-- The graph of all elements has the classes of the summary, and the types of all properties that do
not keep edges. The summary has the classes of the elements, each with the number of its elements. -/
theorem metadata_agrees_with_query (hfind : m.find ds = .ok d) :
    ∃ g schema, m.graphService.serve ds (.query allClasses 0) = .ofExcept (.ok g) ∧
      m.metadataService.serve ds () = .ofExcept (.ok schema) ∧
      g.nodeClasses = schema.nodeClasses.map (fun _ c => c.shownTypes) ∧
      g.edgeClasses = schema.edgeClasses.map (fun _ c => c.shownTypes) ∧
      Tallies schema.nodeClasses (d.vertices.map (·.cls)) ∧
      Tallies schema.edgeClasses (d.edges.map (·.cls)) ∧
      (schema.nodeClasses.values.map (·.cardinality)).sum = d.vertices.length ∧
      (schema.edgeClasses.values.map (·.cardinality)).sum = d.edges.length := by
  have hall : d.answer ds (.query allClasses 0) = .ok (d.assemble ds 0 d.vertices d.edges) := rfl
  obtain ⟨hnodes, hedges⟩ := assemble_classes d ds
  obtain ⟨hvertices, hroads⟩ := tallies_metadata d
  have hsums := And.intro hvertices.sum_cardinality hroads.sum_cardinality
  rw [List.length_map, List.length_map] at hsums
  refine ⟨_, d.metadata, ?_, serve_metadataService hfind, hnodes, hedges, hvertices, hroads, hsums⟩
  rw [serve_graphService hfind, hall]
  rfl

/-- Two ports and a pier, which has the id of a port; depths of two types, a name that is null at first,
and a property that keeps edges. -/
def harbour : Dataset where
  vertices := [
    { id := "#1:0", cls := "Port"
      properties := NameMap.ofList [("depth", .int 12), ("in_Route", .int 3), ("name", .null)] },
    { id := "#1:0", cls := "Pier", properties := NameMap.ofList [("roofed", .bool true)] },
    { id := "#1:1", cls := "Port"
      properties := NameMap.ofList [("depth", .string "deep"), ("name", .string "Ostia")] }]
  edges := [{ id := "#2:0", cls := "Route", source := "#1:0", target := "#1:1" }]

def coast : DataSource := { id := 4, type := tag, name := "coast", database := "harbour" }

def coasts : Datasets := NameMap.ofList [("harbour", harbour)]

theorem metadata_agrees_with_query_harbour :
    coasts.find coast = .ok harbour ∧
      ∃ g schema, coasts.graphService.serve coast (.query allClasses 0) = .ofExcept (.ok g) ∧
        coasts.metadataService.serve coast () = .ofExcept (.ok schema) ∧
        g.nodes.size = 2 ∧ g.nodeClasses.names = ["Pier", "Port"] ∧
        g.nodeClasses.typeOf? "Port" "depth" = some .numeric ∧
        g.nodeClasses.typeOf? "Port" "name" = some .text ∧
        g.nodeClasses.typeOf? "Port" "in_Route" = none ∧
        (schema.nodeClasses.values.map (·.cardinality)).sum = 3 := by
  have hfind : coasts.find coast = .ok harbour := rfl
  obtain ⟨g, schema, hquery, hmetadata, hnodes, -, -, -, hsum, -⟩ := metadata_agrees_with_query hfind
  have hschema := hmetadata
  rw [serve_metadataService hfind] at hschema
  obtain rfl : harbour.metadata = schema := Except.ok.inj (Run.eq_ok_of_ofExcept hschema)
  have hanswer := hquery
  rw [serve_graphService hfind] at hanswer
  obtain rfl : harbour.assemble coast 0 harbour.vertices harbour.edges = g :=
    Except.ok.inj (Run.eq_ok_of_ofExcept hanswer)
  refine ⟨hfind, _, _, hquery, hmetadata, by decide, ?_, ?_, ?_, ?_, hsum⟩
  all_goals
    rw [hnodes]
    decide

end Datasets

end Memory

end Causeway
