import Causeway.Proofs.Graph.Merge
import Causeway.Proofs.Memory.Index
import Causeway.Proofs.Memory.Limit
import Causeway.Proofs.Memory.Schema

/-!
# Classes are the parts of a dataset

What is registered for a class depends on the elements of this class alone
(`typeOf?_registryOf`), and so does an element that is handed out. So the answers to queries for single
classes, merged in any order, are the answer to the query for everything (`query_partition`).
-/

namespace Causeway

namespace Graph

variable {g : Graph} {parts : List Graph}

/-- The classes of a kind. -/
def classes (g : Graph) : Kind → ClassTypes
  | .node => g.nodeClasses
  | .edge => g.edgeClasses

theorem foldl_merge_classes (parts : List Graph) (g : Graph) (k : Kind) :
    (parts.foldl merge g).classes k = parts.foldl (fun t p => t.merge (p.classes k)) (g.classes k) := by
  refine (List.foldl_hom (classes · k) fun g p => ?_).symm
  cases k <;> rfl

theorem foldl_merge_elements (parts : List Graph) (g : Graph) (k : Kind) :
    (parts.foldl merge g).elements k =
      (g.elements k).insertAll (parts.flatMap fun p => (p.elements k).toList) := by
  induction parts generalizing g with
  | nil => rfl
  | cons p parts ih =>
    rw [List.foldl_cons, ih, List.flatMap_cons, ElementSet.insertAll_append]
    cases k <;> rfl

theorem foldl_merge_truncated (parts : List Graph) (g : Graph) :
    (parts.foldl merge g).truncated = (g.truncated || parts.any (·.truncated)) := by
  induction parts generalizing g with
  | nil => simp
  | cons p parts ih => rw [List.foldl_cons, ih, List.any_cons, ← Bool.or_assoc]; rfl

end Graph

namespace ClassTypes

theorem contains_foldl_merge (parts : List ClassTypes) (t : ClassTypes) (cls : String) :
    NameMap.contains (parts.foldl merge t) cls =
      (NameMap.contains t cls || parts.any fun u => NameMap.contains u cls) := by
  induction parts generalizing t with
  | nil => simp
  | cons u parts ih => rw [List.foldl_cons, ih, contains_merge, List.any_cons, Bool.or_assoc]

theorem typeOf?_foldl_merge (parts : List ClassTypes) (t : ClassTypes) (cls property : String) :
    (parts.foldl merge t).typeOf? cls property =
      (t.typeOf? cls property).or (parts.findSome? fun u => u.typeOf? cls property) := by
  induction parts generalizing t with
  | nil => simp
  | cons u parts ih =>
    rw [List.foldl_cons, ih, typeOf?_merge, List.findSome?_cons, Option.or_assoc]
    cases u.typeOf? cls property <;> rfl

end ClassTypes

namespace Memory

namespace Dataset

open Causeway.Graph

/-! ### Registries of single classes -/

section Registry

variable {α : Type} {key : α → String} {properties : α → NameMap Value} {l : List α}
  {cls other name : String}

theorem contains_registryOf (key : α → String) (properties : α → NameMap Value) (l : List α)
    (cls : String) :
    NameMap.contains (registryOf key properties l) cls = l.any (key · == cls) := by
  suffices h : ∀ t : ClassTypes,
      NameMap.contains (l.foldl (fun t x =>
        registerProperties t (key x) (nativeProperties (properties x))) t) cls =
        (NameMap.contains t cls || l.any (key · == cls)) from h NameMap.empty
  induction l with
  | nil => simp
  | cons x l ih =>
    intro t
    rw [List.foldl_cons, ih, contains_registerProperties, List.any_cons, Bool.or_assoc,
      BEq.comm (a := cls)]

/-- The type of a property is that of the first element of the class that has one. -/
theorem typeOf?_registryOf (key : α → String) (properties : α → NameMap Value) (l : List α)
    (cls name : String) :
    (registryOf key properties l).typeOf? cls name =
      if keepsEdges name then none
      else (l.filter (key · == cls)).findSome? fun x => firstType? (properties x).entries name := by
  suffices h : ∀ t : ClassTypes,
      (l.foldl (fun t x =>
        registerProperties t (key x) (nativeProperties (properties x))) t).typeOf? cls name =
        (t.typeOf? cls name).or (if keepsEdges name then none
          else (l.filter (key · == cls)).findSome? fun x => firstType? (properties x).entries name) from
    h NameMap.empty
  induction l with
  | nil => simp
  | cons x l ih =>
    intro t
    rw [List.foldl_cons, ih, typeOf?_registerProperties, Option.or_assoc]
    congr 1
    by_cases hcls : key x = cls
    · rw [List.filter_cons_of_pos (by simpa using hcls), List.findSome?_cons]
      cases keepsEdges name with
      | true => simp
      | false => cases firstType? (properties x).entries name <;> simp [hcls]
    · rw [List.filter_cons_of_neg (by simpa using hcls), if_neg fun h => hcls h.1.symm]
      exact Option.none_or

/-- The elements of one class among those of another one. -/
theorem filter_filter_class (key : α → String) (l : List α) (cls other : String) :
    (l.filter (key · == cls)).filter (key · == other) =
      if cls = other then l.filter (key · == other) else [] := by
  rw [List.filter_filter]
  split
  · rename_i heq
    subst heq
    simp
  · rename_i hne
    refine List.filter_eq_nil_iff.mpr fun x _ => ?_
    simp only [Bool.and_eq_true, beq_iff_eq, not_and]
    rintro rfl rfl
    exact hne rfl

theorem findSome?_guarded {β : Type} (classes : List String) (other : String) (r : Option β) :
    (classes.findSome? fun cls => if cls = other then r else none) =
      if other ∈ classes then r else none := by
  induction classes with
  | nil => rfl
  | cons cls classes ih =>
    rw [List.findSome?_cons, ih]
    by_cases hcls : cls = other
    · subst hcls
      cases r <;> simp
    · simp [hcls, Ne.symm hcls]

/-- The registries of all classes, merged in any order. -/
theorem foldl_merge_registryOf {classes : List String} (hall : ∀ x ∈ l, key x ∈ classes) :
    (classes.map fun cls => registryOf key properties (l.filter (key · == cls))).foldl
        ClassTypes.merge NameMap.empty =
      registryOf key properties l := by
  refine ClassTypes.ext_iff.mpr ⟨fun other => ?_, fun other name => ?_⟩
  · rw [ClassTypes.contains_foldl_merge, NameMap.contains_empty, Bool.false_or, contains_registryOf,
      List.any_map, Bool.eq_iff_iff, List.any_eq_true, List.any_eq_true]
    simp only [Function.comp_apply, contains_registryOf, List.any_eq_true]
    constructor
    · rintro ⟨cls, -, x, hx, hkey⟩
      exact ⟨x, List.mem_of_mem_filter hx, hkey⟩
    · rintro ⟨x, hx, hkey⟩
      exact ⟨key x, hall x hx, x, List.mem_filter.mpr ⟨hx, beq_self_eq_true _⟩, hkey⟩
  · have hempty : ClassTypes.typeOf? NameMap.empty other name = none := rfl
    rw [ClassTypes.typeOf?_foldl_merge, hempty, Option.none_or, List.findSome?_map]
    -- only the registry of the class itself has types of it
    have hpart : ∀ cls, (registryOf key properties (l.filter (key · == cls))).typeOf? other name =
        if cls = other then (registryOf key properties l).typeOf? other name else none := by
      intro cls
      rw [typeOf?_registryOf, typeOf?_registryOf, filter_filter_class]
      by_cases heq : cls = other <;> simp [heq]
    simp only [Function.comp_def, hpart]
    rw [findSome?_guarded]
    split
    · rfl
    · rename_i hnot
      have hnone : l.filter (key · == other) = [] := by
        refine List.filter_eq_nil_iff.mpr fun x hx hkey => hnot ?_
        exact beq_iff_eq.mp hkey ▸ hall x hx
      rw [typeOf?_registryOf, hnone]
      simp

end Registry

/-! ### Elements of single classes -/

section Parts

variable {α : Type} {key : α → String} {element : α → Element} {l : List α} {classes : List String}

theorem nodup_ids_filter (hnodup : (l.map fun x => (element x).id).Nodup) (p : α → Bool) :
    (((l.filter p).map element).map (·.id)).Nodup := by
  rw [List.map_map]
  exact (List.filter_sublist.map _).nodup hnodup

/-- Sets of the elements of single classes, put together in any order, are the set of all elements. -/
theorem perm_insertAll_parts (hnodup : (l.map fun x => (element x).id).Nodup)
    (hclasses : classes.Nodup) (hall : ∀ x ∈ l, key x ∈ classes) :
    (ElementSet.ofList (classes.flatMap fun cls =>
        (ElementSet.ofList ((l.filter (key · == cls)).map element)).toList)).toList.Perm
      (ElementSet.ofList (l.map element)).toList := by
  have hparts : ∀ cls, (ElementSet.ofList ((l.filter (key · == cls)).map element)).toList =
      (l.filter (key · == cls)).map element := fun cls =>
    ElementSet.toList_ofList_of_nodup (nodup_ids_filter hnodup _)
  have hwhole : l.filter (key · ∈ classes) = l :=
    List.filter_eq_self.mpr fun x hx => decide_eq_true (hall x hx)
  have hperm := (perm_flatMap_filter key hclasses l).map element
  rw [hwhole, List.map_flatMap] at hperm
  simp only [hparts]
  rw [ElementSet.toList_ofList_of_nodup, ElementSet.toList_ofList_of_nodup]
  · exact hperm
  · rwa [List.map_map]
  · refine ((hperm.map (·.id)).nodup_iff).mpr ?_
    rwa [List.map_map]

/-- An id is in the part of one class only. -/
theorem not_mem_two_parts (hnodup : (l.map fun x => (element x).id).Nodup) {cls other : String}
    (hne : cls ≠ other) {id : String}
    (h : id ∈ (ElementSet.ofList ((l.filter (key · == cls)).map element)).ids) :
    id ∉ (ElementSet.ofList ((l.filter (key · == other)).map element)).ids := by
  intro h'
  rw [ElementSet.mem_ids_ofList, List.map_map] at h h'
  obtain ⟨x, hx, hxid⟩ := List.mem_map.mp h
  obtain ⟨y, hy, hyid⟩ := List.mem_map.mp h'
  obtain ⟨hxl, hxcls⟩ := List.mem_filter.mp hx
  obtain ⟨hyl, hycls⟩ := List.mem_filter.mp hy
  obtain rfl : x = y := List.inj_on_of_nodup_map hnodup hxl hyl (hxid.trans hyid.symm)
  exact hne ((beq_iff_eq.mp hxcls).symm.trans (beq_iff_eq.mp hycls))

end Parts

/-! ### Queries for single classes -/

/-- A class of vertices or of edges. -/
def IsClass (d : Dataset) (cls : String) : Prop :=
  (∃ v ∈ d.vertices, v.cls = cls) ∨ ∃ e ∈ d.edges, e.cls = cls

/-- Distinct ids, and classes for which a query can ask. -/
structure Partible (d : Dataset) (ds : DataSource) : Prop where
  vertexIds : (d.vertices.map fun v => scheme.encode ds.id v.id).Nodup
  edgeIds : (d.edges.map fun e => scheme.encode ds.id e.id).Nodup
  classes : ∀ cls, d.IsClass cls → Text.trimmed cls = cls ∧ cls ≠ "" ∧ cls ≠ allClasses

/-- The graph of the elements of one class. -/
def part (d : Dataset) (ds : DataSource) (cls : String) : Graph :=
  d.assemble ds 0 (d.verticesOf cls) (d.edgesOf cls)

variable {d : Dataset} {ds : DataSource} {classes : List String} {cls other id : String}

theorem query_of_isClass (hcls : d.IsClass cls) (htrimmed : Text.trimmed cls = cls)
    (hempty : cls ≠ "") (hstar : cls ≠ allClasses) (limit : Nat) :
    d.query ds cls limit = .ok (d.assemble ds limit (d.verticesOf cls) (d.edgesOf cls)) := by
  have hknown : (d.vertexClasses.contains cls || d.edgeClasses.contains cls) = true := by
    rw [Bool.or_eq_true, NameMap.contains_iff_mem_names, NameMap.contains_iff_mem_names,
      d.groupedByClass.vertices.2, d.groupedByClass.edges.2]
    exact hcls
  unfold query
  rw [htrimmed, if_neg (not_or.mpr ⟨hempty, hstar⟩), if_pos hknown]

theorem query_class (hd : d.Partible ds) (hcls : d.IsClass cls) :
    d.query ds cls 0 = .ok (d.part ds cls) := by
  obtain ⟨htrimmed, hempty, hstar⟩ := hd.classes cls hcls
  exact query_of_isClass hcls htrimmed hempty hstar 0

theorem assemble_truncated (d : Dataset) (ds : DataSource) (vertices : List Vertex)
    (edges : List Edge) : (d.assemble ds 0 vertices edges).truncated = false := by
  rw [assemble, Assembler.ingest_truncated rfl]
  rfl

/-- The same registries, the same elements and the same mark. -/
structure SameParts (g h : Graph) : Prop where
  nodeClasses : g.nodeClasses = h.nodeClasses
  edgeClasses : g.edgeClasses = h.edgeClasses
  nodes : g.nodes.toList.Perm h.nodes.toList
  edges : g.edges.toList.Perm h.edges.toList
  truncated : g.truncated = h.truncated

/-- Put together, the parts of all classes hold the elements of the whole. -/
theorem perm_elements_merge (hd : d.Partible ds) (hnodup : classes.Nodup)
    (hclasses : ∀ cls, cls ∈ classes ↔ d.IsClass cls) (k : Kind) :
    (((classes.map (d.part ds)).foldl merge Graph.empty).elements k).toList.Perm
      ((d.assemble ds 0 d.vertices d.edges).elements k).toList := by
  rw [foldl_merge_elements, List.flatMap_map, assemble_elements]
  simp only [part, assemble_elements]
  cases k with
  | node =>
    refine perm_insertAll_parts ?_ hnodup fun v hv => (hclasses v.cls).mpr (.inl ⟨v, hv, rfl⟩)
    simpa only [nodeElement_id] using hd.vertexIds
  | edge =>
    exact perm_insertAll_parts hd.edgeIds hnodup fun e he =>
      (hclasses e.cls).mpr (.inr ⟨e, he, rfl⟩)

theorem sameParts_merge (hd : d.Partible ds) (hnodup : classes.Nodup)
    (hclasses : ∀ cls, cls ∈ classes ↔ d.IsClass cls) :
    SameParts ((classes.map (d.part ds)).foldl merge Graph.empty)
      (d.assemble ds 0 d.vertices d.edges) := by
  have hvertices : ∀ v ∈ d.vertices, v.cls ∈ classes := fun v hv =>
    (hclasses v.cls).mpr (.inl ⟨v, hv, rfl⟩)
  have hedges : ∀ e ∈ d.edges, e.cls ∈ classes := fun e he =>
    (hclasses e.cls).mpr (.inr ⟨e, he, rfl⟩)
  constructor
  · refine (foldl_merge_classes _ _ .node).trans ?_
    rw [(assemble_registries d ds _ _).1, ← foldl_merge_registryOf hvertices, List.foldl_map,
      List.foldl_map]
    simp only [Graph.classes, part, (assemble_registries d ds _ _).1]
    rfl
  · refine (foldl_merge_classes _ _ .edge).trans ?_
    rw [(assemble_registries d ds _ _).2, ← foldl_merge_registryOf hedges, List.foldl_map,
      List.foldl_map]
    simp only [Graph.classes, part, (assemble_registries d ds _ _).2]
    rfl
  · exact perm_elements_merge hd hnodup hclasses .node
  · exact perm_elements_merge hd hnodup hclasses .edge
  · rw [foldl_merge_truncated, assemble_truncated, List.any_map]
    have hparts : ∀ cls, (d.part ds cls).truncated = false := fun cls =>
      assemble_truncated d ds _ _
    simp [Function.comp_def, hparts, Graph.empty]

theorem disjoint_parts (hd : d.Partible ds) (hne : cls ≠ other) :
    (d.part ds cls).nodes.ids.Disjoint (d.part ds other).nodes.ids ∧
      (d.part ds cls).edges.ids.Disjoint (d.part ds other).edges.ids := by
  unfold part
  rw [assemble_nodes, assemble_nodes, assemble_edges, assemble_edges]
  constructor
  · have hids : (d.vertices.map fun v => (d.nodeElement ds v).id).Nodup := by
      simpa only [nodeElement_id] using hd.vertexIds
    exact fun id => not_mem_two_parts hids hne
  · exact fun id => not_mem_two_parts hd.edgeIds hne

end Dataset

namespace Datasets

open Dataset

variable {m : Datasets} {ds : DataSource} {d : Dataset} {classes : List String}

/-- Asked for one class after the other, in any order, a dataset hands out its elements part by part.
Merged, the parts are what it answers when asked for everything. -/
theorem query_partition (hfind : m.find ds = .ok d) (hd : d.Partible ds) (hnodup : classes.Nodup)
    (hclasses : ∀ cls, cls ∈ classes ↔ d.IsClass cls) :
    ∃ g part, m.graphService.serve ds (.query allClasses 0) = .ofExcept (.ok g) ∧
      (∀ cls ∈ classes, m.graphService.serve ds (.query cls 0) = .ofExcept (.ok (part cls))) ∧
      SameParts ((classes.map part).foldl Graph.merge Graph.empty) g ∧
      ∀ cls ∈ classes, ∀ other ∈ classes, cls ≠ other →
        (part cls).nodes.ids.Disjoint (part other).nodes.ids ∧
          (part cls).edges.ids.Disjoint (part other).edges.ids := by
  have hall : d.answer ds (.query allClasses 0) = .ok (d.assemble ds 0 d.vertices d.edges) := rfl
  refine ⟨_, d.part ds, ?_, fun cls hcls => ?_, sameParts_merge hd hnodup hclasses,
    fun cls _ other _ => disjoint_parts hd⟩
  · rw [serve_graphService hfind, hall]
    rfl
  · have hpart : d.answer ds (.query cls 0) = .ok (d.part ds cls) :=
      query_class hd ((hclasses cls).mp hcls)
    rw [serve_graphService hfind, hpart]
    rfl

/-- Ships and their voyages, and a class of that name which has both a vertex and an edge; ships come
before and after it, with different types for one property. -/
def fleet : Dataset where
  vertices := [
    { id := "#1:0", cls := "Ship", properties := NameMap.ofList [("built", .int 1912)] },
    { id := "#2:0", cls := "Voyage", properties := NameMap.ofList [("days", .int 9)] },
    { id := "#1:1", cls := "Ship", properties := NameMap.ofList [("built", .string "unknown")] }]
  edges := [
    { id := "#3:0", cls := "Voyage", source := "#1:0", target := "#1:1" },
    { id := "#3:1", cls := "Tow", source := "#1:1", target := "#1:0" }]

def armada : Datasets := NameMap.ofList [("harbour", fleet)]

theorem isClass_fleet (cls : String) : cls ∈ ["Voyage", "Tow", "Ship"] ↔ fleet.IsClass cls := by
  simp only [IsClass, fleet, List.mem_cons, List.not_mem_nil, or_false, exists_eq_or_imp,
    exists_eq_left]
  grind

theorem partible_fleet : fleet.Partible coast where
  vertexIds := by decide
  edgeIds := by decide
  classes := by
    intro cls hcls
    rw [← isClass_fleet] at hcls
    revert cls
    decide

theorem query_partition_fleet :
    armada.find coast = .ok fleet ∧ fleet.Partible coast ∧ ["Voyage", "Tow", "Ship"].Nodup ∧
      (∀ cls, cls ∈ ["Voyage", "Tow", "Ship"] ↔ fleet.IsClass cls) ∧
      ∃ (g : Graph) (part : String → Graph),
        armada.graphService.serve coast (.query allClasses 0) = .ofExcept (.ok g) ∧
        armada.graphService.serve coast (.query "Voyage" 0) = .ofExcept (.ok (part "Voyage")) ∧
        SameParts ((["Voyage", "Tow", "Ship"].map part).foldl Graph.merge Graph.empty) g ∧
        (part "Voyage").nodes.size = 1 ∧ (part "Voyage").edges.size = 1 ∧ g.nodes.size = 3 ∧
        g.nodeClasses.typeOf? "Ship" "built" = some .numeric := by
  have hfind : armada.find coast = .ok fleet := rfl
  have hnodup : ["Voyage", "Tow", "Ship"].Nodup := by decide
  obtain ⟨g, part, hall, hparts, hsame, -⟩ :=
    query_partition hfind partible_fleet hnodup isClass_fleet
  have hvoyage := hparts "Voyage" (by decide)
  refine ⟨hfind, partible_fleet, hnodup, isClass_fleet, g, part, hall, hvoyage, hsame, ?_⟩
  rw [serve_graphService hfind] at hall hvoyage
  obtain rfl : fleet.assemble coast 0 fleet.vertices fleet.edges = g :=
    Except.ok.inj (Run.eq_ok_of_ofExcept hall)
  have hpart : fleet.part coast "Voyage" = part "Voyage" :=
    Except.ok.inj (Run.eq_ok_of_ofExcept hvoyage)
  rw [← hpart]
  decide

end Datasets

end Memory

end Causeway
