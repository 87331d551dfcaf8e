import Causeway.Proofs.Memory.Partition

/-!
# Loading a class

Loading a class is asking for it, under every limit, as long as the query reads its name as it is. A
filter looks at the properties of the data, while callers see records, where some names are left out
and others overridden. For the names that records do show (`IsShown`), a record tells of the property
what the data tell (`get?_nodeElement`, `get?_edgeElement`), so filtering before or after assembling
makes no difference as long as no id is taken twice (`load_class_agrees`).
-/

namespace Causeway.Memory

open Causeway.Graph

/-- A name under which a record shows a property: it keeps no edges, and is that of no counter. -/
def IsShown (name : String) : Prop := keepsEdges name = false ∧ name ∉ [inKey, outKey, edgeCountKey]

/-- A record holds a value under a name. -/
def holds (name : String) (value : Value) (x : Element) : Bool :=
  (x.record.get? name).any (· == value)

namespace Dataset

variable {d : Dataset} {ds : DataSource} {cls name : String} {value : Value}

/-! ### Records -/

/-- Properties that keep edges are dropped, and the others stay as they are. -/
theorem recordOf_nativeProperties (properties : NameMap Value) :
    recordOf (nativeProperties properties) = properties.filter fun e => !keepsEdges e.1 := by
  have hentries : ((nativeProperties properties).filter (!·.isBookkeeping)).map
      (fun p => (p.name, p.value)) = properties.entries.filter fun e => !keepsEdges e.1 := by
    rw [nativeProperties, List.filter_map, List.map_map]
    exact List.map_id _
  ext name : 1
  rw [recordOf, hentries]
  exact congrArg (Entries.get? name)
    (Entries.ofList_of_ordered (Entries.ordered_filter properties.ordered _))

theorem get?_recordOf_nativeProperties (hname : keepsEdges name = false)
    (properties : NameMap Value) :
    (recordOf (nativeProperties properties)).get? name = properties.get? name := by
  rw [recordOf_nativeProperties, NameMap.get?_filter properties fun n => !keepsEdges n, hname]
  rfl

theorem get?_nodeElement (hname : IsShown name) (d : Dataset) (ds : DataSource) (v : Vertex) :
    (d.nodeElement ds v).record.get? name = v.properties.get? name := by
  change (Assembler.vertexRecord (d.nativeVertex v)).get? name = _
  rw [Assembler.get?_vertexRecord_of_not_mem _ hname.2, nativeVertex_properties,
    get?_recordOf_nativeProperties hname.1]

theorem get?_edgeElement (hname : IsShown name) (ds : DataSource) (e : Edge) :
    (edgeElement ds e).record.get? name = e.properties.get? name :=
  get?_recordOf_nativeProperties hname.1 e.properties

/-! ### Filters -/

theorem ofClass_none (d : Dataset) (ds : DataSource) (cls : String) (limit : Nat) :
    d.ofClass ds cls none limit = d.assemble ds limit (d.verticesOf cls) (d.edgesOf cls) := by
  have hvertices : (d.verticesOf cls).filter (fun v => matchesFilter none v.properties) =
      d.verticesOf cls := List.filter_eq_self.mpr fun _ _ => rfl
  have hedges : (d.edgesOf cls).filter (fun e => matchesFilter none e.properties) =
      d.edgesOf cls := List.filter_eq_self.mpr fun _ _ => rfl
  rw [ofClass, hvertices, hedges]

/-- Where records tell what the data tell, elements can be filtered after they are made. -/
theorem toList_ofList_filter {α : Type} {element : α → Element} {properties : α → NameMap Value}
    {l : List α} (hnodup : (l.map fun x => (element x).id).Nodup)
    (hget : ∀ x, (element x).record.get? name = (properties x).get? name) (cls : α → Bool) :
    (ElementSet.ofList (((l.filter cls).filter fun x =>
        matchesFilter (some ⟨name, value⟩) (properties x)).map element)).toList =
      (ElementSet.ofList ((l.filter cls).map element)).toList.filter (holds name value) := by
  rw [List.filter_filter, ElementSet.toList_ofList_of_nodup (nodup_ids_filter hnodup _),
    ElementSet.toList_ofList_of_nodup (nodup_ids_filter hnodup _), List.filter_map,
    List.filter_filter]
  refine congrArg (List.map element) (List.filter_congr fun x _ => ?_)
  rw [Function.comp_apply, holds, hget]
  rfl

/-- A class is loaded as it is asked for. What a filter lets pass are the elements that, in the load of
the whole class, hold the value in their records. -/
theorem load_class_agrees (d : Dataset) (ds : DataSource) :
    (∀ cls, d.IsClass cls → Text.trimmed cls = cls → cls ≠ "" → cls ≠ allClasses → ∀ limit,
        ∃ g, d.answer ds (.ofClass cls none limit) = .ok g ∧
          d.answer ds (.query cls limit) = .ok g) ∧
      ((d.vertices.map fun v => scheme.encode ds.id v.id).Nodup →
        (d.edges.map fun e => scheme.encode ds.id e.id).Nodup →
        ∀ cls name value, IsShown name →
          ∃ whole part, d.answer ds (.ofClass cls none 0) = .ok whole ∧
            d.answer ds (.ofClass cls (some ⟨name, value⟩) 0) = .ok part ∧
            part.nodes.toList = whole.nodes.toList.filter (holds name value) ∧
            part.edges.toList = whole.edges.toList.filter (holds name value)) := by
  constructor
  · intro cls hcls htrimmed hempty hstar limit
    refine ⟨d.ofClass ds cls none limit, rfl, ?_⟩
    rw [ofClass_none]
    exact query_of_isClass hcls htrimmed hempty hstar limit
  · intro hvertices hedges cls name value hname
    refine ⟨_, _, rfl, rfl, ?_⟩
    rw [ofClass_none, ofClass, assemble_nodes, assemble_nodes, assemble_edges, assemble_edges]
    constructor
    · refine toList_ofList_filter ?_ (get?_nodeElement hname d ds) _
      simpa only [nodeElement_id] using hvertices
    · exact toList_ofList_filter hedges (get?_edgeElement hname ds) _

/-- Ships with their flags, and edges of the same class between them. -/
def convoy : Dataset where
  vertices := [
    { id := "#1:0", cls := "Ship"
      properties := NameMap.ofList [("flag", .string "NO"), ("in_Voyage", .int 2)] },
    { id := "#1:1", cls := "Ship", properties := NameMap.ofList [("flag", .string "GR")] },
    { id := "#1:2", cls := "Ship", properties := NameMap.ofList [("flag", .string "NO")] }]
  edges := [
    { id := "#2:0", cls := "Ship", source := "#1:0", target := "#1:1"
      properties := NameMap.ofList [("flag", .string "NO")] },
    { id := "#2:1", cls := "Ship", source := "#1:1", target := "#1:2" }]

def fleetOffice : DataSource := { id := 3, type := tag, name := "office" }

theorem load_class_agrees_convoy :
    convoy.IsClass "Ship" ∧ Text.trimmed "Ship" = "Ship" ∧ "Ship" ≠ "" ∧ "Ship" ≠ allClasses ∧
      (convoy.vertices.map fun v => scheme.encode fleetOffice.id v.id).Nodup ∧
      (convoy.edges.map fun e => scheme.encode fleetOffice.id e.id).Nodup ∧ IsShown "flag" ∧
      (∃ g, convoy.answer fleetOffice (.query "Ship" 2) = .ok g ∧
        g.truncated = true ∧ g.nodes.ids = ["3_1_0", "3_1_1"]) ∧
      ∃ part, convoy.answer fleetOffice (.ofClass "Ship" (some ⟨"flag", .string "NO"⟩) 0) = .ok part ∧
        part.nodes.ids = ["3_1_0", "3_1_2"] ∧ part.edges.ids = ["3_2_0"] := by
  have hcls : convoy.IsClass "Ship" := .inl ⟨_, List.mem_cons_self, rfl⟩
  have htrimmed : Text.trimmed "Ship" = "Ship" := by decide
  have hvertices : (convoy.vertices.map fun v => scheme.encode fleetOffice.id v.id).Nodup := by
    decide
  have hedges : (convoy.edges.map fun e => scheme.encode fleetOffice.id e.id).Nodup := by decide
  have hname : IsShown "flag" := ⟨by decide, by decide⟩
  obtain ⟨hquery, hfilter⟩ := load_class_agrees convoy fleetOffice
  obtain ⟨g, hload, hg⟩ := hquery "Ship" hcls htrimmed (by decide) (by decide) 2
  obtain ⟨whole, part, hwhole, hpart, hnodes, hedges'⟩ :=
    hfilter hvertices hedges "Ship" "flag" (.string "NO") hname
  refine ⟨hcls, htrimmed, by decide, by decide, hvertices, hedges, hname, ⟨g, hg, ?_⟩,
    part, hpart, ?_⟩
  · obtain rfl : convoy.ofClass fleetOffice "Ship" none 2 = g := Except.ok.inj hload
    decide
  · obtain rfl : convoy.ofClass fleetOffice "Ship" none 0 = whole := Except.ok.inj hwhole
    rw [ElementSet.ids, ElementSet.ids, hnodes, hedges']
    decide

/-- A filter finds what no record shows. -/
example :
    let byVoyages : Graph.PropertyFilter := ⟨"in_Voyage", .int 2⟩
    (convoy.ofClass fleetOffice "Ship" (some byVoyages) 0).nodes.ids = ["3_1_0"] ∧
      (convoy.ofClass fleetOffice "Ship" none 0).nodes.toList.all
        (fun x => !holds "in_Voyage" (.int 2) x) = true := by decide

end Dataset

end Causeway.Memory
