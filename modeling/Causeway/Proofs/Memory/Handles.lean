import Causeway.Proofs.ElementId
import Causeway.Proofs.Memory.Assembled
import Mathlib.Data.List.Find
import Mathlib.Data.List.Nodup

/-!
# Element ids are handles

What a dataset hands out for all of its elements can be asked for again by the ids: `load` finds
what `query` returned, whichever ids are asked for and in whatever order. Both hand out the same
elements, `query` along the dataset and `load` along the ids; a composite id leads to the same
element in both, since it belongs to the native id that it decodes to and to no other
(`Handle.encode_eq_iff`).
-/

namespace Causeway.Memory.Dataset

open Causeway.Graph

/-- The ids of all vertices and edges. -/
def nativeIds (d : Dataset) : List String := d.vertices.map (·.id) ++ d.edges.map (·.id)

/-- All vertices and edges have ids of their own, which are record ids. -/
structure Addressed (d : Dataset) : Prop where
  distinct : d.nativeIds.Nodup
  record : ∀ id ∈ d.nativeIds, IdScheme.IsRecordId id

/-- A composite id leads to a native id, and back if there is an element of it. -/
structure Handle (d : Dataset) (ds : DataSource) (id native : String) : Prop where
  decoded : scheme.decode ds.id id = .ok native
  encoded : native ∈ d.nativeIds → scheme.encode ds.id native = id

variable {d : Dataset} {ds : DataSource} {id native other : String} {ids : List String}

theorem mem_nativeIds_of_vertex {v : Vertex} (hv : v ∈ d.vertices) : v.id ∈ d.nativeIds :=
  List.mem_append_left _ (List.mem_map_of_mem hv)

theorem mem_nativeIds_of_edge {e : Edge} (he : e ∈ d.edges) : e.id ∈ d.nativeIds :=
  List.mem_append_right _ (List.mem_map_of_mem he)

theorem vertex?_eq_none_iff : d.vertex? id = none ↔ id ∉ d.vertices.map (·.id) := by
  simp [vertex?]

theorem edge?_eq_none_iff : d.edge? id = none ↔ id ∉ d.edges.map (·.id) := by
  simp [edge?]

theorem mem_of_vertex? {v : Vertex} (hv : d.vertex? id = some v) : id ∈ d.vertices.map (·.id) := by
  have hid : v.id = id := by simpa using List.find?_some hv
  exact hid ▸ List.mem_map_of_mem (List.mem_of_find?_eq_some hv)

namespace Addressed

theorem nodup_encoded (h : d.Addressed) (ds : DataSource) :
    (d.nativeIds.map (scheme.encode ds.id)).Nodup := by
  refine List.Nodup.map_on ?_ h.distinct
  intro id hid other hother heq
  exact (IdScheme.encode_inj (h.record id hid) (h.record other hother)).mp heq

theorem encoded_eq (d : Dataset) (ds : DataSource) :
    d.nativeIds.map (scheme.encode ds.id) =
      (d.vertices.map (d.nodeElement ds)).map (·.id) ++
        (d.edges.map (edgeElement ds)).map (·.id) := by
  simp [nativeIds, List.map_map, Function.comp_def]

/-- All elements are handed out, each as it is on its own. -/
theorem query_eq (h : d.Addressed) (ds : DataSource) :
    ∃ g, d.query ds allClasses 0 = .ok g ∧ g.nodes.toList = d.vertices.map (d.nodeElement ds) ∧
      g.edges.toList = d.edges.map (edgeElement ds) := by
  have hnodup := h.nodup_encoded ds
  rw [encoded_eq, List.nodup_append] at hnodup
  refine ⟨d.assemble ds 0 d.vertices d.edges, ?_, ?_, ?_⟩
  · have hall : Text.trimmed allClasses = allClasses := rfl
    unfold query
    rw [hall]
    exact if_pos (.inr rfl)
  · rw [assemble_nodes, ElementSet.toList_ofList_of_nodup hnodup.1]
  · rw [assemble_edges, ElementSet.toList_ofList_of_nodup hnodup.2.1]

theorem handle_encode (h : d.Addressed) (hnative : native ∈ d.nativeIds) :
    d.Handle ds (scheme.encode ds.id native) native where
  decoded := IdScheme.decode_encode ds.id (h.record native hnative)
  encoded _ := rfl

end Addressed

namespace Handle

theorem encode_eq_iff (h : d.Handle ds id native) (haddressed : d.Addressed)
    (hother : other ∈ d.nativeIds) : scheme.encode ds.id other = id ↔ other = native := by
  constructor
  · rintro rfl
    have hdecode := h.decoded
    rw [(haddressed.handle_encode hother).decoded] at hdecode
    exact Except.ok.inj hdecode
  · rintro rfl
    exact h.encoded hother

/-- Looking for a composite id among elements is looking for the native id that it leads to. -/
theorem find?_elements {α : Type} {l : List α} {key : α → String} {f : α → Element}
    (h : d.Handle ds id native) (haddressed : d.Addressed) (hkey : ∀ x ∈ l, key x ∈ d.nativeIds)
    (hf : ∀ x ∈ l, (f x).id = scheme.encode ds.id (key x)) :
    (l.map f).find? (·.id == id) = (l.find? (key · == native)).map f := by
  rw [List.find?_map]
  congr 1
  refine List.find?_congr fun x hx => ?_
  have hiff := h.encode_eq_iff haddressed (hkey x hx)
  simp [hf x hx, hiff]

/-- The element of a composite id is that of the native id, looked up among vertices and then among
edges. -/
theorem element_eq (h : d.Handle ds id native) (haddressed : d.Addressed) (k : Kind) :
    (d.element? native).bind ((assembler ds).elementOf? k) =
      (d.elementsOf ds d.vertices d.edges k).find? (·.id == id) := by
  cases k with
  | node =>
    rw [elementsOf, h.find?_elements haddressed (fun v hv => mem_nativeIds_of_vertex hv)
      (fun v _ => nodeElement_id d ds v), ← vertex?, element?]
    cases d.vertex? native with
    | some v => rfl
    | none => cases d.edge? native <;> rfl
  | edge =>
    rw [elementsOf, h.find?_elements haddressed (fun e he => mem_nativeIds_of_edge he)
      (fun e _ => edgeElement_id ds e), ← edge?, element?]
    cases hv : d.vertex? native with
    | some v =>
      -- the id is that of a vertex, and so of no edge
      have hnone : d.edge? native = none := by
        rw [edge?_eq_none_iff]
        intro hedge
        have hdisjoint := (List.nodup_append.mp haddressed.distinct).2.2
        exact hdisjoint native (mem_of_vertex? hv) native hedge rfl
      rw [hnone]
      rfl
    | none => cases d.edge? native <;> rfl

theorem element?_eq_none (h : d.Handle ds id native)
    (hid : id ∉ d.nativeIds.map (scheme.encode ds.id)) : d.element? native = none := by
  have hnative : native ∉ d.nativeIds := by
    intro hmem
    exact hid (List.mem_map.mpr ⟨native, hmem, h.encoded hmem⟩)
  have hvertex : d.vertex? native = none :=
    vertex?_eq_none_iff.mpr fun hmem => hnative (List.mem_append_left _ hmem)
  have hedge : d.edge? native = none :=
    edge?_eq_none_iff.mpr fun hmem => hnative (List.mem_append_right _ hmem)
  rw [element?, hvertex, hedge]
  rfl

end Handle

/-- What an id leads to, if anything. -/
def named? (d : Dataset) (ds : DataSource) (id : String) : Option NativeElement :=
  (scheme.decode ds.id id).toOption.bind d.element?

theorem named?_eq (h : d.Handle ds id native) : d.named? ds id = d.element? native := by
  rw [named?, h.decoded]
  rfl

theorem load_of_handles (hids : ∀ id ∈ ids, ∃ native, d.Handle ds id native) :
    d.load ds ids = .ok ((assembler ds).ingest (ids.filterMap (d.named? ds))).result := by
  have hdecode := IdScheme.decodeAll_of_ok fun id hid =>
    (hids id hid).imp fun _ hhandle => hhandle.decoded
  rw [load, hdecode]
  change Except.ok ((assembler ds).ingest ((ids.filterMap _).filterMap d.element?)).result = _
  rw [List.filterMap_filterMap]
  rfl

/-- What ids lead to, as a set, holds each element where its id is first mentioned. -/
theorem toList_ofList_named {elementOf? : NativeElement → Option Element} {l : List Element}
    (hsame : ∀ id ∈ ids, (d.named? ds id).bind elementOf? = l.find? (·.id == id)) :
    (ElementSet.ofList ((ids.filterMap (d.named? ds)).filterMap elementOf?)).toList =
      ids.eraseDups.filterMap fun id => l.find? (·.id == id) := by
  rw [List.filterMap_filterMap, List.filterMap_congr hsame]
  refine ElementSet.toList_ofList_filterMap ids fun id e he => ?_
  simpa using List.find?_some he

theorem loaded_elements (haddressed : d.Addressed)
    (hids : ∀ id ∈ ids, ∃ native, d.Handle ds id native) (k : Kind) :
    (((assembler ds).ingest (ids.filterMap (d.named? ds))).result.elements k).toList =
      ids.eraseDups.filterMap fun id =>
        (d.elementsOf ds d.vertices d.edges k).find? (·.id == id) := by
  have hempty : (assembler ds).result.elements k = .empty := by cases k <;> rfl
  rw [Assembler.ingest_elements rfl, hempty]
  refine toList_ofList_named fun id hid => ?_
  obtain ⟨native, hhandle⟩ := hids id hid
  rw [named?_eq hhandle, hhandle.element_eq haddressed]

/-- Ids that lead to nothing change nothing. -/
theorem filterMap_named? (hids : ∀ id ∈ ids, ∃ native, d.Handle ds id native) :
    (ids.filter fun id => id ∈ d.nativeIds.map (scheme.encode ds.id)).filterMap (d.named? ds) =
      ids.filterMap (d.named? ds) := by
  rw [List.filterMap_filter]
  refine List.filterMap_congr fun id hid => ?_
  by_cases hmem : id ∈ d.nativeIds.map (scheme.encode ds.id)
  · simp only [hmem, decide_true, if_true]
  · obtain ⟨native, hhandle⟩ := hids id hid
    simp only [hmem, decide_false, Bool.false_eq_true, if_false]
    rw [named?_eq hhandle, hhandle.element?_eq_none hmem]

/-- Everything that a dataset hands out can be loaded by its ids. -/
theorem load_queried (d : Dataset) (ds : DataSource) (haddressed : d.Addressed) :
    ∃ g, d.query ds "*" 0 = .ok g ∧ (g.nodes.ids ++ g.edges.ids).Nodup ∧
      (∀ ids, (∀ id ∈ ids, id ∈ g.nodes.ids ++ g.edges.ids ∨
          ∃ native, scheme.decode ds.id id = .ok native ∧ native ∉ d.nativeIds) →
        ∃ r, d.load ds ids = .ok r ∧
          d.load ds (ids.filter fun id => id ∈ g.nodes.ids ++ g.edges.ids) = .ok r ∧
          r.nodes.toList =
            ids.eraseDups.filterMap (fun id => g.nodes.toList.find? (·.id == id)) ∧
          r.edges.toList =
            ids.eraseDups.filterMap (fun id => g.edges.toList.find? (·.id == id)) ∧
          r.truncated = false) ∧
      ∀ ids id, ids.find? (fun id => !(scheme.decode ds.id id).isOk) = some id →
        d.load ds ids = .error (.invalidId id ds.id) := by
  obtain ⟨g, hquery, hnodes, hedges⟩ := haddressed.query_eq ds
  have hids : g.nodes.ids ++ g.edges.ids = d.nativeIds.map (scheme.encode ds.id) := by
    rw [ElementSet.ids, ElementSet.ids, hnodes, hedges, Addressed.encoded_eq]
  refine ⟨g, hquery, ?_, ?_, ?_⟩
  · rw [hids]
    exact haddressed.nodup_encoded ds
  · intro ids hasked
    have hhandles : ∀ id ∈ ids, ∃ native, d.Handle ds id native := by
      intro id hid
      rcases hasked id hid with hmem | ⟨native, hdecode, hnothing⟩
      · rw [hids] at hmem
        obtain ⟨native, hnative, rfl⟩ := List.mem_map.mp hmem
        exact ⟨native, haddressed.handle_encode hnative⟩
      · exact ⟨native, hdecode, fun hmem => absurd hmem hnothing⟩
    have hfiltered :
        d.load ds (ids.filter fun id => id ∈ d.nativeIds.map (scheme.encode ds.id)) = _ :=
      load_of_handles fun id hid => hhandles id (List.mem_of_mem_filter hid)
    rw [filterMap_named? hhandles] at hfiltered
    refine ⟨_, load_of_handles hhandles, ?_, ?_, ?_, ?_⟩
    · rw [hids, hfiltered]
    · rw [hnodes]
      exact loaded_elements haddressed hhandles .node
    · rw [hedges]
      exact loaded_elements haddressed hhandles .edge
    · rw [Assembler.ingest_truncated rfl]
      rfl
  · intro ids id hfirst
    rw [load, IdScheme.decodeAll_of_find? hfirst]
    rfl

/-- Two people who know each other, one way. -/
def friends : Dataset where
  vertices := [{ id := "#9:0", cls := "Person" }, { id := "#9:1", cls := "Person" }]
  edges := [{ id := "#10:0_a", cls := "Knows", source := "#9:0", target := "#9:1" }]

def people : DataSource where
  id := 7
  type := tag
  name := "people"

theorem load_queried_friends :
    ∃ g r, friends.query people "*" 0 = .ok g ∧
      friends.load people ["7_10_0_a", "7_9_1", "7_5_5", "7_10_0_a"] = .ok r ∧
      r.nodes.toList =
        ["7_10_0_a", "7_9_1", "7_5_5"].filterMap (fun id => g.nodes.toList.find? (·.id == id)) ∧
      r.edges.toList =
        ["7_10_0_a", "7_9_1", "7_5_5"].filterMap (fun id => g.edges.toList.find? (·.id == id)) := by
  have haddressed : friends.Addressed := by
    refine ⟨by decide, ?_⟩
    intro id hid
    simp only [nativeIds, friends, List.map_cons, List.map_nil, List.cons_append, List.nil_append,
      List.mem_cons, List.not_mem_nil, or_false] at hid
    rcases hid with rfl | rfl | rfl
    · exact ⟨['9'], ['0'], by decide⟩
    · exact ⟨['9'], ['1'], by decide⟩
    · exact ⟨['1', '0'], ['0', '_', 'a'], by decide⟩
  obtain ⟨g, hquery, _, hload, _⟩ := load_queried friends people haddressed
  have hg : friends.query people "*" 0 = .ok (friends.assemble people 0 _ _) := rfl
  obtain rfl := Except.ok.inj (hquery.symm.trans hg)
  obtain ⟨r, hr, _, hnodes, hedges, _⟩ := hload ["7_10_0_a", "7_9_1", "7_5_5", "7_10_0_a"] (by
    intro id hid
    rw [List.mem_append, mem_assemble_nodes, mem_assemble_edges]
    simp only [List.mem_cons, List.not_mem_nil, or_false] at hid
    rcases hid with rfl | rfl | rfl | rfl
    · exact .inl (.inr ⟨_, List.mem_cons_self, rfl⟩)
    · exact .inl (.inl ⟨_, List.mem_cons_of_mem _ List.mem_cons_self, rfl⟩)
    · exact .inr ⟨"#5:5", rfl, by decide⟩
    · exact .inl (.inr ⟨_, List.mem_cons_self, rfl⟩))
  have hids : ["7_10_0_a", "7_9_1", "7_5_5", "7_10_0_a"].eraseDups =
      ["7_10_0_a", "7_9_1", "7_5_5"] := by decide
  rw [hids] at hnodes hedges
  exact ⟨_, r, hquery, hr, hnodes, hedges⟩

end Causeway.Memory.Dataset
