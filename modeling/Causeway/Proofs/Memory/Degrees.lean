import Causeway.Proofs.Graph.Budget
import Causeway.Proofs.Memory.Answers
import Causeway.Proofs.Memory.Schema
import Causeway.Proofs.Value.Conversion
import Mathlib.Algebra.BigOperators.Ring.Finset
import Mathlib.Data.List.Induction

/-!
# Degrees of vertices

A node that a dataset hands out counts the edges of its vertex, class by class and in all, whatever
properties of these names the vertex has (`tellsDegrees_nodeElement`). Each edge counts at both of its
ends, so over all vertices the counts add up to twice the number of edges (`sum_degrees`).
-/

namespace Causeway.Memory

open Causeway.Graph

/-! ### Counting labels -/

/-- How often each label stands in a list, counted one by one. -/
def tally (labels : List String) : NameMap Nat :=
  labels.foldl (NativeVertex.addCount · · 1) NameMap.empty

theorem tally_concat (labels : List String) (label : String) :
    tally (labels ++ [label]) = NativeVertex.addCount (tally labels) label 1 :=
  List.foldl_concat _ _ _ _

theorem get?_tally (labels : List String) (name : String) :
    (tally labels).get? name = if name ∈ labels then some (labels.count name) else none := by
  induction labels using List.reverseRecOn generalizing name with
  | nil => rfl
  | append_singleton labels label ih =>
    rw [tally_concat, NativeVertex.addCount, NameMap.update, NameMap.get?_insert, List.count_append]
    by_cases hname : name = label
    · subst hname
      rw [if_pos rfl, if_pos (by simp), ih, List.count_singleton_self]
      by_cases hold : name ∈ labels
      · simp [hold]
      · simp [hold, List.count_eq_zero.mpr hold]
    · simp [hname, ih, Ne.symm hname]

theorem contains_tally (labels : List String) (name : String) :
    (tally labels).contains name = true ↔ name ∈ labels := by
  rw [NameMap.contains, get?_tally]
  by_cases hname : name ∈ labels <;> simp [hname]

theorem eq_count_of_get?_tally {labels : List String} {name : String} {n : Nat}
    (h : (tally labels).get? name = some n) : n = labels.count name := by
  rw [get?_tally] at h
  split at h
  · exact (Option.some.inj h).symm
  · cases h

theorem sum_values_tally (labels : List String) : (tally labels).values.sum = labels.length := by
  rw [← NameMap.sum_values_of_counts (f := id) (contains_tally labels) fun _ _ h =>
    eq_count_of_get?_tally h, List.map_id]

theorem le_length_of_mem_tally {labels : List String} {e : String × Nat}
    (he : e ∈ (tally labels).entries) : e.2 ≤ labels.length := by
  rw [eq_count_of_get?_tally (Entries.get?_of_mem (tally labels).ordered he)]
  exact List.count_le_length

namespace Dataset

variable {d : Dataset} {ds : DataSource} {g : Graph}

def entering (d : Dataset) (id : String) : List Edge := d.edges.filter (·.target = id)

def leaving (d : Dataset) (id : String) : List Edge := d.edges.filter (·.source = id)

/-- Counts an edge at its ends, as far as these have the id of a vertex. -/
def countEdge (id : String) (n : NativeVertex) (e : Edge) : NativeVertex :=
  let n := if e.target = id then n.withIn e.cls 1 else n
  if e.source = id then n.withOut e.cls 1 else n

theorem foldl_countEdge (id : String) (l : List Edge) (n : NativeVertex) :
    (l.foldl (countEdge id) n).inEdges =
        ((l.filter (·.target = id)).map (·.cls)).foldl (NativeVertex.addCount · · 1) n.inEdges ∧
      (l.foldl (countEdge id) n).outEdges =
        ((l.filter (·.source = id)).map (·.cls)).foldl (NativeVertex.addCount · · 1) n.outEdges := by
  induction l generalizing n with
  | nil => exact ⟨rfl, rfl⟩
  | cons e l ih =>
    rw [List.foldl_cons, (ih _).1, (ih _).2]
    by_cases htarget : e.target = id <;> by_cases hsource : e.source = id <;>
      simp [countEdge, htarget, hsource, NativeVertex.withIn, NativeVertex.withOut]

theorem nativeVertex_counts (d : Dataset) (v : Vertex) :
    (d.nativeVertex v).inEdges = tally ((d.entering v.id).map (·.cls)) ∧
      (d.nativeVertex v).outEdges = tally ((d.leaving v.id).map (·.cls)) :=
  foldl_countEdge v.id d.edges _

/-! ### Counters as values -/

/-- Tells exactly the classes of some edges, each with the number of its edges. -/
structure CountsClasses (counts : NameMap Int64) (edges : List Edge) : Prop where
  contains_iff : ∀ cls, counts.contains cls = true ↔ ∃ e ∈ edges, e.cls = cls
  number : ∀ cls n, counts.get? cls = some n → n.toInt = edges.countP (·.cls = cls)
  sum_eq : (counts.values.map Int64.toInt).sum = edges.length

/-- A record that tells how many edges enter and leave the vertices of an id, class by class and in
all. -/
structure TellsDegrees (d : Dataset) (id : String) (record : NameMap Value) : Prop where
  entering : ∃ counts, record.get? inKey = some (.ofMap (counts.map fun _ n => .int n)) ∧
    CountsClasses counts (d.entering id)
  leaving : ∃ counts, record.get? outKey = some (.ofMap (counts.map fun _ n => .int n)) ∧
    CountsClasses counts (d.leaving id)
  all : ∃ n, record.get? edgeCountKey = some (.int n) ∧
    n.toInt = (d.entering id).length + (d.leaving id).length

theorem toInt_ofInt_natCast {n : Nat} (h : n < 2 ^ 63) : (Int64.ofInt n).toInt = n :=
  Int64.toInt_ofInt_of_le (by omega) (by omega)

theorem ofInteger_natCast {n : Nat} (h : n < 2 ^ 63) :
    Value.ofInteger n = .int (Int64.ofInt n) :=
  Value.ofInteger_eq_int_iff.mpr (toInt_ofInt_natCast h).symm

theorem exists_countsClasses (edges : List Edge) (hsize : edges.length < 2 ^ 63) :
    ∃ counts, countsValue (tally (edges.map (·.cls))) = .ofMap (counts.map fun _ n => .int n) ∧
      CountsClasses counts edges := by
  have hbound : ∀ e ∈ (tally (edges.map (·.cls))).entries, e.2 < 2 ^ 63 := by
    intro e he
    have hle := le_length_of_mem_tally he
    rw [List.length_map] at hle
    exact Nat.lt_of_le_of_lt hle hsize
  refine ⟨(tally (edges.map (·.cls))).map fun _ n => Int64.ofInt n, ?_, ?_, ?_, ?_⟩
  · refine congrArg Value.ofMap (NameMap.ext fun cls => ?_)
    rw [NameMap.get?_map, NameMap.get?_map, NameMap.get?_map, Option.map_map]
    refine Option.map_congr fun n hn => ?_
    exact ofInteger_natCast (hbound (cls, n) (Entries.mem_of_get? hn))
  · intro cls
    rw [NameMap.contains_map, contains_tally, List.mem_map]
  · intro cls n hn
    rw [NameMap.get?_map] at hn
    obtain ⟨k, hk, rfl⟩ := Option.map_eq_some_iff.mp hn
    rw [toInt_ofInt_natCast (hbound (cls, k) (Entries.mem_of_get? hk)), eq_count_of_get?_tally hk,
      List.count_eq_countP, List.countP_map]
    rfl
  · have hvalues : ((tally (edges.map (·.cls))).map fun _ n => Int64.ofInt n).values.map Int64.toInt =
        (tally (edges.map (·.cls))).values.map Nat.cast := by
      rw [NameMap.values, NameMap.map, NameMap.values, List.map_map, List.map_map, List.map_map]
      exact List.map_congr_left fun e he => toInt_ofInt_natCast (hbound e he)
    rw [hvalues, ← Nat.cast_list_sum, sum_values_tally, List.length_map]

/-! ### Nodes -/

theorem edgeCount_nativeVertex (d : Dataset) (v : Vertex) :
    (d.nativeVertex v).edgeCount = (d.entering v.id).length + (d.leaving v.id).length := by
  obtain ⟨hin, hout⟩ := nativeVertex_counts d v
  have hsum : ∀ labels, (tally labels).values.foldr Nat.add 0 = labels.length := sum_values_tally
  rw [NativeVertex.edgeCount, hin, hout, hsum, hsum, List.length_map, List.length_map]

theorem length_entering_add_leaving (hsize : d.edges.length < 2 ^ 62) (id : String) :
    (d.entering id).length + (d.leaving id).length < 2 ^ 63 := by
  have hentering : (d.entering id).length ≤ d.edges.length := List.length_filter_le _ _
  have hleaving : (d.leaving id).length ≤ d.edges.length := List.length_filter_le _ _
  omega

theorem tellsDegrees_nodeElement (hsize : d.edges.length < 2 ^ 62) (ds : DataSource) (v : Vertex) :
    d.TellsDegrees v.id (d.nodeElement ds v).record := by
  obtain ⟨hin, hout⟩ := nativeVertex_counts d v
  obtain ⟨hinKey, houtKey, hallKey⟩ := Assembler.get?_vertexRecord (d.nativeVertex v)
  have hbound := length_entering_add_leaving hsize v.id
  obtain ⟨into, hinto, hintoCounts⟩ := exists_countsClasses (d.entering v.id) (by omega)
  obtain ⟨out, hout', houtCounts⟩ := exists_countsClasses (d.leaving v.id) (by omega)
  refine ⟨⟨into, ?_, hintoCounts⟩, ⟨out, ?_, houtCounts⟩,
    Int64.ofInt (d.nativeVertex v).edgeCount, ?_, ?_⟩
  · exact hinKey.trans (by rw [hin, hinto])
  · exact houtKey.trans (by rw [hout, hout'])
  · exact hallKey.trans (by rw [ofInteger_natCast (edgeCount_nativeVertex d v ▸ hbound)])
  · rw [toInt_ofInt_natCast (edgeCount_nativeVertex d v ▸ hbound), edgeCount_nativeVertex]
    exact Nat.cast_add _ _

/-- The nodes of an answer are those of vertices, each as it is on its own. -/
theorem exists_vertex_of_mem_nodes (h : d.Assembled ds g) {x : Element} (hx : x ∈ g.nodes.toList) :
    ∃ v ∈ d.vertices, x = d.nodeElement ds v := by
  obtain ⟨limit, xs, hnative, rfl⟩ := h
  obtain ⟨rest, hxs, hingest⟩ := ((assembler ds).withLimit limit).exists_ingest_eq xs
  rw [hingest] at hx
  change x ∈ ((List.foldl Assembler.add _ _).result.elements .node).toList at hx
  rw [Assembler.foldl_add_elements] at hx
  rcases ElementSet.mem_insertAll hx with hx | hx
  · exact absurd hx List.not_mem_nil
  · obtain ⟨y, hy, hnode⟩ := List.mem_filterMap.mp hx
    cases hnative y (hxs ▸ List.mem_append_left _ hy) with
    | @vertex v hv => exact ⟨v, hv, (Option.some.inj hnode).symm⟩
    | edge he => cases hnode

/-! ### The sum over all vertices -/

/-- The number of its edges that a node tells. -/
def toldDegree (x : Element) : Int :=
  match x.record.get? edgeCountKey with
  | some (.int n) => n.toInt
  | _ => 0

theorem TellsDegrees.toldDegree_eq {x : Element} {id : String} (h : d.TellsDegrees id x.record) :
    toldDegree x = (d.entering id).length + (d.leaving id).length := by
  obtain ⟨n, hn, heq⟩ := h.all
  rw [toldDegree, hn, ← heq]

/-- Each of some keys is counted at one of the ids. -/
theorem sum_count {keys ids : List String} (hids : ids.Nodup) (hkeys : ∀ key ∈ keys, key ∈ ids) :
    (ids.map (keys.count ·)).sum = keys.length := by
  have hsum : ∑ id ∈ ids.toFinset, (keys : Multiset String).count id = (keys : Multiset String).card :=
    Multiset.sum_count_eq_card fun key hkey => List.mem_toFinset.mpr (hkeys key hkey)
  simp only [Multiset.coe_count, Multiset.coe_card] at hsum
  rw [← hsum, List.sum_toFinset _ hids]

theorem sum_length_filter (key : Edge → String) (hids : (d.vertices.map (·.id)).Nodup)
    (hends : ∀ e ∈ d.edges, d.IsVertex (key e)) :
    (d.vertices.map fun v => (d.edges.filter (key · = v.id)).length).sum = d.edges.length := by
  have hkeys : ∀ k ∈ d.edges.map key, k ∈ d.vertices.map (·.id) := by
    intro k hk
    obtain ⟨e, he, rfl⟩ := List.mem_map.mp hk
    exact List.mem_map.mpr (hends e he)
  have hsum := sum_count hids hkeys
  rw [List.map_map, List.length_map] at hsum
  rw [← hsum]
  refine congrArg List.sum (List.map_congr_left fun v _ => ?_)
  rw [Function.comp_apply, List.count_eq_countP, List.countP_map, List.countP_eq_length_filter]
  rfl

/-- Every edge counts at its source and at its target. -/
theorem sum_degrees (hids : (d.vertices.map (·.id)).Nodup)
    (hends : ∀ e ∈ d.edges, d.IsVertex e.source ∧ d.IsVertex e.target) :
    (d.vertices.map fun v => (d.entering v.id).length + (d.leaving v.id).length).sum =
      2 * d.edges.length := by
  rw [List.sum_map_add]
  have hentering := sum_length_filter Edge.target hids fun e he => (hends e he).2
  have hleaving := sum_length_filter Edge.source hids fun e he => (hends e he).1
  simp only [entering, leaving]
  omega

/-- Each node that a dataset hands out tells the true numbers of edges of its vertex. The numbers of
all nodes together are twice the number of edges, if all ends are vertices and ids do not clash. -/
theorem degrees_told (d : Dataset) (ds : DataSource) (hsize : d.edges.length < 2 ^ 62) :
    (∀ r g, d.answer ds r = .ok g → ∀ x ∈ g.nodes.toList,
        ∃ v ∈ d.vertices, x = d.nodeElement ds v ∧ d.TellsDegrees v.id x.record) ∧
      ((d.vertices.map fun v => scheme.encode ds.id v.id).Nodup →
        (∀ e ∈ d.edges, d.IsVertex e.source ∧ d.IsVertex e.target) →
        ∃ g, d.answer ds (.query "*" 0) = .ok g ∧
          (g.nodes.toList.map toldDegree).sum = 2 * d.edges.length) := by
  constructor
  · intro r g hg x hx
    obtain ⟨v, hv, rfl⟩ := exists_vertex_of_mem_nodes (assembled_of_answer hg) hx
    exact ⟨v, hv, rfl, tellsDegrees_nodeElement hsize ds v⟩
  · intro hcodes hends
    have hids : (d.vertices.map (·.id)).Nodup := by
      refine List.Nodup.of_map (scheme.encode ds.id) ?_
      rwa [List.map_map]
    refine ⟨d.assemble ds 0 d.vertices d.edges, rfl, ?_⟩
    have hnodes : (d.assemble ds 0 d.vertices d.edges).nodes.toList =
        d.vertices.map (d.nodeElement ds) := by
      rw [assemble_nodes, ElementSet.toList_ofList_of_nodup]
      simpa [List.map_map, Function.comp_def] using hcodes
    have htold : ∀ v ∈ d.vertices, (toldDegree ∘ d.nodeElement ds) v =
        (((d.entering v.id).length + (d.leaving v.id).length : Nat) : Int) := by
      intro v _
      rw [Function.comp_apply, (tellsDegrees_nodeElement hsize ds v).toldDegree_eq, Nat.cast_add]
    have hsum := sum_degrees hids hends
    calc ((d.assemble ds 0 d.vertices d.edges).nodes.toList.map toldDegree).sum
        = (d.vertices.map fun v =>
            (((d.entering v.id).length + (d.leaving v.id).length : Nat) : Int)).sum := by
          rw [hnodes, List.map_map, List.map_congr_left htold]
      _ = ((d.vertices.map fun v => (d.entering v.id).length + (d.leaving v.id).length).sum : Nat) := by
          rw [Nat.cast_list_sum, List.map_map]
          rfl
      _ = 2 * d.edges.length := by
          rw [hsum]
          exact Nat.cast_mul 2 _

/-- A port with a property of a counter's name and a ferry that goes round, and another port with two
ferries to the first one and a road from it. -/
def bay : Dataset where
  vertices := [
    { id := "#1:0", cls := "Port", properties := NameMap.ofList [("@edgeCount", .string "many")] },
    { id := "#1:1", cls := "Port" }]
  edges := [
    { id := "#2:0", cls := "Ferry", source := "#1:0", target := "#1:0" },
    { id := "#2:1", cls := "Ferry", source := "#1:1", target := "#1:0" },
    { id := "#2:1", cls := "Ferry", source := "#1:1", target := "#1:0" },
    { id := "#3:0", cls := "Road", source := "#1:0", target := "#1:1" }]

theorem degrees_told_bay :
    bay.edges.length < 2 ^ 62 ∧
      (bay.vertices.map fun v => scheme.encode gazetteer.id v.id).Nodup ∧
      (∀ e ∈ bay.edges, bay.IsVertex e.source ∧ bay.IsVertex e.target) ∧
      ∃ g, bay.answer gazetteer (.query "*" 0) = .ok g ∧
        (∀ x ∈ g.nodes.toList, ∃ v ∈ bay.vertices, x = bay.nodeElement gazetteer v ∧
          bay.TellsDegrees v.id x.record) ∧
        g.nodes.toList.map toldDegree = [5, 3] ∧ (g.nodes.toList.map toldDegree).sum = 8 := by
  have hsize : bay.edges.length < 2 ^ 62 := by decide
  have hcodes : (bay.vertices.map fun v => scheme.encode gazetteer.id v.id).Nodup := by decide
  have hends : ∀ e ∈ bay.edges, bay.IsVertex e.source ∧ bay.IsVertex e.target := by
    simp [IsVertex, bay]
  obtain ⟨htold, hsum⟩ := degrees_told bay gazetteer hsize
  obtain ⟨g, hg, htotal⟩ := hsum hcodes hends
  refine ⟨hsize, hcodes, hends, g, hg, htold _ g hg, ?_, htotal⟩
  have hall : bay.answer gazetteer (.query "*" 0) =
      .ok (bay.assemble gazetteer 0 bay.vertices bay.edges) := rfl
  obtain rfl := Except.ok.inj (hall.symm.trans hg)
  decide

end Dataset

end Causeway.Memory
