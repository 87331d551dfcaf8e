import Causeway.Proofs.Graph.Repeats
import Causeway.Proofs.Memory.Assembled

/-!
# Limited answers of a dataset

A limited query, and a limited load of a class, return the beginning of what they return without a
limit, and mark it as cut whenever something is missing (`query_ofClass_limited`). Ids need not be
distinct in a dataset. So the mark can stand on an answer that lacks nothing, which is where the limit
is used up and the last of the matching ids is a repeated one.
-/

namespace Causeway.Memory.Dataset

open Causeway.Graph

/-- The vertices and the edges that a query is for. -/
def matching (d : Dataset) (text : String) : List Vertex × List Edge :=
  let cls := Text.trimmed text
  if cls = "" ∨ cls = allClasses then (d.vertices, d.edges) else (d.verticesOf cls, d.edgesOf cls)

/-- The vertices and the edges of a class that a filter lets through. -/
def filtered (d : Dataset) (cls : String) (filter : Option PropertyFilter) :
    List Vertex × List Edge :=
  ((d.verticesOf cls).filter fun v => matchesFilter filter v.properties,
    (d.edgesOf cls).filter fun e => matchesFilter filter e.properties)

variable {d : Dataset} {ds : DataSource} {text : String} {l : Nat} {g : Graph}

theorem query_of_ok (h : d.query ds text l = .ok g) (k : Nat) :
    d.query ds text k = .ok (d.assemble ds k (d.matching text).1 (d.matching text).2) := by
  unfold query matching at *
  dsimp only at *
  split at h
  · rename_i hall
    rw [if_pos hall, if_pos hall]
  · rename_i hnotAll
    split at h
    · rename_i hknown
      rw [if_neg hnotAll, if_neg hnotAll, if_pos hknown]
    · cases h

theorem assemble_eq_resultOf (d : Dataset) (ds : DataSource) (l : Nat) (vertices : List Vertex)
    (edges : List Edge) :
    d.assemble ds l vertices edges = (assembler ds).resultOf l
      (Assembler.verticesThenEdges (vertices.map d.nativeVertex) (edges.map nativeEdge)) := by
  rw [assemble, nativeElements_eq]
  rfl

theorem nodeIds_map_nativeVertex (d : Dataset) (ds : DataSource) (vertices : List Vertex) :
    (assembler ds).nodeIds (vertices.map d.nativeVertex) =
      vertices.map fun v => scheme.encode ds.id v.id := by
  unfold Assembler.nodeIds
  rw [List.map_map]
  refine List.map_congr_left fun v _ => ?_
  change scheme.encode ds.id (d.nativeVertex v).id = _
  rw [nativeVertex_id]

theorem edgeIds_map_nativeEdge (ds : DataSource) (edges : List Edge) :
    (assembler ds).edgeIds (edges.map nativeEdge) =
      edges.map fun e => scheme.encode ds.id e.id := by
  unfold Assembler.edgeIds
  rw [List.map_map]
  rfl

/-- An answer within a limit, and when its mark is exact. -/
structure LimitedTo (ds : DataSource) (l : Nat) (elements : List Vertex × List Edge)
    (whole g : Graph) : Prop where
  cutAt : CutAt l whole g
  exact_iff : (g.truncated = true ↔ g.Lacks whole) ↔
    ¬RepeatedAtLimit l (elements.1.map fun v => scheme.encode ds.id v.id)
      (elements.2.map fun e => scheme.encode ds.id e.id)

theorem limitedTo_assemble (d : Dataset) (ds : DataSource) (hl : 0 < l)
    (elements : List Vertex × List Edge) :
    LimitedTo ds l elements (d.assemble ds 0 elements.1 elements.2)
      (d.assemble ds l elements.1 elements.2) := by
  constructor
  · rw [assemble_eq_resultOf, assemble_eq_resultOf]
    exact Assembler.cutAt_resultOf rfl hl _
  · rw [assemble_eq_resultOf, assemble_eq_resultOf, Assembler.truncated_iff_lacks_iff rfl hl,
      nodeIds_map_nativeVertex, edgeIds_map_nativeEdge]

/-- Within a limit a dataset answers with the beginning of the whole answer. The answer is marked as
cut if it lacks something, and only then unless the matching ids repeat at the limit. -/
theorem query_ofClass_limited (d : Dataset) (ds : DataSource) (l : Nat) (hl : 0 < l) :
    (∀ text g, d.query ds text l = .ok g → ∃ whole, d.query ds text 0 = .ok whole ∧
        LimitedTo ds l (d.matching text) whole g) ∧
      ∀ cls filter, LimitedTo ds l (d.filtered cls filter) (d.ofClass ds cls filter 0)
        (d.ofClass ds cls filter l) := by
  constructor
  · intro text g hquery
    have hg := Except.ok.inj (hquery.symm.trans (query_of_ok hquery l))
    rw [hg]
    exact ⟨_, query_of_ok hquery 0, limitedTo_assemble d ds hl _⟩
  · intro cls filter
    exact limitedTo_assemble d ds hl (d.filtered cls filter)

/-- Two cities and a road, none of them written twice. -/
def road : Dataset where
  vertices := [{ id := "#1:0", cls := "City" }, { id := "#1:1", cls := "City" }]
  edges := [{ id := "#2:0", cls := "Road", source := "#1:0", target := "#1:1" }]

def atlas : DataSource where
  id := 7
  type := tag
  name := "atlas"

theorem query_ofClass_limited_road :
    0 < 1 ∧ ∃ g whole, road.query atlas "*" 1 = .ok g ∧ road.query atlas "*" 0 = .ok whole ∧
      CutAt 1 whole g ∧ (g.truncated = true ↔ g.Lacks whole) := by
  have hquery := (query_ofClass_limited road atlas 1 Nat.one_pos).1
  have hg : road.query atlas "*" 1 = .ok (road.assemble atlas 1 road.vertices road.edges) := rfl
  obtain ⟨whole, hwhole, hlimited⟩ := hquery "*" _ hg
  refine ⟨Nat.one_pos, _, whole, hg, hwhole, hlimited.cutAt, hlimited.exact_iff.mpr ?_⟩
  exact not_repeatedAtLimit_of_nodup (by decide) (by decide)

/-- A city that was written twice. -/
def twice : Dataset where
  vertices := [{ id := "#1:0", cls := "City" }, { id := "#1:0", cls := "City" }]

/-- With room for one vertex, the answer is marked as cut though it is the whole one. -/
theorem query_marks_whole_answer :
    ∃ g whole, twice.query atlas "*" 1 = .ok g ∧ twice.query atlas "*" 0 = .ok whole ∧
      g.truncated = true ∧ ¬g.Lacks whole := by
  refine ⟨twice.assemble atlas 1 twice.vertices [], twice.assemble atlas 0 twice.vertices [], rfl,
    rfl, by decide, ?_⟩
  have hnodes : (twice.assemble atlas 0 twice.vertices []).nodes.ids =
      (twice.assemble atlas 1 twice.vertices []).nodes.ids := by decide
  have hedges : (twice.assemble atlas 0 twice.vertices []).edges.ids = [] := by decide
  unfold Lacks
  rw [hnodes, hedges]
  rintro (⟨id, hid, hnew⟩ | ⟨id, hid, -⟩)
  · exact hnew hid
  · exact absurd hid List.not_mem_nil

end Causeway.Memory.Dataset
