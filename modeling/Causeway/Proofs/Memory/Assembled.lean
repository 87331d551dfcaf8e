import Causeway.Memory.Query
import Causeway.Proofs.Graph.Assembly

/-!
# Graphs of vertices and edges

Without a limit, the graph of some vertices and edges holds an element of each id among them.
-/

namespace Causeway.Memory

open Causeway.Graph

/-- The edge that a dataset hands out. -/
def edgeElement (ds : DataSource) (e : Edge) : Element :=
  (assembler ds).edgeElement (Dataset.nativeEdge e)

namespace Dataset

variable {d : Dataset} {ds : DataSource}

/-- The node that a dataset hands out for a vertex. -/
def nodeElement (d : Dataset) (ds : DataSource) (v : Vertex) : Element :=
  (assembler ds).vertexElement (d.nativeVertex v)

/-- Counting the edges of a vertex changes nothing but the counts. -/
theorem nativeVertex_project {α : Type} (f : NativeVertex → α)
    (hin : ∀ n label count, f (n.withIn label count) = f n)
    (hout : ∀ n label count, f (n.withOut label count) = f n) (d : Dataset) (v : Vertex) :
    f (d.nativeVertex v) =
      f { id := v.id, labels := [v.cls], properties := nativeProperties v.properties } := by
  unfold nativeVertex
  suffices h : ∀ (l : List Edge) (n : NativeVertex),
      f (l.foldl (fun n e =>
        let n := if e.target = v.id then n.withIn e.cls 1 else n
        if e.source = v.id then n.withOut e.cls 1 else n) n) = f n from h _ _
  intro l
  induction l with
  | nil => exact fun n => rfl
  | cons e l ih =>
    intro n
    rw [List.foldl_cons, ih]
    dsimp only
    split <;> split <;> simp only [hin, hout]

theorem nativeVertex_id (d : Dataset) (v : Vertex) : (d.nativeVertex v).id = v.id :=
  nativeVertex_project (·.id) (fun _ _ _ => rfl) (fun _ _ _ => rfl) d v

theorem nativeVertex_labels (d : Dataset) (v : Vertex) : (d.nativeVertex v).labels = [v.cls] :=
  nativeVertex_project (·.labels) (fun _ _ _ => rfl) (fun _ _ _ => rfl) d v

@[simp]
theorem nodeElement_id (d : Dataset) (ds : DataSource) (v : Vertex) :
    (d.nodeElement ds v).id = scheme.encode ds.id v.id := by
  change scheme.encode ds.id (d.nativeVertex v).id = _
  rw [nativeVertex_id]

@[simp]
theorem edgeElement_id (ds : DataSource) (e : Edge) :
    (edgeElement ds e).id = scheme.encode ds.id e.id := rfl

theorem nativeElements_eq (d : Dataset) (vertices : List Vertex) (edges : List Edge) :
    d.nativeElements vertices edges =
      Assembler.verticesThenEdges (vertices.map d.nativeVertex) (edges.map nativeEdge) := by
  unfold nativeElements Assembler.verticesThenEdges
  rw [List.map_map, List.map_map]
  rfl

/-- The elements of a kind that a dataset hands out for vertices and edges. -/
def elementsOf (d : Dataset) (ds : DataSource) (vertices : List Vertex) (edges : List Edge) :
    Kind → List Element
  | .node => vertices.map (d.nodeElement ds)
  | .edge => edges.map (edgeElement ds)

theorem assemble_elements (vertices : List Vertex) (edges : List Edge) (k : Kind) :
    (d.assemble ds 0 vertices edges).elements k = .ofList (d.elementsOf ds vertices edges k) := by
  have helements : (assembler ds).elementsOf (vertices.map d.nativeVertex) (edges.map nativeEdge) k =
      d.elementsOf ds vertices edges k := by
    cases k <;> exact List.map_map
  rw [assemble, Assembler.ingest_elements rfl, nativeElements_eq]
  change ElementSet.insertAll _ (List.filterMap ((assembler ds).elementOf? k) _) = _
  rw [Assembler.filterMap_elementOf?, helements]
  cases k <;> rfl

theorem assemble_nodes (vertices : List Vertex) (edges : List Edge) :
    (d.assemble ds 0 vertices edges).nodes = .ofList (vertices.map (d.nodeElement ds)) :=
  assemble_elements vertices edges .node

theorem assemble_edges (vertices : List Vertex) (edges : List Edge) :
    (d.assemble ds 0 vertices edges).edges = .ofList (edges.map (edgeElement ds)) :=
  assemble_elements vertices edges .edge

theorem mem_assemble_nodes (vertices : List Vertex) (edges : List Edge) (id : String) :
    id ∈ (d.assemble ds 0 vertices edges).nodes.ids ↔
      ∃ v ∈ vertices, scheme.encode ds.id v.id = id := by
  rw [assemble_nodes, ElementSet.mem_ids_ofList]
  simp

theorem mem_assemble_edges (vertices : List Vertex) (edges : List Edge) (id : String) :
    id ∈ (d.assemble ds 0 vertices edges).edges.ids ↔
      ∃ e ∈ edges, scheme.encode ds.id e.id = id := by
  rw [assemble_edges, ElementSet.mem_ids_ofList]
  simp

end Dataset

end Causeway.Memory
