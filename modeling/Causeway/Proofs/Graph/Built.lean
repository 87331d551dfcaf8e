import Causeway.Proofs.Graph.WellFormed
import Causeway.Proofs.Graph.Written

/-!
# Graphs that are built

Graphs come from assemblers and from merging. All of them have the positions of their ids, and none of
their elements says where it is drawn (`Built.asBuilt`).
-/

namespace Causeway.Graph

variable {g h : Graph} {a : Assembler}

namespace Assembler

/-- What can be done with an assembler. To `add` an element is to add a vertex or an edge. -/
inductive Operation where
  | withLimit (limit : Nat)
  | addVertex (v : NativeVertex)
  | addEdge (e : NativeEdge)
  | ingest (xs : List NativeElement)
  | truncate

def perform (a : Assembler) : Operation → Assembler
  | .withLimit limit => a.withLimit limit
  | .addVertex v => a.addVertex v
  | .addEdge e => a.addEdge e
  | .ingest xs => a.ingest xs
  | .truncate => a.truncate

def run (a : Assembler) (operations : List Operation) : Assembler := operations.foldl perform a

/-- What each element leaves true, and a cut, is true in the end. -/
theorem ingest_induction {p : Graph → Prop} {xs : List NativeElement}
    (hadd : ∀ a : Assembler, ∀ x ∈ xs, p a.result → p (a.add x).result)
    (htruncate : ∀ g, p g → p { g with truncated := true }) (ha : p a.result) :
    p (a.ingest xs).result := by
  induction xs generalizing a with
  | nil => exact ha
  | cons x xs ih =>
    rw [ingest]
    split
    · exact htruncate a.result ha
    · exact ih (fun a y hy => hadd a y (List.mem_cons_of_mem x hy)) (hadd a x List.mem_cons_self ha)

end Assembler

/-- Built by assemblers, and by merging what was built. -/
inductive Built : Graph → Prop
  | assembled (dataSource : Int) (scheme : IdScheme) (operations : List Assembler.Operation) :
    Built (Assembler.run { dataSource, scheme } operations).result
  | merge {g h : Graph} : Built g → Built h → Built (g.merge h)

namespace AsBuilt

theorem empty : Graph.empty.AsBuilt :=
  ⟨indexed_empty, by simp [Graph.empty, ElementSet.empty, ElementSet.toList]⟩

theorem add (h : a.result.AsBuilt) (x : NativeElement) : (a.add x).result.AsBuilt := by
  refine ⟨Assembler.indexed_add h.indexed x, ?_⟩
  obtain ⟨hnodes, hedges⟩ := List.forall_mem_append.mp h.position
  cases x with
  | vertex v =>
    refine List.forall_mem_append.mpr ⟨fun e he => ?_, hedges⟩
    rcases ElementSet.mem_insert he with he | rfl
    · exact hnodes e he
    · rfl
  | edge x =>
    refine List.forall_mem_append.mpr ⟨hnodes, fun e he => ?_⟩
    rcases ElementSet.mem_insert he with he | rfl
    · exact hedges e he
    · rfl

theorem truncate (h : g.AsBuilt) : AsBuilt { g with truncated := true } :=
  ⟨⟨h.indexed.nodes, h.indexed.edges⟩, h.position⟩

theorem perform (h : a.result.AsBuilt) (operation : Assembler.Operation) :
    (a.perform operation).result.AsBuilt := by
  cases operation with
  | withLimit limit => exact h
  | addVertex v => exact h.add (.vertex v)
  | addEdge e => exact h.add (.edge e)
  | ingest xs =>
    exact Assembler.ingest_induction (fun _ x _ ha => ha.add x) (fun _ hg => hg.truncate) h
  | truncate => exact h.truncate

theorem run (h : a.result.AsBuilt) (operations : List Assembler.Operation) :
    (a.run operations).result.AsBuilt := by
  induction operations generalizing a with
  | nil => exact h
  | cons operation operations ih => exact ih (h.perform operation)

theorem merge (hg : g.AsBuilt) (hh : h.AsBuilt) : (g.merge h).AsBuilt := by
  obtain ⟨hnodes, hedges⟩ := List.forall_mem_append.mp hg.position
  obtain ⟨hmoreNodes, hmoreEdges⟩ := List.forall_mem_append.mp hh.position
  refine ⟨⟨hg.indexed.nodes.insertAll _, hg.indexed.edges.insertAll _⟩,
    List.forall_mem_append.mpr ⟨fun e he => ?_, fun e he => ?_⟩⟩
  · exact (ElementSet.mem_insertAll he).elim (hnodes e) (hmoreNodes e)
  · exact (ElementSet.mem_insertAll he).elim (hedges e) (hmoreEdges e)

end AsBuilt

theorem Built.asBuilt (hg : g.Built) : g.AsBuilt := by
  induction hg with
  | assembled dataSource scheme operations => exact AsBuilt.empty.run operations
  | merge _ _ ihg ihh => exact ihg.merge ihh

end Causeway.Graph
