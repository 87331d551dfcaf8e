import Causeway.Proofs.Graph.Assembly
import Causeway.Proofs.Graph.ClassTypes

/-!
# Merging is assembling what comes later

A graph in front of an assembler's result (`Assembler.onto`) is not noticed by the assembler: adding
an element and then putting the graph in front is the same as the other way round (`onto_add`), and
so for a whole run without a limit (`onto_ingest`). A run that goes on from an earlier one is
therefore the merge of the two (`ingest_append_eq_merge`).
-/

namespace Causeway.Graph

namespace ElementSet

variable {s t : ElementSet}

theorem insertAll_append (s : ElementSet) (l m : List Element) :
    s.insertAll (l ++ m) = (s.insertAll l).insertAll m :=
  List.foldl_append

theorem insert_of_mem (h : s.Indexed) {e : Element} (hmem : e.id ∈ s.ids) : s.insert e = s :=
  if_pos (h.contains_iff.mpr hmem)

/-- An element that is not new to a set is not new to what the set is added to. -/
theorem insertAll_insert (hs : s.Indexed) (ht : t.Indexed) (e : Element) :
    s.insertAll (t.insert e).toList = (s.insertAll t.toList).insert e := by
  rw [toList_insert ht]
  by_cases hmem : e.id ∈ t.ids
  · have hlater : e.id ∈ (s.insertAll t.toList).ids := (mem_ids_insertAll hs _).mpr (.inr hmem)
    rw [if_pos hmem, insert_of_mem (hs.insertAll _) hlater]
  · rw [if_neg hmem, insertAll_append]
    rfl

end ElementSet

theorem merge_empty (g : Graph) : g.merge Graph.empty = g :=
  congrArg (fun truncated => { g with truncated }) (Bool.or_false g.truncated)

theorem merge_registerProperties (t u : ClassTypes) (label : String)
    (properties : List NativeProperty) :
    t.merge (registerProperties u label properties) =
      registerProperties (t.merge u) label properties := by
  unfold registerProperties
  rw [← ClassTypes.merge_ensureClass]
  refine (List.foldl_hom t.merge fun classes p => ?_).symm
  cases p.semanticType? with
  | none => rfl
  | some type => exact (ClassTypes.merge_register t classes label p.name type).symm

namespace Assembler

variable {a : Assembler} {g : Graph}

/-- The assembler with a graph in front of its result. -/
def onto (a : Assembler) (g : Graph) : Assembler := { a with result := g.merge a.result }

theorem onto_addVertex (hg : g.Indexed) (ha : a.result.Indexed) (v : NativeVertex) :
    (a.onto g).addVertex v = (a.addVertex v).onto g := by
  have hclasses :
      v.labels.foldl (fun c label => registerProperties c label v.properties)
          (g.nodeClasses.merge a.result.nodeClasses) =
        g.nodeClasses.merge
          (v.labels.foldl (fun c label => registerProperties c label v.properties)
            a.result.nodeClasses) :=
    List.foldl_hom g.nodeClasses.merge fun c label =>
      (merge_registerProperties g.nodeClasses c label v.properties).symm
  have hnodes : (g.nodes.insertAll a.result.nodes.toList).insert (a.vertexElement v) =
      g.nodes.insertAll (a.result.nodes.insert (a.vertexElement v)).toList :=
    (ElementSet.insertAll_insert hg.nodes ha.nodes _).symm
  unfold onto addVertex merge
  dsimp only
  rw [hclasses, ← hnodes]
  rfl

theorem onto_addEdge (hg : g.Indexed) (ha : a.result.Indexed) (e : NativeEdge) :
    (a.onto g).addEdge e = (a.addEdge e).onto g := by
  have hclasses := merge_registerProperties g.edgeClasses a.result.edgeClasses e.label e.properties
  have hedges : (g.edges.insertAll a.result.edges.toList).insert (a.edgeElement e) =
      g.edges.insertAll (a.result.edges.insert (a.edgeElement e)).toList :=
    (ElementSet.insertAll_insert hg.edges ha.edges _).symm
  unfold onto addEdge merge
  dsimp only
  rw [hclasses, ← hedges]
  rfl

theorem onto_add (hg : g.Indexed) (ha : a.result.Indexed) (x : NativeElement) :
    (a.onto g).add x = (a.add x).onto g := by
  cases x with
  | vertex v => exact onto_addVertex hg ha v
  | edge e => exact onto_addEdge hg ha e

theorem onto_ingest (hlimit : a.limit = none) (hg : g.Indexed) (ha : a.result.Indexed)
    (xs : List NativeElement) : (a.onto g).ingest xs = (a.ingest xs).onto g := by
  induction xs generalizing a with
  | nil => rfl
  | cons x xs ih =>
    have honto : (a.onto g).limit = none := hlimit
    rw [ingest_cons_of_unlimited honto, onto_add hg ha, ingest_cons_of_unlimited hlimit,
      ih (by simpa using hlimit) (indexed_add ha x)]

/-- A run changes nothing but the result. -/
theorem ingest_with_result (a : Assembler) (xs : List NativeElement) :
    { a with result := (a.ingest xs).result } = a.ingest xs := by
  induction xs generalizing a with
  | nil => rfl
  | cons x xs ih =>
    rw [ingest]
    split
    · rfl
    · refine Eq.trans ?_ (ih (a.add x))
      cases x <;> rfl

/-- Assembling two lists of elements one after the other is merging what they become apart. -/
theorem ingest_append_eq_merge (dataSource : Int) (scheme : IdScheme) (xs ys : List NativeElement) :
    let fresh : Assembler := { dataSource, scheme }
    ((fresh.ingest xs).ingest ys).result = (fresh.ingest xs).result.merge (fresh.ingest ys).result ∧
      (xs ++ ys).foldl add fresh = (fresh.ingest xs).ingest ys := by
  intro fresh
  have hempty : fresh.result.Indexed := indexed_empty
  have hfirst : fresh.ingest xs = fresh.onto (fresh.ingest xs).result := by
    have hresult : fresh.result = Graph.empty := rfl
    rw [onto, hresult, merge_empty, ingest_with_result]
  constructor
  · rw [hfirst, onto_ingest rfl (indexed_ingest hempty xs) hempty, ← hfirst]
    rfl
  · have hlimit : (fresh.ingest xs).limit = none := by rw [← ingest_with_result]
    have hfold : xs.foldl add fresh = fresh.ingest xs := (ingest_eq_foldl rfl xs).symm
    rw [List.foldl_append, hfold, ingest_eq_foldl hlimit]

end Assembler

end Causeway.Graph
