import Causeway.Proofs.Graph.WellFormed
import Causeway.Proofs.Memory.Assembled
import Causeway.Proofs.Memory.Growth

/-!
# What a dataset answers from

Every answer is assembled from vertices and edges of the dataset (`assembled_of_answer`), and so it
is normal. It is well-formed as well if all classes are unbroken. A class that is broken by white
space spoils the answer to a request for this very class (`answer_isWellFormed_iff`).
-/

namespace Causeway.Memory

open Causeway.Graph

/-- A walk has met and crossed nothing but vertices and edges of the dataset. -/
structure Walk.Within (d : Dataset) (w : Walk) : Prop where
  reached : ∀ v ∈ w.reached, v ∈ d.vertices
  traversed : ∀ e ∈ w.traversed, e ∈ d.edges

namespace Walk.Within

variable {d : Dataset} {w : Walk}

theorem takeEdge (h : w.Within d) {e : Edge} (he : e ∈ d.edges) : (w.takeEdge e).Within d := by
  unfold Walk.takeEdge
  split
  · exact h
  · refine ⟨h.reached, fun x hx => ?_⟩
    rcases Array.mem_push.mp hx with hold | rfl
    · exact h.traversed x hold
    · exact he

theorem goTo (h : w.Within d) (id : String) : (w.goTo d id).Within d := by
  unfold Walk.goTo
  split
  · exact h
  · dsimp only
    split
    · rename_i v hv
      refine ⟨fun x hx => ?_, h.traversed⟩
      rcases Array.mem_push.mp hx with hold | rfl
      · exact h.reached x hold
      · exact List.mem_of_find?_eq_some hv
    · exact ⟨h.reached, h.traversed⟩

theorem leave (h : w.Within d) (direction : Direction) (label : Option String) (id : String) :
    (w.leave d direction label id).Within d := by
  unfold Walk.leave
  have hincident : ∀ x ∈ d.incident direction label id, x.1 ∈ d.edges := fun x hx =>
    (Dataset.mem_incident_iff.mp hx).1
  have hreset : Walk.Within d { w with next := #[] } := ⟨h.reached, h.traversed⟩
  generalize d.incident direction label id = l at hincident
  generalize { w with next := #[] } = w' at hreset
  induction l generalizing w' with
  | nil => exact hreset
  | cons x l ih =>
    refine ih (fun y hy => hincident y (List.mem_cons_of_mem x hy)) _ ?_
    exact (hreset.takeEdge (hincident x List.mem_cons_self)).goTo x.2

theorem drain (h : w.Within d) (direction : Direction) (label : Option String) (hops : Nat)
    (queue : List (String × Nat)) : (Walk.drain d direction label hops queue w).Within d := by
  induction queue, w using Walk.drain.induct d direction label hops with
  | case1 w => rwa [Walk.drain]
  | case2 w id distance queue hfar ih =>
    rw [Walk.drain, if_pos hfar]
    exact ih h
  | case3 w id distance queue hnear w' ih =>
    rw [Walk.drain, if_neg hnear]
    exact ih (h.leave direction label id)

end Walk.Within

namespace Dataset

variable {d e : Dataset} {ds es : DataSource} {r : Request} {g : Graph}

theorem within_walk (d : Dataset) (ids : List String) (direction : Direction)
    (label : Option String) (hops : Nat) : (d.walk ids direction label hops).Within d := by
  refine Walk.Within.drain ⟨?_, ?_⟩ direction label (max hops 1) _ <;> simp

/-- A vertex or an edge of a dataset, as it is handed to an assembler. -/
inductive Native (d : Dataset) : NativeElement → Prop
  | vertex {v : Vertex} : v ∈ d.vertices → Native d (.vertex (d.nativeVertex v))
  | edge {e : Edge} : e ∈ d.edges → Native d (.edge (nativeEdge e))

theorem native_of_mem_nativeElements {vertices : List Vertex} {edges : List Edge}
    (hvertices : ∀ v ∈ vertices, v ∈ d.vertices) (hedges : ∀ e ∈ edges, e ∈ d.edges) :
    ∀ x ∈ d.nativeElements vertices edges, d.Native x := by
  intro x hx
  rcases List.mem_append.mp hx with hx | hx
  · obtain ⟨v, hv, rfl⟩ := List.mem_map.mp hx
    exact .vertex (hvertices v hv)
  · obtain ⟨e, he, rfl⟩ := List.mem_map.mp hx
    exact .edge (hedges e he)

theorem native_of_element? {id : String} {x : NativeElement} (hx : d.element? id = some x) :
    d.Native x := by
  unfold element? at hx
  split at hx
  · rename_i v hv
    obtain rfl := Option.some.inj hx
    exact .vertex (List.mem_of_find?_eq_some hv)
  · obtain ⟨e, he, rfl⟩ := Option.map_eq_some_iff.mp hx
    exact .edge (List.mem_of_find?_eq_some he)

/-- A graph of vertices and edges of the dataset, within some limit. -/
def Assembled (d : Dataset) (ds : DataSource) (g : Graph) : Prop :=
  ∃ limit xs, (∀ x ∈ xs, d.Native x) ∧ (((assembler ds).withLimit limit).ingest xs).result = g

theorem assembled_assemble (ds : DataSource) (limit : Nat) {vertices : List Vertex}
    {edges : List Edge} (hvertices : ∀ v ∈ vertices, v ∈ d.vertices)
    (hedges : ∀ e ∈ edges, e ∈ d.edges) : d.Assembled ds (d.assemble ds limit vertices edges) :=
  ⟨limit, _, native_of_mem_nativeElements hvertices hedges, rfl⟩

theorem assembled_of_query {text : String} {limit : Nat} (h : d.query ds text limit = .ok g) :
    d.Assembled ds g := by
  unfold query at h
  dsimp only at h
  split at h
  · obtain rfl := Except.ok.inj h
    exact assembled_assemble ds limit (fun _ hv => hv) fun _ he => he
  · split at h
    · obtain rfl := Except.ok.inj h
      exact assembled_assemble ds limit (fun _ hv => (List.mem_filter.mp hv).1) fun _ he =>
        (List.mem_filter.mp he).1
    · cases h

theorem assembled_of_expand {ids : List String} {direction : Direction} {label : Option String}
    {hops : Nat} (h : d.expand ds ids direction label hops = .ok g) : d.Assembled ds g := by
  unfold expand at h
  obtain ⟨native, -, hg⟩ := exists_of_bind_eq_ok h
  obtain rfl := Except.ok.inj hg
  have hwalk := within_walk d native direction label hops
  exact assembled_assemble ds 0 (fun v hv => hwalk.reached v (Array.mem_toList_iff.mp hv))
    fun e he => hwalk.traversed e (Array.mem_toList_iff.mp he)

theorem assembled_of_load {ids : List String} (h : d.load ds ids = .ok g) : d.Assembled ds g := by
  unfold load at h
  obtain ⟨native, -, hg⟩ := exists_of_bind_eq_ok h
  obtain rfl := Except.ok.inj hg
  refine ⟨0, native.filterMap d.element?, fun x hx => ?_, rfl⟩
  obtain ⟨id, -, hid⟩ := List.mem_filterMap.mp hx
  exact native_of_element? hid

theorem assembled_of_between {sources labels targets : List String}
    (h : d.between ds sources labels targets = .ok g) : d.Assembled ds g := by
  unfold between at h
  obtain ⟨sources, -, hrest⟩ := exists_of_bind_eq_ok h
  obtain ⟨targets, -, hg⟩ := exists_of_bind_eq_ok hrest
  obtain rfl := Except.ok.inj hg
  exact assembled_assemble ds 0 (fun _ hv => absurd hv List.not_mem_nil) fun _ he =>
    (List.mem_filter.mp he).1

theorem assembled_of_answer (h : d.answer ds r = .ok g) : d.Assembled ds g := by
  cases r with
  | query text limit => exact assembled_of_query h
  | expand ids direction label hops => exact assembled_of_expand h
  | load ids => exact assembled_of_load h
  | ofClass cls filter limit =>
    obtain rfl := Except.ok.inj h
    exact assembled_assemble ds limit
      (fun _ hv => (List.mem_filter.mp (List.mem_filter.mp hv).1).1) fun _ he =>
        (List.mem_filter.mp (List.mem_filter.mp he).1).1
  | between sources labels targets => exact assembled_of_between h
  | probe =>
    obtain rfl := Except.ok.inj h
    exact ⟨0, [], fun _ hx => absurd hx List.not_mem_nil, rfl⟩

/-! ### Classes -/

/-- A dataset none of whose classes is broken by white space. -/
structure Unbroken (d : Dataset) : Prop where
  vertices : ∀ v ∈ d.vertices, Text.Unbroken v.cls
  edges : ∀ e ∈ d.edges, Text.Unbroken e.cls

/-- A node has the class of a vertex, which is registered. -/
theorem exists_vertex_of_isNodeOf {t : ClassTypes} {n : NativeVertex} {x : Element}
    (hn : d.Native (.vertex n)) (hx : IsNodeOf t n x) :
    ∃ v ∈ d.vertices, x.classes = v.cls ∧ NameMap.contains t v.cls = true := by
  cases hn with
  | @vertex v hv =>
    refine ⟨v, hv, ?_, hx.registered v.cls ?_⟩
    · rw [hx.classes, nativeVertex_labels]
      exact String.ofList_toList
    · rw [nativeVertex_labels]
      exact List.mem_cons_self

theorem exists_edge_of_isEdgeOf {t : ClassTypes} {n : NativeEdge} {x : Element}
    (hn : d.Native (.edge n)) (hx : IsEdgeOf t n x) :
    ∃ e ∈ d.edges, x.classes = e.cls ∧ NameMap.contains t e.cls = true := by
  cases hn with
  | @edge e he => exact ⟨e, he, hx.classes, hx.registered⟩

namespace Assembled

variable (h : d.Assembled ds g)
include h

theorem stemsFrom : ∃ xs, (∀ x ∈ xs, d.Native x) ∧ g.StemsFrom xs := by
  obtain ⟨limit, xs, hnative, rfl⟩ := h
  exact ⟨xs, hnative, Assembler.stemsFrom_ingest (stemsFrom_empty xs) fun _ hx => hx⟩

theorem normal : g.Normal := by
  obtain ⟨xs, hnative, hstems⟩ := h.stemsFrom
  constructor
  · intro x hx
    obtain ⟨n, hn, hnode⟩ := hstems.nodes x hx
    obtain ⟨v, -, hcls, hregistered⟩ := exists_vertex_of_isNodeOf (hnative _ hn) hnode
    exact ⟨hnode.toIsNode, by rwa [hcls]⟩
  · intro x hx
    obtain ⟨n, hn, hedge⟩ := hstems.edges x hx
    obtain ⟨e, -, hcls, hregistered⟩ := exists_edge_of_isEdgeOf (hnative _ hn) hedge
    exact ⟨hedge.toIsEdge, by rwa [hcls]⟩

theorem isWellFormed (hd : d.Unbroken) : g.isWellFormed = true := by
  obtain ⟨xs, hnative, hstems⟩ := h.stemsFrom
  refine h.normal.isWellFormed ?_ ?_
  · intro x hx
    obtain ⟨n, hn, hnode⟩ := hstems.nodes x hx
    obtain ⟨v, hv, hcls, -⟩ := exists_vertex_of_isNodeOf (hnative _ hn) hnode
    exact hcls ▸ hd.vertices v hv
  · intro x hx
    obtain ⟨n, hn, hedge⟩ := hstems.edges x hx
    obtain ⟨e, he, hcls, -⟩ := exists_edge_of_isEdgeOf (hnative _ hn) hedge
    exact hcls ▸ hd.edges e he

end Assembled

section OfClass

variable (d : Dataset) (ds : DataSource) (cls : String) (filter : Option PropertyFilter)
  (limit : Nat)

theorem stemsFrom_ofClass :
    ∃ xs, (∀ n, .vertex n ∈ xs → n.labels = [cls]) ∧ (∀ n, .edge n ∈ xs → n.label = cls) ∧
      (d.ofClass ds cls filter limit).StemsFrom xs := by
  refine ⟨_, ?_, ?_, Assembler.stemsFrom_ingest (stemsFrom_empty _) fun _ hx => hx⟩
  · intro n hn
    rcases List.mem_append.mp hn with hn | hn
    · obtain ⟨v, hv, heq⟩ := List.mem_map.mp hn
      obtain rfl := NativeElement.vertex.inj heq
      have hcls := (List.mem_filter.mp (List.mem_filter.mp hv).1).2
      rw [nativeVertex_labels, eq_of_beq hcls]
    · obtain ⟨e, -, heq⟩ := List.mem_map.mp hn
      cases heq
  · intro n hn
    rcases List.mem_append.mp hn with hn | hn
    · obtain ⟨v, -, heq⟩ := List.mem_map.mp hn
      cases heq
    · obtain ⟨e, he, heq⟩ := List.mem_map.mp hn
      obtain rfl := NativeElement.edge.inj heq
      exact eq_of_beq (List.mem_filter.mp (List.mem_filter.mp he).1).2

/-- The nodes of a class, in an answer that registers no other class for nodes. -/
theorem nodes_ofClass :
    (∀ x ∈ (d.ofClass ds cls filter limit).nodes.toList, x.classes = cls) ∧
      ∀ c, NameMap.contains (d.ofClass ds cls filter limit).nodeClasses c = true → c = cls := by
  obtain ⟨xs, hlabels, -, hstems⟩ := stemsFrom_ofClass d ds cls filter limit
  constructor
  · intro x hx
    obtain ⟨n, hn, hnode⟩ := hstems.nodes x hx
    rw [hnode.classes, hlabels n hn]
    exact String.ofList_toList
  · intro c hc
    obtain ⟨n, hn, hlabel⟩ := hstems.nodeClasses c hc
    rw [hlabels n hn] at hlabel
    exact List.mem_singleton.mp hlabel

theorem edges_ofClass :
    (∀ x ∈ (d.ofClass ds cls filter limit).edges.toList, x.classes = cls) ∧
      ∀ c, NameMap.contains (d.ofClass ds cls filter limit).edgeClasses c = true → c = cls := by
  obtain ⟨xs, -, hlabel, hstems⟩ := stemsFrom_ofClass d ds cls filter limit
  constructor
  · intro x hx
    obtain ⟨n, hn, hedge⟩ := hstems.edges x hx
    rw [hedge.classes, hlabel n hn]
  · intro c hc
    obtain ⟨n, hn, rfl⟩ := hstems.edgeClasses c hc
    exact hlabel n hn

end OfClass

/-- Each vertex and each edge is in the answer for its class, which is well-formed only if the class
is not broken. -/
theorem unbroken_of_isWellFormed (d : Dataset) (ds : DataSource)
    (h : ∀ cls, (d.ofClass ds cls none 0).isWellFormed = true) : d.Unbroken := by
  constructor
  · intro v hv
    have hid : scheme.encode ds.id v.id ∈ (d.ofClass ds v.cls none 0).nodes.ids := by
      refine (mem_assemble_nodes _ _ _).mpr ⟨v, ?_, rfl⟩
      simp [verticesOf, hv, matchesFilter]
    obtain ⟨x, hx, -⟩ := List.mem_map.mp hid
    obtain ⟨hclasses, hregistered⟩ := nodes_ofClass d ds v.cls none 0
    obtain ⟨-, hlabels⟩ := (isWellFormed_iff.mp (h v.cls)).1 x hx
    rw [Element.labels, hclasses x hx] at hlabels
    exact Text.wordsOf_eq_self_iff.mp fun w hw => hregistered w (hlabels w hw)
  · intro e he
    have hid : scheme.encode ds.id e.id ∈ (d.ofClass ds e.cls none 0).edges.ids := by
      refine (mem_assemble_edges _ _ _).mpr ⟨e, ?_, rfl⟩
      simp [edgesOf, he, matchesFilter]
    obtain ⟨x, hx, -⟩ := List.mem_map.mp hid
    obtain ⟨hclasses, hregistered⟩ := edges_ofClass d ds e.cls none 0
    obtain ⟨-, hlabels⟩ := (isWellFormed_iff.mp (h e.cls)).2 x hx
    rw [Element.labels, hclasses x hx] at hlabels
    exact Text.wordsOf_eq_self_iff.mp fun w hw => hregistered w (hlabels w hw)

/-- Answers and their merges are normal. They are well-formed, all of them, exactly if no class of
the datasets is broken by white space. -/
theorem answer_isWellFormed_iff (d e : Dataset) (ds es : DataSource) :
    (∀ r s g h, d.answer ds r = .ok g → e.answer es s = .ok h →
        g.Normal ∧ h.Normal ∧ (g.merge h).Normal) ∧
      ((∀ r s g h, d.answer ds r = .ok g → e.answer es s = .ok h →
          g.isWellFormed = true ∧ h.isWellFormed = true ∧ (g.merge h).isWellFormed = true) ↔
        d.Unbroken ∧ e.Unbroken) := by
  constructor
  · intro r s g h hg hh
    have hg := (assembled_of_answer hg).normal
    have hh := (assembled_of_answer hh).normal
    exact ⟨hg, hh, hg.merge hh⟩
  · constructor
    · intro hall
      constructor
      · refine unbroken_of_isWellFormed d ds fun cls => ?_
        exact (hall (.ofClass cls none 0) .probe _ _ rfl rfl).1
      · refine unbroken_of_isWellFormed e es fun cls => ?_
        exact (hall .probe (.ofClass cls none 0) _ _ rfl rfl).2.1
    · rintro ⟨hd, he⟩ r s g h hg hh
      have hg := (assembled_of_answer hg).isWellFormed hd
      have hh := (assembled_of_answer hh).isWellFormed he
      exact ⟨hg, hh, isWellFormed_merge hg hh⟩

/-- A city whose class has a blank in it. -/
def capital : Dataset where
  vertices := [{ id := "#1:0", cls := "Big City" }]

def gazetteer : DataSource where
  id := 1
  type := tag
  name := "gazetteer"

/-- Its class is registered, and yet the answer is not well-formed. -/
theorem not_isWellFormed_capital :
    ∃ g, capital.answer gazetteer (.query "*" 0) = .ok g ∧ g.isWellFormed = false ∧
      NameMap.contains g.nodeClasses "Big City" = true :=
  ⟨capital.assemble gazetteer 0 capital.vertices [], rfl, by decide, by decide⟩

end Dataset

end Causeway.Memory
