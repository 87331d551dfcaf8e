import Causeway.Proofs.ElementId
import Causeway.Proofs.Graph.Assembly
import Causeway.Proofs.Graph.ClassTypes
import Causeway.Proofs.Text.Words

/-!
# Well-formed graphs

In a normal graph the class of each element is registered, nodes have their counters and edges their
ends (`Normal`). That is all that makes a graph well-formed, as long as no class is broken by white
space: labels are looked up word by word. Merging keeps both (`Normal.merge`, `isWellFormed_merge`),
since elements come from either side and no class is lost.

An assembler's result has the elements and the classes of what it was fed, and nothing else
(`StemsFrom`). The step that adds an element registers its classes at once, so a limit that ends the
run early does no harm (`Assembler.stemsFrom_ingest`).
-/

namespace Causeway.Graph

theorem ElementSet.mem_insert {s : ElementSet} {x e : Element} (hx : x ∈ (s.insert e).toList) :
    x ∈ s.toList ∨ x = e := by
  unfold insert at hx
  split at hx
  · exact .inl hx
  · simpa [toList] using hx

theorem ElementSet.mem_insertAll {s : ElementSet} {x : Element} {l : List Element}
    (hx : x ∈ (s.insertAll l).toList) : x ∈ s.toList ∨ x ∈ l := by
  induction l generalizing s with
  | nil => exact .inl hx
  | cons e l ih =>
    rcases ih hx with hold | hlater
    · rcases mem_insert hold with hold | rfl
      · exact .inl hold
      · exact .inr List.mem_cons_self
    · exact .inr (List.mem_cons_of_mem e hlater)

/-- A node with its counters. -/
structure IsNode (x : Element) : Prop where
  group : x.group = .nodes
  counted : ∀ key ∈ [inKey, outKey, edgeCountKey], x.record.contains key = true

/-- An edge with its ends. -/
structure IsEdge (x : Element) : Prop where
  group : x.group = .edges
  source : ∃ s, x.source = some s ∧ s ≠ ""
  target : ∃ s, x.target = some s ∧ s ≠ ""

/-- All elements are what they should be, and the class of each is registered as it is. -/
structure Normal (g : Graph) : Prop where
  nodes : ∀ x ∈ g.nodes.toList, IsNode x ∧ NameMap.contains g.nodeClasses x.classes = true
  edges : ∀ x ∈ g.edges.toList, IsEdge x ∧ NameMap.contains g.edgeClasses x.classes = true

variable {g h : Graph} {x : Element}

theorem nodeIsWellFormed_iff : g.nodeIsWellFormed x = true ↔
    IsNode x ∧ ∀ label ∈ x.labels, NameMap.contains g.nodeClasses label = true := by
  unfold nodeIsWellFormed
  rw [Bool.and_eq_true, Bool.and_eq_true, beq_iff_eq, List.all_eq_true, List.all_eq_true]
  constructor
  · rintro ⟨⟨hgroup, hlabels⟩, hcounted⟩
    exact ⟨⟨hgroup, hcounted⟩, hlabels⟩
  · rintro ⟨⟨hgroup, hcounted⟩, hlabels⟩
    exact ⟨⟨hgroup, hlabels⟩, hcounted⟩

theorem edgeIsWellFormed_iff : g.edgeIsWellFormed x = true ↔
    IsEdge x ∧ ∀ label ∈ x.labels, NameMap.contains g.edgeClasses label = true := by
  have hend : ∀ s : Option String, s.any (fun s => s ≠ "") = true ↔ ∃ t, s = some t ∧ t ≠ "" := by
    intro s
    cases s <;> simp
  unfold edgeIsWellFormed
  simp only [Bool.and_eq_true, beq_iff_eq, List.all_eq_true, hend]
  constructor
  · rintro ⟨⟨⟨hgroup, hlabels⟩, hsource⟩, htarget⟩
    exact ⟨⟨hgroup, hsource, htarget⟩, hlabels⟩
  · rintro ⟨⟨hgroup, hsource, htarget⟩, hlabels⟩
    exact ⟨⟨⟨hgroup, hlabels⟩, hsource⟩, htarget⟩

theorem isWellFormed_iff : g.isWellFormed = true ↔
    (∀ x ∈ g.nodes.toList,
        IsNode x ∧ ∀ label ∈ x.labels, NameMap.contains g.nodeClasses label = true) ∧
      ∀ x ∈ g.edges.toList,
        IsEdge x ∧ ∀ label ∈ x.labels, NameMap.contains g.edgeClasses label = true := by
  rw [isWellFormed, Bool.and_eq_true, List.all_eq_true, List.all_eq_true]
  simp only [nodeIsWellFormed_iff, edgeIsWellFormed_iff]

/-- Labels that are classes as a whole make a normal graph well-formed. -/
theorem Normal.isWellFormed (hg : g.Normal)
    (hnodes : ∀ x ∈ g.nodes.toList, Text.Unbroken x.classes)
    (hedges : ∀ x ∈ g.edges.toList, Text.Unbroken x.classes) : g.isWellFormed = true := by
  rw [isWellFormed_iff]
  constructor
  · intro x hx
    obtain ⟨hnode, hclass⟩ := hg.nodes x hx
    refine ⟨hnode, fun label hlabel => ?_⟩
    rwa [Text.wordsOf_eq_self_iff.mpr (hnodes x hx) label hlabel]
  · intro x hx
    obtain ⟨hedge, hclass⟩ := hg.edges x hx
    refine ⟨hedge, fun label hlabel => ?_⟩
    rwa [Text.wordsOf_eq_self_iff.mpr (hedges x hx) label hlabel]

/-! ### Merging -/

/-- What holds of elements and still holds when more classes are registered, holds in a merge. -/
theorem forall_mem_merge {p : ClassTypes → Element → Prop}
    (hgrow : ∀ {t u : ClassTypes} {x : Element},
      (∀ cls, NameMap.contains t cls = true → NameMap.contains u cls = true) → p t x → p u x)
    {t u : ClassTypes} {s r : ElementSet} (hs : ∀ x ∈ s.toList, p t x) (hr : ∀ x ∈ r.toList, p u x) :
    ∀ x ∈ (s.insertAll r.toList).toList, p (t.merge u) x := by
  intro x hx
  rcases ElementSet.mem_insertAll hx with hx | hx
  · refine hgrow (fun cls hcls => ?_) (hs x hx)
    rw [ClassTypes.contains_merge, hcls, Bool.true_or]
  · refine hgrow (fun cls hcls => ?_) (hr x hx)
    rw [ClassTypes.contains_merge, hcls, Bool.or_true]

theorem Normal.merge (hg : g.Normal) (hh : h.Normal) : (g.merge h).Normal := by
  constructor
  · refine forall_mem_merge (p := fun t x => IsNode x ∧ NameMap.contains t x.classes = true) ?_
      hg.nodes hh.nodes
    rintro t u x hgrows ⟨hnode, hclass⟩
    exact ⟨hnode, hgrows _ hclass⟩
  · refine forall_mem_merge (p := fun t x => IsEdge x ∧ NameMap.contains t x.classes = true) ?_
      hg.edges hh.edges
    rintro t u x hgrows ⟨hedge, hclass⟩
    exact ⟨hedge, hgrows _ hclass⟩

theorem isWellFormed_merge (hg : g.isWellFormed = true) (hh : h.isWellFormed = true) :
    (g.merge h).isWellFormed = true := by
  rw [isWellFormed_iff] at hg hh ⊢
  constructor
  · refine forall_mem_merge
      (p := fun t x => IsNode x ∧ ∀ label ∈ x.labels, NameMap.contains t label = true) ?_ hg.1 hh.1
    rintro t u x hgrows ⟨hnode, hlabels⟩
    exact ⟨hnode, fun label hlabel => hgrows label (hlabels label hlabel)⟩
  · refine forall_mem_merge
      (p := fun t x => IsEdge x ∧ ∀ label ∈ x.labels, NameMap.contains t label = true) ?_ hg.2 hh.2
    rintro t u x hgrows ⟨hedge, hlabels⟩
    exact ⟨hedge, fun label hlabel => hgrows label (hlabels label hlabel)⟩

/-! ### What an assembler registers -/

/-- The node of a vertex whose labels are registered. -/
structure IsNodeOf (t : ClassTypes) (v : NativeVertex) (x : Element) : Prop extends IsNode x where
  classes : x.classes = Text.joined " " v.labels
  registered : ∀ label ∈ v.labels, NameMap.contains t label = true

/-- The edge of a native edge whose label is registered. -/
structure IsEdgeOf (t : ClassTypes) (e : NativeEdge) (x : Element) : Prop extends IsEdge x where
  classes : x.classes = e.label
  registered : NameMap.contains t e.label = true

/-- The elements of a graph are those of native elements, and so are its classes. -/
structure StemsFrom (g : Graph) (xs : List NativeElement) : Prop where
  nodes : ∀ x ∈ g.nodes.toList, ∃ v, .vertex v ∈ xs ∧ IsNodeOf g.nodeClasses v x
  edges : ∀ x ∈ g.edges.toList, ∃ e, .edge e ∈ xs ∧ IsEdgeOf g.edgeClasses e x
  nodeClasses : ∀ cls, NameMap.contains g.nodeClasses cls = true → ∃ v, .vertex v ∈ xs ∧ cls ∈ v.labels
  edgeClasses : ∀ cls, NameMap.contains g.edgeClasses cls = true → ∃ e, .edge e ∈ xs ∧ cls = e.label

theorem stemsFrom_empty (xs : List NativeElement) : Graph.empty.StemsFrom xs := by
  refine ⟨?_, ?_, ?_, ?_⟩ <;> simp [Graph.empty, ElementSet.empty, ElementSet.toList]

namespace Assembler

variable {a : Assembler} {xs ys : List NativeElement}

theorem isNode_vertexElement (a : Assembler) (v : NativeVertex) : IsNode (a.vertexElement v) where
  group := rfl
  counted := by
    simp [vertexElement, Element.node, vertexRecord, NameMap.contains_insert, inKey, outKey,
      edgeCountKey]

theorem isEdge_edgeElement (a : Assembler) (e : NativeEdge) : IsEdge (a.edgeElement e) where
  group := rfl
  source := ⟨_, rfl, IdScheme.encode_ne_empty _ _ _⟩
  target := ⟨_, rfl, IdScheme.encode_ne_empty _ _ _⟩

theorem contains_addVertex (a : Assembler) (v : NativeVertex) (cls : String) :
    NameMap.contains (a.addVertex v).result.nodeClasses cls =
      (NameMap.contains a.result.nodeClasses cls || v.labels.contains cls) := by
  unfold addVertex
  dsimp only
  generalize a.result.nodeClasses = t
  induction v.labels generalizing t with
  | nil => simp
  | cons label labels ih =>
    rw [List.foldl_cons, ih, contains_registerProperties, List.contains_cons, Bool.or_assoc]

theorem contains_addEdge (a : Assembler) (e : NativeEdge) (cls : String) :
    NameMap.contains (a.addEdge e).result.edgeClasses cls =
      (NameMap.contains a.result.edgeClasses cls || cls == e.label) :=
  contains_registerProperties a.result.edgeClasses e.label cls e.properties

theorem stemsFrom_addVertex (h : a.result.StemsFrom xs) {v : NativeVertex} (hv : .vertex v ∈ xs) :
    (a.addVertex v).result.StemsFrom xs := by
  refine ⟨?_, h.edges, ?_, h.edgeClasses⟩
  · intro x hx
    rcases ElementSet.mem_insert hx with hold | rfl
    · obtain ⟨w, hw, hnode⟩ := h.nodes x hold
      refine ⟨w, hw, hnode.toIsNode, hnode.classes, fun label hlabel => ?_⟩
      rw [contains_addVertex, hnode.registered label hlabel, Bool.true_or]
    · refine ⟨v, hv, isNode_vertexElement a v, rfl, fun label hlabel => ?_⟩
      rw [contains_addVertex, List.contains_iff_mem.mpr hlabel, Bool.or_true]
  · intro cls hcls
    rw [contains_addVertex, Bool.or_eq_true, List.contains_iff_mem] at hcls
    rcases hcls with hold | hlabel
    · exact h.nodeClasses cls hold
    · exact ⟨v, hv, hlabel⟩

theorem stemsFrom_addEdge (h : a.result.StemsFrom xs) {e : NativeEdge} (he : .edge e ∈ xs) :
    (a.addEdge e).result.StemsFrom xs := by
  refine ⟨h.nodes, ?_, h.nodeClasses, ?_⟩
  · intro x hx
    rcases ElementSet.mem_insert hx with hold | rfl
    · obtain ⟨f, hf, hedge⟩ := h.edges x hold
      refine ⟨f, hf, hedge.toIsEdge, hedge.classes, ?_⟩
      rw [contains_addEdge, hedge.registered, Bool.true_or]
    · refine ⟨e, he, isEdge_edgeElement a e, rfl, ?_⟩
      rw [contains_addEdge, beq_self_eq_true, Bool.or_true]
  · intro cls hcls
    rw [contains_addEdge, Bool.or_eq_true, beq_iff_eq] at hcls
    rcases hcls with hold | hlabel
    · exact h.edgeClasses cls hold
    · exact ⟨e, he, hlabel⟩

theorem stemsFrom_ingest (h : a.result.StemsFrom xs) (hys : ys ⊆ xs) :
    (a.ingest ys).result.StemsFrom xs := by
  induction ys generalizing a with
  | nil => exact h
  | cons y ys ih =>
    obtain ⟨hy, hrest⟩ := List.cons_subset.mp hys
    rw [ingest]
    split
    · exact ⟨h.nodes, h.edges, h.nodeClasses, h.edgeClasses⟩
    · cases y with
      | vertex v => exact ih (stemsFrom_addVertex h hy) hrest
      | edge e => exact ih (stemsFrom_addEdge h hy) hrest

end Assembler

end Causeway.Graph
