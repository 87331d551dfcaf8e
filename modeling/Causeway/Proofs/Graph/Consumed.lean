import Causeway.Proofs.Graph.Budget
import Causeway.Proofs.Graph.Built

/-!
# When an assembled graph is well-formed

An assembler consumes the vertices and edges that are added to it, and those that its runs take; what a
full one leaves behind is none of them. Its result has the classes of what it has consumed, whether
kept or dropped, and no others (`MadeFrom.run`). So the result is well-formed exactly if each word of a
kept class text is a whole label of something consumed (`isWellFormed_run_iff`).
-/

namespace Causeway.Graph

variable {g : Graph} {xs ys : List NativeElement}

theorem StemsFrom.mono (h : g.StemsFrom xs) (hsub : xs ⊆ ys) : g.StemsFrom ys where
  nodes x hx := (h.nodes x hx).imp fun _ => And.imp_left fun hv => hsub hv
  edges x hx := (h.edges x hx).imp fun _ => And.imp_left fun he => hsub he
  nodeClasses cls hcls := (h.nodeClasses cls hcls).imp fun _ => And.imp_left fun hv => hsub hv
  edgeClasses cls hcls := (h.edgeClasses cls hcls).imp fun _ => And.imp_left fun he => hsub he

/-- The elements of a graph stem from native elements, and its classes are all of their labels. -/
structure MadeFrom (g : Graph) (xs : List NativeElement) : Prop extends StemsFrom g xs where
  vertexLabels : ∀ v, .vertex v ∈ xs → ∀ label ∈ v.labels,
    NameMap.contains g.nodeClasses label = true
  edgeLabels : ∀ e, .edge e ∈ xs → NameMap.contains g.edgeClasses e.label = true

namespace MadeFrom

variable {a : Assembler}

theorem empty : Graph.empty.MadeFrom [] where
  toStemsFrom := stemsFrom_empty []
  vertexLabels _ hv := absurd hv List.not_mem_nil
  edgeLabels _ he := absurd he List.not_mem_nil

theorem marked (h : g.MadeFrom xs) (truncated : Bool) : MadeFrom { g with truncated } xs :=
  ⟨⟨h.nodes, h.edges, h.nodeClasses, h.edgeClasses⟩, h.vertexLabels, h.edgeLabels⟩

theorem addVertex (h : a.result.MadeFrom xs) (v : NativeVertex) :
    (a.addVertex v).result.MadeFrom (xs ++ [.vertex v]) where
  toStemsFrom :=
    Assembler.stemsFrom_addVertex (h.toStemsFrom.mono (List.subset_append_left _ _)) (by simp)
  vertexLabels w hw label hlabel := by
    rw [Assembler.contains_addVertex, Bool.or_eq_true]
    rcases List.mem_append.mp hw with hold | hnew
    · exact .inl (h.vertexLabels w hold label hlabel)
    · obtain rfl : w = v := by simpa using hnew
      exact .inr (List.contains_iff_mem.mpr hlabel)
  edgeLabels e he := h.edgeLabels e (by simpa using he)

theorem addEdge (h : a.result.MadeFrom xs) (e : NativeEdge) :
    (a.addEdge e).result.MadeFrom (xs ++ [.edge e]) where
  toStemsFrom :=
    Assembler.stemsFrom_addEdge (h.toStemsFrom.mono (List.subset_append_left _ _)) (by simp)
  vertexLabels v hv := h.vertexLabels v (by simpa using hv)
  edgeLabels f hf := by
    rw [Assembler.contains_addEdge, Bool.or_eq_true, beq_iff_eq]
    rcases List.mem_append.mp hf with hold | hnew
    · exact .inl (h.edgeLabels f hold)
    · obtain rfl : f = e := by simpa using hnew
      exact .inr rfl

theorem foldl_add (h : a.result.MadeFrom xs) (ys : List NativeElement) :
    (ys.foldl Assembler.add a).result.MadeFrom (xs ++ ys) := by
  induction ys generalizing a xs with
  | nil => rwa [List.append_nil]
  | cons y ys ih =>
    rw [List.append_cons]
    cases y with
    | vertex v => exact ih (h.addVertex v)
    | edge e => exact ih (h.addEdge e)

end MadeFrom

/-! ### What is consumed -/

namespace Assembler

variable {a : Assembler}

/-- The elements that an operation consumes. -/
def consumes (a : Assembler) : Operation → List NativeElement
  | .withLimit _ | .truncate => []
  | .addVertex v => [.vertex v]
  | .addEdge e => [.edge e]
  | .ingest xs => a.taken xs

/-- The elements that operations consume, kept or dropped, in their order. -/
def consumed (a : Assembler) : List Operation → List NativeElement
  | [] => []
  | operation :: operations => a.consumes operation ++ (a.perform operation).consumed operations

/-- What is added does not depend on limits and marks. -/
theorem foldl_add_with (a : Assembler) (limit : Option Nat) (truncated : Bool)
    (xs : List NativeElement) :
    xs.foldl add { a with limit, result.truncated := truncated } =
      { xs.foldl add a with limit, result.truncated := truncated } :=
  List.foldl_hom (fun a : Assembler => { a with limit, result.truncated := truncated }) fun a x => by
    cases x <;> rfl

theorem exists_perform_eq (a : Assembler) (operation : Operation) :
    ∃ limit truncated, a.perform operation =
      { (a.consumes operation).foldl add a with limit, result.truncated := truncated } := by
  cases operation with
  | withLimit limit => exact ⟨_, a.result.truncated, rfl⟩
  | addVertex v => exact ⟨a.limit, a.result.truncated, rfl⟩
  | addEdge e => exact ⟨a.limit, a.result.truncated, rfl⟩
  | ingest xs =>
    obtain ⟨rest, -, hingest⟩ := a.exists_ingest_eq xs
    exact ⟨_, _, hingest⟩
  | truncate => exact ⟨a.limit, true, rfl⟩

/-- Whatever is done with an assembler, it has added what it has consumed, and nothing else. -/
theorem exists_run_eq (a : Assembler) (operations : List Operation) :
    ∃ limit truncated, a.run operations =
      { (a.consumed operations).foldl add a with limit, result.truncated := truncated } := by
  induction operations generalizing a with
  | nil => exact ⟨a.limit, a.result.truncated, rfl⟩
  | cons operation operations ih =>
    obtain ⟨limit, truncated, hperform⟩ := a.exists_perform_eq operation
    obtain ⟨limit', truncated', hrun⟩ := ih (a.perform operation)
    refine ⟨limit', truncated', hrun.trans ?_⟩
    rw [consumed, List.foldl_append]
    generalize (a.perform operation).consumed operations = xs
    rw [hperform, foldl_add_with]

theorem elements_run (a : Assembler) (operations : List Operation) (k : Kind) :
    (a.run operations).result.elements k =
      (a.result.elements k).insertAll ((a.consumed operations).filterMap (a.elementOf? k)) := by
  obtain ⟨limit, truncated, hrun⟩ := a.exists_run_eq operations
  rw [hrun, ← foldl_add_elements]
  cases k <;> rfl

end Assembler

namespace MadeFrom

variable {a : Assembler}

theorem run (h : a.result.MadeFrom xs) (operations : List Assembler.Operation) :
    (a.run operations).result.MadeFrom (xs ++ a.consumed operations) := by
  obtain ⟨limit, truncated, hrun⟩ := a.exists_run_eq operations
  rw [hrun]
  exact (h.foldl_add (a.consumed operations)).marked truncated

/-! ### Words and labels -/

theorem contains_nodeClasses_iff (h : g.MadeFrom xs) (cls : String) :
    NameMap.contains g.nodeClasses cls = true ↔ ∃ v, .vertex v ∈ xs ∧ cls ∈ v.labels := by
  refine ⟨h.nodeClasses cls, ?_⟩
  rintro ⟨v, hv, hcls⟩
  exact h.vertexLabels v hv cls hcls

theorem contains_edgeClasses_iff (h : g.MadeFrom xs) (cls : String) :
    NameMap.contains g.edgeClasses cls = true ↔ ∃ e, .edge e ∈ xs ∧ cls = e.label := by
  refine ⟨h.edgeClasses cls, ?_⟩
  rintro ⟨e, he, rfl⟩
  exact h.edgeLabels e he

/-- Nodes have their counters and edges their ends, so only words that are no labels do harm. -/
theorem isWellFormed_iff (h : g.MadeFrom xs) : g.isWellFormed = true ↔
    (∀ x ∈ g.nodes.toList, ∀ w ∈ x.labels, ∃ v, .vertex v ∈ xs ∧ w ∈ v.labels) ∧
      ∀ x ∈ g.edges.toList, ∀ w ∈ x.labels, ∃ e, .edge e ∈ xs ∧ w = e.label := by
  rw [Graph.isWellFormed_iff]
  simp only [h.contains_nodeClasses_iff, h.contains_edgeClasses_iff]
  apply and_congr <;> apply forall₂_congr
  · intro x hx
    obtain ⟨v, -, hnode⟩ := h.nodes x hx
    exact and_iff_right hnode.toIsNode
  · intro x hx
    obtain ⟨e, -, hedge⟩ := h.edges x hx
    exact and_iff_right hedge.toIsEdge

theorem isWellFormed_of_forall_not_blank (h : g.MadeFrom xs)
    (hvertices : ∀ v, .vertex v ∈ xs → ∀ s ∈ v.labels, ∀ c ∈ s.toList, Text.isBlank c = false)
    (hedges : ∀ e, .edge e ∈ xs → ∀ c ∈ e.label.toList, Text.isBlank c = false) :
    g.isWellFormed = true := by
  rw [h.isWellFormed_iff]
  constructor
  · intro x hx w hw
    obtain ⟨v, hv, hnode⟩ := h.nodes x hx
    rw [Element.labels, hnode.classes] at hw
    exact ⟨v, hv, Text.mem_of_mem_wordsOf_joined (hvertices v hv) hw⟩
  · intro x hx w hw
    obtain ⟨e, he, hedge⟩ := h.edges x hx
    have hunbroken : Text.Unbroken x.classes := .inl (hedge.classes ▸ hedges e he)
    exact ⟨e, he, (Text.wordsOf_eq_self_iff.mpr hunbroken w hw).trans hedge.classes⟩

end MadeFrom

namespace Assembler

/-- Whatever is done with an assembler, its result is well-formed exactly if each word of the labels
of a kept vertex is a label of a consumed one, and each word of the label of a kept edge the label of a
consumed one. Labels without white space are enough for that. -/
theorem isWellFormed_run_iff (dataSource : Int) (scheme : IdScheme) (limit : Nat)
    (operations : List Operation) :
    let a := ({ dataSource, scheme } : Assembler).withLimit limit
    let g := (a.run operations).result
    let xs := a.consumed operations
    (g.isWellFormed = true ↔
        (∀ x ∈ g.nodes.toList, ∀ w ∈ x.labels, ∃ v, .vertex v ∈ xs ∧ w ∈ v.labels) ∧
          ∀ x ∈ g.edges.toList, ∀ w ∈ x.labels, ∃ e, .edge e ∈ xs ∧ w = e.label) ∧
      ((∀ v, .vertex v ∈ xs → ∀ s ∈ v.labels, ∀ c ∈ s.toList, Text.isBlank c = false) →
        (∀ e, .edge e ∈ xs → ∀ c ∈ e.label.toList, Text.isBlank c = false) →
          g.isWellFormed = true) := by
  intro a g xs
  have hempty : a.result.MadeFrom [] := MadeFrom.empty
  have hmade : g.MadeFrom xs := hempty.run operations
  exact ⟨hmade.isWellFormed_iff, hmade.isWellFormed_of_forall_not_blank⟩

/-- A vertex that is dropped can make a kept one's words labels. -/
example :
    let whole := Operation.addVertex { id := "#1:0", labels := ["Big City"] }
    let words := Operation.addVertex { id := "#1:0", labels := ["Big", "City"] }
    let fresh : Assembler := { dataSource := 1, scheme := .record }
    (fresh.run [whole]).result.isWellFormed = false ∧
      (fresh.run [whole, words]).result.isWellFormed = true := by decide

end Assembler

end Causeway.Graph
