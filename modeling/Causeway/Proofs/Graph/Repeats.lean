import Causeway.Proofs.Graph.Limit

/-!
# Cut results that lack nothing

A result can be marked as cut though it is whole: a limit is reached, and what is left of the list
only repeats ids. For vertices followed by edges this happens exactly where the distinct ids use up
the limit and the last id is a repeated one (`truncated_iff_lacks_iff`).
-/

namespace Causeway.Graph

/-- As many distinct ids as a limit allows, the last of the list being one that stands further in
front as well. -/
def FilledThenRepeated (l : Nat) (ids : List String) : Prop :=
  ids.eraseDups.length = l ∧ ∃ earlier id, ids = earlier ++ [id] ∧ id ∈ earlier

/-- The ids of vertices, or those of the edges behind them, use up a limit and then repeat. -/
def RepeatedAtLimit (l : Nat) (nodeIds edgeIds : List String) : Prop :=
  edgeIds = [] ∧ FilledThenRepeated l nodeIds ∨
    nodeIds.eraseDups.length < l ∧ FilledThenRepeated l edgeIds

/-- Distinct ids do not repeat at any limit. -/
theorem not_repeatedAtLimit_of_nodup {l : Nat} {nodeIds edgeIds : List String}
    (hnodes : nodeIds.Nodup) (hedges : edgeIds.Nodup) : ¬RepeatedAtLimit l nodeIds edgeIds := by
  have hdistinct : ∀ ids : List String, ids.Nodup → ¬FilledThenRepeated l ids := by
    rintro _ hnodup ⟨-, earlier, id, rfl, hid⟩
    exact (List.nodup_append.mp hnodup).2.2 id hid id List.mem_cons_self rfl
  rintro (⟨-, hfilled⟩ | ⟨-, hfilled⟩)
  · exact hdistinct _ hnodes hfilled
  · exact hdistinct _ hedges hfilled

theorem eraseDups_append_of_subset {taken rest : List String} (h : ∀ id ∈ rest, id ∈ taken) :
    (taken ++ rest).eraseDups = taken.eraseDups := by
  have hrest : rest.removeAll taken = [] := by simpa [List.removeAll] using h
  rw [List.eraseDups_append, hrest, List.eraseDups_nil, List.append_nil]

theorem length_eraseDups_le_append (taken rest : List String) :
    taken.eraseDups.length ≤ (taken ++ rest).eraseDups.length := by
  rw [List.eraseDups_append, List.length_append]
  exact Nat.le_add_right _ _

theorem subset_of_length_eraseDups {taken rest : List String}
    (h : (taken ++ rest).eraseDups.length = taken.eraseDups.length) : ∀ id ∈ rest, id ∈ taken := by
  rw [List.eraseDups_append, List.length_append, Nat.add_eq_left, List.length_eq_zero_iff] at h
  intro id hid
  refine Decidable.byContradiction fun hnew => ?_
  have hmem : id ∈ (rest.removeAll taken).eraseDups := by
    rw [List.mem_eraseDups]
    simpa [List.removeAll] using ⟨hid, hnew⟩
  rw [h] at hmem
  exact absurd hmem List.not_mem_nil

/-- A list is taken up to where its distinct ids reach a limit. What is left only repeats ids exactly
where there are no more distinct ids than that and the last one is repeated. -/
theorem onlyRepeats_iff {l : Nat} {taken rest : List String}
    (hfull : rest ≠ [] → taken.eraseDups.length = l)
    (hroom : ∀ earlier id, taken = earlier ++ [id] → earlier.eraseDups.length < l) :
    (rest ≠ [] ∧ ∀ id ∈ rest, id ∈ taken) ↔ FilledThenRepeated l (taken ++ rest) := by
  constructor
  · rintro ⟨hrest, hrepeats⟩
    refine ⟨by rw [eraseDups_append_of_subset hrepeats, hfull hrest], ?_⟩
    refine ⟨taken ++ rest.dropLast, rest.getLast hrest, ?_, ?_⟩
    · rw [List.append_assoc, List.dropLast_concat_getLast]
    · exact List.mem_append_left _ (hrepeats _ (List.getLast_mem hrest))
  · rintro ⟨hlength, earlier, id, heq, hid⟩
    have hrest : rest ≠ [] := by
      rintro rfl
      rw [List.append_nil] at heq hlength
      have hrepeat : ∀ x ∈ [id], x ∈ earlier := by simpa using hid
      have hless := hroom earlier id heq
      rw [heq, eraseDups_append_of_subset hrepeat] at hlength
      omega
    exact ⟨hrest, subset_of_length_eraseDups (by rw [hlength, hfull hrest])⟩

/-- There is room in front of the last id where there is room in front of the last element. -/
theorem length_eraseDups_lt_of_map {α : Type} {f : α → String} {xs : List α} {l : Nat}
    (hroom : ∀ front x, xs = front ++ [x] → (front.map f).eraseDups.length < l)
    (earlier : List String) (id : String) (hids : xs.map f = earlier ++ [id]) :
    earlier.eraseDups.length < l := by
  obtain ⟨front, last, rfl, rfl, hlast⟩ := List.map_eq_append_iff.mp hids
  obtain ⟨x, rfl, -⟩ := List.map_eq_singleton_iff.mp hlast
  exact hroom front x rfl

/-- Where the nodes are cut, only repeats are left if there are no edges. -/
theorem repeatedAtLimit_iff_of_nodes {l : Nat} {n₁ n₂ m : List String} (hl : 0 < l)
    (hfull : n₂ ≠ [] ∨ m ≠ [] → n₁.eraseDups.length = l)
    (hroom : ∀ earlier id, n₁ = earlier ++ [id] → earlier.eraseDups.length < l) :
    RepeatedAtLimit l (n₁ ++ n₂) m ↔
      (n₂ ≠ [] ∨ m ≠ []) ∧ (∀ id ∈ n₂, id ∈ n₁) ∧ ∀ id ∈ m, id ∈ ([] : List String) := by
  have hnodes := onlyRepeats_iff (fun hn => hfull (.inl hn)) hroom
  constructor
  · rintro (⟨rfl, hfilled⟩ | ⟨hless, hlength, -⟩)
    · obtain ⟨hrest, hrepeats⟩ := hnodes.mpr hfilled
      exact ⟨.inl hrest, hrepeats, fun id hid => hid⟩
    · -- the nodes alone use up the limit as soon as there is an edge behind them
      have hm : m ≠ [] := by
        rintro rfl
        exact absurd hlength (Nat.ne_of_lt hl)
      have hle := length_eraseDups_le_append n₁ n₂
      rw [hfull (.inr hm)] at hle
      omega
  · rintro ⟨hrest, hrepeats, hnone⟩
    obtain rfl : m = [] := List.eq_nil_iff_forall_not_mem.mpr fun id hid =>
      List.not_mem_nil (hnone id hid)
    exact .inl ⟨rfl, hnodes.mp ⟨hrest.resolve_right fun hne => hne rfl, hrepeats⟩⟩

/-- Where the edges are cut, there was room for all nodes. -/
theorem repeatedAtLimit_iff_of_edges {l : Nat} {n m₁ m₂ : List String} (hm : m₁ ≠ [])
    (hless : n.eraseDups.length < l) (hfull : m₂ ≠ [] → m₁.eraseDups.length = l)
    (hroom : ∀ earlier id, m₁ = earlier ++ [id] → earlier.eraseDups.length < l) :
    RepeatedAtLimit l n (m₁ ++ m₂) ↔ m₂ ≠ [] ∧ ∀ id ∈ m₂, id ∈ m₁ := by
  rw [onlyRepeats_iff hfull hroom]
  constructor
  · rintro (⟨hnone, -⟩ | ⟨-, hfilled⟩)
    · exact absurd (List.append_eq_nil_iff.mp hnone).1 hm
    · exact hfilled
  · intro hfilled
    exact .inr ⟨hless, hfilled⟩

namespace Assembler

variable {a : Assembler} {taken rest : List NativeElement} {l : Nat} {vs : List NativeVertex}
  {es : List NativeEdge}

/-- The ids of the nodes that vertices become. -/
def nodeIds (a : Assembler) (vs : List NativeVertex) : List String := vs.map (a.encode ·.id)

def edgeIds (a : Assembler) (es : List NativeEdge) : List String := es.map (a.encode ·.id)

/-- The ids of a kind that vertices and edges get. -/
def idsOf (a : Assembler) (vs : List NativeVertex) (es : List NativeEdge) : Kind → List String
  | .node => a.nodeIds vs
  | .edge => a.edgeIds es

theorem map_id_elementsOf (a : Assembler) (vs : List NativeVertex) (es : List NativeEdge)
    (k : Kind) : (a.elementsOf vs es k).map (·.id) = a.idsOf vs es k := by
  cases k <;> exact List.map_map

theorem ids_foldl_add (ha : a.result = Graph.empty) (vs : List NativeVertex)
    (es : List NativeEdge) (k : Kind) :
    (((verticesThenEdges vs es).foldl add a).result.elements k).ids =
      (a.idsOf vs es k).eraseDups := by
  have hempty : a.result.elements k = .empty := by
    rw [ha]
    cases k <;> rfl
  rw [foldl_add_elements, hempty, filterMap_elementOf?, ← map_id_elementsOf]
  exact ElementSet.ids_ofList _

theorem verticesThenEdges_ne_nil_iff :
    verticesThenEdges vs es ≠ [] ↔ ∃ k, a.idsOf vs es k ≠ [] := by
  simp [Kind.exists_iff, verticesThenEdges, idsOf, nodeIds, edgeIds,
    Classical.or_iff_not_imp_left]

/-- Vertices and then edges are cut among the vertices or among the edges. -/
theorem verticesThenEdges_eq_append (h : verticesThenEdges vs es = taken ++ rest) :
    (∃ vs₁ vs₂, vs = vs₁ ++ vs₂ ∧ taken = verticesThenEdges vs₁ [] ∧
        rest = verticesThenEdges vs₂ es) ∨
      ∃ es₁ es₂, es = es₁ ++ es₂ ∧ es₁ ≠ [] ∧ taken = verticesThenEdges vs es₁ ∧
        rest = verticesThenEdges [] es₂ := by
  rcases List.append_eq_append_iff.mp h with ⟨m, htaken, hedges⟩ | ⟨m, hvertices, hrest⟩
  · obtain ⟨es₁, es₂, rfl, rfl, rfl⟩ := List.map_eq_append_iff.mp hedges
    cases es₁ with
    | nil => exact .inl ⟨vs, [], by simp, htaken, by simp [verticesThenEdges]⟩
    | cons e es₁ => exact .inr ⟨e :: es₁, es₂, rfl, List.cons_ne_nil _ _, htaken, rfl⟩
  · obtain ⟨vs₁, vs₂, rfl, rfl, rfl⟩ := List.map_eq_append_iff.mp hvertices
    exact .inl ⟨vs₁, vs₂, rfl, by simp [verticesThenEdges], hrest⟩

namespace StopsAfter

section Ids

variable {vs₁ vs₂ : List NativeVertex} {es₁ es₂ : List NativeEdge}
  (h : a.StopsAfter l (verticesThenEdges vs₁ es₁) (verticesThenEdges vs₂ es₂))
  (ha : a.result = Graph.empty)
include h ha

theorem length_eraseDups (hrest : ∃ k, a.idsOf vs₂ es₂ k ≠ []) :
    ∃ k, (a.idsOf vs₁ es₁ k).eraseDups.length = l := by
  obtain ⟨k, hk⟩ := h.full (verticesThenEdges_ne_nil_iff.mpr hrest)
  rw [ElementSet.size_eq, ids_foldl_add ha] at hk
  exact ⟨k, hk⟩

theorem length_eraseDups_lt {vs : List NativeVertex} {es : List NativeEdge} {x : NativeElement}
    {later : List NativeElement}
    (htaken : verticesThenEdges vs₁ es₁ = verticesThenEdges vs es ++ x :: later) (k : Kind) :
    (a.idsOf vs es k).eraseDups.length < l := by
  have hroom := h.room _ x later htaken k
  rwa [ElementSet.size_eq, ids_foldl_add ha] at hroom

/-- A result is marked and lacks nothing where all that is left are repeated ids. -/
theorem marked_iff {xs : List NativeElement}
    (hxs : xs = verticesThenEdges vs₁ es₁ ++ verticesThenEdges vs₂ es₂) :
    ((a.resultOf l xs).truncated = true ∧ ¬(a.resultOf l xs).Lacks (a.resultOf 0 xs)) ↔
      (∃ k, a.idsOf vs₂ es₂ k ≠ []) ∧ ∀ k, ∀ id ∈ a.idsOf vs₂ es₂ k, id ∈ a.idsOf vs₁ es₁ k := by
  subst hxs
  rw [h.truncated_iff, verticesThenEdges_ne_nil_iff, h.lacks_iff (ha ▸ indexed_empty), not_exists]
  refine and_congr_right fun _ => forall_congr' fun k => ?_
  rw [h.elements_eq, ids_foldl_add ha, filterMap_elementOf?, ← map_id_elementsOf _ vs₂]
  simp

end Ids

theorem repeated_iff_of_vertices {vs₁ vs₂ : List NativeVertex} (ha : a.result = Graph.empty)
    (hl : 0 < l) (h : a.StopsAfter l (verticesThenEdges vs₁ []) (verticesThenEdges vs₂ es)) :
    RepeatedAtLimit l (a.nodeIds (vs₁ ++ vs₂)) (a.edgeIds es) ↔
      (∃ k, a.idsOf vs₂ es k ≠ []) ∧ ∀ k, ∀ id ∈ a.idsOf vs₂ es k, id ∈ a.idsOf vs₁ [] k := by
  have happend : a.nodeIds (vs₁ ++ vs₂) = a.nodeIds vs₁ ++ a.nodeIds vs₂ := List.map_append
  have hfull := h.length_eraseDups ha
  rw [happend, Kind.exists_iff, Kind.forall_iff]
  rw [Kind.exists_iff, Kind.exists_iff] at hfull
  refine repeatedAtLimit_iff_of_nodes hl (fun hrest => ?_) (length_eraseDups_lt_of_map ?_)
  · exact (hfull hrest).resolve_right (Nat.ne_of_lt hl)
  · rintro vs' v rfl
    have htaken : verticesThenEdges (vs' ++ [v]) [] = verticesThenEdges vs' [] ++ [.vertex v] := by
      simp [verticesThenEdges]
    exact h.length_eraseDups_lt ha htaken .node

theorem repeated_iff_of_edges {es₁ es₂ : List NativeEdge} (ha : a.result = Graph.empty)
    (hes : es₁ ≠ []) (h : a.StopsAfter l (verticesThenEdges vs es₁) (verticesThenEdges [] es₂)) :
    RepeatedAtLimit l (a.nodeIds vs) (a.edgeIds (es₁ ++ es₂)) ↔
      (∃ k, a.idsOf [] es₂ k ≠ []) ∧ ∀ k, ∀ id ∈ a.idsOf [] es₂ k, id ∈ a.idsOf vs es₁ k := by
  have happend : a.edgeIds (es₁ ++ es₂) = a.edgeIds es₁ ++ a.edgeIds es₂ := List.map_append
  have hfull := h.length_eraseDups ha
  obtain ⟨e, es', hfirst⟩ := List.exists_cons_of_ne_nil hes
  have hless : (a.nodeIds vs).eraseDups.length < l := by
    have htaken : verticesThenEdges vs es₁ = verticesThenEdges vs [] ++ .edge e :: es'.map .edge := by
      simp [verticesThenEdges, hfirst]
    exact h.length_eraseDups_lt ha htaken .node
  have hedges : (∃ k, a.idsOf [] es₂ k ≠ []) ↔ a.edgeIds es₂ ≠ [] := by
    simp [Kind.exists_iff, idsOf, nodeIds]
  have hrepeats : (∀ k, ∀ id ∈ a.idsOf [] es₂ k, id ∈ a.idsOf vs es₁ k) ↔
      ∀ id ∈ a.edgeIds es₂, id ∈ a.edgeIds es₁ := by
    simp [Kind.forall_iff, idsOf, nodeIds]
  rw [hedges, Kind.exists_iff] at hfull
  rw [happend, hedges, hrepeats]
  refine repeatedAtLimit_iff_of_edges (by simp [edgeIds, hes]) hless (fun hrest => ?_)
    (length_eraseDups_lt_of_map ?_)
  · exact (hfull hrest).resolve_left (Nat.ne_of_lt hless)
  · rintro es' e rfl
    have htaken : verticesThenEdges vs (es' ++ [e]) = verticesThenEdges vs es' ++ [.edge e] := by
      simp [verticesThenEdges]
    exact h.length_eraseDups_lt ha htaken .edge

end StopsAfter

/-- The mark of a cut result is exact but for repeated ids at the limit. -/
theorem truncated_iff_lacks_iff (ha : a.result = Graph.empty) (hl : 0 < l) (vs : List NativeVertex)
    (es : List NativeEdge) :
    ((a.resultOf l (verticesThenEdges vs es)).truncated = true ↔
        (a.resultOf l (verticesThenEdges vs es)).Lacks (a.resultOf 0 (verticesThenEdges vs es))) ↔
      ¬RepeatedAtLimit l (a.nodeIds vs) (a.edgeIds es) := by
  obtain ⟨taken, rest, hsplit, h⟩ := exists_stopsAfter_of_fresh ha hl (verticesThenEdges vs es)
  have hmarked : ((a.resultOf l (verticesThenEdges vs es)).truncated = true ∧
      ¬(a.resultOf l (verticesThenEdges vs es)).Lacks (a.resultOf 0 (verticesThenEdges vs es))) ↔
      RepeatedAtLimit l (a.nodeIds vs) (a.edgeIds es) := by
    rcases verticesThenEdges_eq_append hsplit with
      ⟨vs₁, vs₂, rfl, rfl, rfl⟩ | ⟨es₁, es₂, rfl, hes, rfl, rfl⟩
    · rw [h.marked_iff ha hsplit, h.repeated_iff_of_vertices ha hl]
    · rw [h.marked_iff ha hsplit, h.repeated_iff_of_edges ha hes]
  have hcut := (cutAt_resultOf ha hl (verticesThenEdges vs es)).truncated_of_lacks
  rw [← hmarked, not_and, Classical.not_not]
  exact ⟨fun hiff => hiff.mp, fun hmp => ⟨hmp, hcut⟩⟩

end Assembler

end Causeway.Graph
