import Causeway.Proofs.Graph.Assembly

/-!
# What a limit leaves of a result

With a limit an assembler adds elements up to the one that uses up the room for nodes or for edges;
whatever then remains of the list makes the result a cut one (`exists_stopsAfter`). The cut result is
the beginning of the whole one, within the limit, and it is marked as cut whenever it lacks something
(`cutAt_resultOf`).
-/

namespace Causeway.Graph

/-- Some node or edge of the whole result is not there. -/
def Lacks (g whole : Graph) : Prop :=
  (∃ id ∈ whole.nodes.ids, id ∉ g.nodes.ids) ∨ ∃ id ∈ whole.edges.ids, id ∉ g.edges.ids

/-- The beginning of a result, with no more nodes and no more edges than a limit allows. -/
structure CutAt (l : Nat) (whole g : Graph) : Prop where
  nodes_le : g.nodes.size ≤ l
  edges_le : g.edges.size ≤ l
  nodes_prefix : g.nodes.toList <+: whole.nodes.toList
  edges_prefix : g.edges.toList <+: whole.edges.toList
  reached : g.truncated = true → g.nodes.size = l ∨ g.edges.size = l
  truncated_of_lacks : g.Lacks whole → g.truncated = true

theorem lacks_iff {g whole : Graph} :
    g.Lacks whole ↔ ∃ k, ∃ id ∈ (whole.elements k).ids, id ∉ (g.elements k).ids := by
  rw [Kind.exists_iff]
  rfl

namespace ElementSet

variable {s : ElementSet}

theorem size_insert_le (s : ElementSet) (e : Element) : (s.insert e).size ≤ s.size + 1 := by
  unfold insert
  split
  · exact Nat.le_succ _
  · exact Nat.le_of_eq (Array.size_push _)

theorem toList_prefix_insertAll (h : s.Indexed) (l : List Element) :
    s.toList <+: (s.insertAll l).toList := by
  induction l generalizing s with
  | nil => exact List.prefix_refl _
  | cons e l ih =>
    have hinsert : s.toList <+: (s.insert e).toList := by
      rw [toList_insert h]
      split
      · exact List.prefix_refl _
      · exact List.prefix_append _ _
    exact hinsert.trans (ih (h.insert e))

/-- What further elements bring to a set are those of new ids. -/
theorem exists_new_insertAll_iff (h : s.Indexed) (l : List Element) :
    (∃ id ∈ (s.insertAll l).ids, id ∉ s.ids) ↔ ∃ e ∈ l, e.id ∉ s.ids := by
  constructor
  · rintro ⟨id, hid, hnew⟩
    obtain ⟨e, he, rfl⟩ := List.mem_map.mp (((mem_ids_insertAll h l).mp hid).resolve_left hnew)
    exact ⟨e, he, hnew⟩
  · rintro ⟨e, he, hnew⟩
    exact ⟨e.id, (mem_ids_insertAll h l).mpr (.inr (List.mem_map_of_mem he)), hnew⟩

end ElementSet

namespace Assembler

variable {a : Assembler} {taken rest : List NativeElement} {l : Nat}

/-- What a run over a list ends with, within a limit; a limit of zero is none. -/
def resultOf (a : Assembler) (l : Nat) (xs : List NativeElement) : Graph :=
  ((a.withLimit l).ingest xs).result

theorem add_withLimit (a : Assembler) (l : Nat) (x : NativeElement) :
    (a.withLimit l).add x = (a.add x).withLimit l := by
  cases x <;> rfl

theorem resultOf_zero (a : Assembler) (xs : List NativeElement) :
    a.resultOf 0 xs = (xs.foldl add a).result := by
  have hlimit : (a.withLimit 0).limit = none := rfl
  have hfold : xs.foldl add (a.withLimit 0) = (xs.foldl add a).withLimit 0 :=
    List.foldl_hom (withLimit · 0) fun b x => add_withLimit b 0 x
  rw [resultOf, ingest_eq_foldl hlimit, hfold]
  rfl

theorem isFull_withLimit (a : Assembler) (hl : 0 < l) :
    (a.withLimit l).isFull = true ↔ ∃ k, l ≤ (a.result.elements k).size := by
  have hlimit : (a.withLimit l).limit = some l := if_neg (Nat.ne_of_gt hl)
  simp only [isFull, hlimit, Option.any_some, Bool.or_eq_true, decide_eq_true_eq, Kind.exists_iff]
  rfl

theorem resultOf_cons_of_full (hl : 0 < l) (hfull : ∃ k, l ≤ (a.result.elements k).size)
    (x : NativeElement) (xs : List NativeElement) :
    a.resultOf l (x :: xs) = { a.result with truncated := true } := by
  unfold resultOf
  rw [ingest, if_pos ((isFull_withLimit a hl).mpr hfull)]
  rfl

theorem resultOf_cons_of_room (hl : 0 < l) (hroom : ∀ k, (a.result.elements k).size < l)
    (x : NativeElement) (xs : List NativeElement) :
    a.resultOf l (x :: xs) = (a.add x).resultOf l xs := by
  have hnotFull : ¬(a.withLimit l).isFull = true := by
    rw [isFull_withLimit a hl]
    rintro ⟨k, hk⟩
    exact absurd (hroom k) (Nat.not_lt_of_le hk)
  unfold resultOf
  rw [ingest, if_neg hnotFull, add_withLimit]

/-- A run over `taken ++ rest` adds the elements of `taken`, and stops there only if there is no room
for more. -/
structure StopsAfter (a : Assembler) (l : Nat) (taken rest : List NativeElement) : Prop where
  elements_eq : ∀ k,
    (a.resultOf l (taken ++ rest)).elements k = (taken.foldl add a).result.elements k
  size_le : ∀ k, ((taken.foldl add a).result.elements k).size ≤ l
  /-- There has been room in front of each element that is taken. -/
  room : ∀ earlier x later, taken = earlier ++ x :: later →
    ∀ k, ((earlier.foldl add a).result.elements k).size < l
  full : rest ≠ [] → ∃ k, ((taken.foldl add a).result.elements k).size = l
  truncated_iff : (a.resultOf l (taken ++ rest)).truncated = true ↔ rest ≠ []

/-- Where there is room for both kinds, each element takes up one place at most. -/
theorem size_add_le (hroom : ∀ k, (a.result.elements k).size < l) (x : NativeElement) (k : Kind) :
    ((a.add x).result.elements k).size ≤ l := by
  rw [add_elements]
  cases a.elementOf? k x with
  | none => exact Nat.le_of_lt (hroom k)
  | some e => exact Nat.le_trans ((a.result.elements k).size_insert_le e) (hroom k)

/-- A run goes on for as long as there is room. -/
theorem exists_stopsAfter (hl : 0 < l) (hsize : ∀ k, (a.result.elements k).size ≤ l)
    (hwhole : a.result.truncated = false) (xs : List NativeElement) :
    ∃ taken rest, xs = taken ++ rest ∧ a.StopsAfter l taken rest := by
  induction xs generalizing a with
  | nil =>
    refine ⟨[], [], rfl, fun _ => rfl, hsize, by simp, fun hne => absurd rfl hne, ?_⟩
    change a.result.truncated = true ↔ _
    simp [hwhole]
  | cons x xs ih =>
    by_cases hfull : ∃ k, l ≤ (a.result.elements k).size
    · have hresult := resultOf_cons_of_full hl hfull x xs
      refine ⟨[], x :: xs, rfl, fun k => ?_, hsize, by simp, fun _ => ?_, ?_⟩
      · rw [List.nil_append, hresult]
        cases k <;> rfl
      · obtain ⟨k, hk⟩ := hfull
        exact ⟨k, Nat.le_antisymm (hsize k) hk⟩
      · rw [List.nil_append, hresult]
        simp
    · have hroom : ∀ k, (a.result.elements k).size < l := fun k =>
        Nat.lt_of_not_le fun hk => hfull ⟨k, hk⟩
      have hresult := resultOf_cons_of_room hl hroom x
      obtain ⟨taken, rest, rfl, h⟩ := ih (size_add_le hroom x) (by rw [add_truncated, hwhole])
      refine ⟨x :: taken, rest, rfl, fun k => ?_, h.size_le, ?_, h.full, ?_⟩
      · rw [List.cons_append, hresult]
        exact h.elements_eq k
      · intro earlier y later heq
        cases earlier with
        | nil => exact hroom
        | cons z earlier =>
          obtain ⟨rfl, htaken⟩ := List.cons_eq_cons.mp heq
          exact h.room earlier y later htaken
      · rw [List.cons_append, hresult]
        exact h.truncated_iff

theorem exists_stopsAfter_of_fresh (ha : a.result = Graph.empty) (hl : 0 < l)
    (xs : List NativeElement) : ∃ taken rest, xs = taken ++ rest ∧ a.StopsAfter l taken rest := by
  refine exists_stopsAfter hl (fun k => ?_) (congrArg Graph.truncated ha) xs
  rw [ha]
  cases k <;> exact Nat.zero_le _

namespace StopsAfter

variable (h : a.StopsAfter l taken rest)
include h

/-- The whole result holds what the cut one does, and the elements left behind it. -/
theorem elements_whole (k : Kind) : (a.resultOf 0 (taken ++ rest)).elements k =
    ((a.resultOf l (taken ++ rest)).elements k).insertAll (rest.filterMap (a.elementOf? k)) := by
  rw [h.elements_eq, resultOf_zero, foldl_add_elements, foldl_add_elements, List.filterMap_append]
  exact List.foldl_append

theorem indexed (ha : a.result.Indexed) (k : Kind) :
    ((a.resultOf l (taken ++ rest)).elements k).Indexed := by
  rw [h.elements_eq]
  exact (indexed_foldl_add ha taken).elements k

/-- What the cut result lacks is among the elements left. -/
theorem lacks_iff (ha : a.result.Indexed) :
    (a.resultOf l (taken ++ rest)).Lacks (a.resultOf 0 (taken ++ rest)) ↔
      ∃ k, ∃ e ∈ rest.filterMap (a.elementOf? k),
        e.id ∉ ((a.resultOf l (taken ++ rest)).elements k).ids := by
  rw [Graph.lacks_iff]
  refine exists_congr fun k => ?_
  rw [h.elements_whole, ElementSet.exists_new_insertAll_iff (h.indexed ha k)]

theorem size_elements_le (k : Kind) : ((a.resultOf l (taken ++ rest)).elements k).size ≤ l := by
  rw [h.elements_eq]
  exact h.size_le k

theorem elements_prefix (ha : a.result.Indexed) (k : Kind) :
    ((a.resultOf l (taken ++ rest)).elements k).toList <+:
      ((a.resultOf 0 (taken ++ rest)).elements k).toList := by
  rw [h.elements_whole]
  exact ElementSet.toList_prefix_insertAll (h.indexed ha k) _

theorem cutAt (ha : a.result.Indexed) :
    CutAt l (a.resultOf 0 (taken ++ rest)) (a.resultOf l (taken ++ rest)) where
  nodes_le := h.size_elements_le .node
  edges_le := h.size_elements_le .edge
  nodes_prefix := h.elements_prefix ha .node
  edges_prefix := h.elements_prefix ha .edge
  reached htruncated := by
    have hfull := h.full (h.truncated_iff.mp htruncated)
    simp only [← h.elements_eq, Kind.exists_iff] at hfull
    exact hfull
  truncated_of_lacks hlacks := by
    rw [h.truncated_iff]
    rintro rfl
    simpa using (h.lacks_iff ha).mp hlacks

end StopsAfter

/-- A limited run of a fresh assembler ends with a cut of what the run without a limit ends with. -/
theorem cutAt_resultOf (ha : a.result = Graph.empty) (hl : 0 < l) (xs : List NativeElement) :
    CutAt l (a.resultOf 0 xs) (a.resultOf l xs) := by
  obtain ⟨taken, rest, rfl, h⟩ := exists_stopsAfter_of_fresh ha hl xs
  exact h.cutAt (ha ▸ indexed_empty)

end Assembler

end Causeway.Graph
