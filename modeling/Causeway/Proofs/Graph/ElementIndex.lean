import Causeway.Graph.Json
import Causeway.Proofs.Graph.ElementSet
import Mathlib.Data.List.Induction

/-!
# The index of a set of elements

However a set came about, by inserts one at a time, collected from a list or read from a document, it is
made from the elements that it was offered: it has kept the first of each id where it came, and its
positions lead to these and nowhere else (`Exact`, `exact_ofList`).
-/

namespace Causeway.Graph.ElementSet

/-- The elements of a list in front of which no other has their id. -/
def firstSeen (l : List Element) : List Element :=
  (l.zipIdx.filter fun p => (l.take p.2).all (·.id != p.1.id)).map (·.1)

/-- What a set holds that has been offered elements in turn. A position is never behind the last
element, and each leads to the element of its id. -/
structure Exact (offered : List Element) (s : ElementSet) : Prop where
  kept : s.toList = firstSeen offered
  positions : ∀ (id : String) (i : Nat),
    s.positions.get? id = some i ↔ ∃ h : i < s.elements.size, s.elements[i].id = id
  present : ∀ id : String, s.contains id = true ↔ ∃ e ∈ offered, e.id = id
  found : ∀ id : String, s.get? id = offered.find? (·.id == id)

variable {s : ElementSet} {l : List Element} {e : Element}

theorem firstSeen_concat (l : List Element) (e : Element) :
    firstSeen (l ++ [e]) = firstSeen l ++ if ∃ x ∈ l, x.id = e.id then [] else [e] := by
  have hfront : ∀ p ∈ l.zipIdx, ((l ++ [e]).take p.2).all (·.id != p.1.id) =
      (l.take p.2).all (·.id != p.1.id) := by
    intro p hp
    obtain ⟨-, hlt, -⟩ := List.mem_zipIdx hp
    rw [Nat.zero_add] at hlt
    rw [List.take_append_of_le_length (Nat.le_of_lt hlt)]
  have hlast : ((l ++ [e]).take l.length).all (·.id != e.id) =
      !decide (∃ x ∈ l, x.id = e.id) := by
    rw [List.take_left, Bool.eq_iff_iff]
    simp
  unfold firstSeen
  rw [List.zipIdx_append, List.filter_append, List.map_append, List.filter_congr hfront,
    Nat.zero_add, List.zipIdx_singleton, List.filter_cons]
  dsimp only
  rw [hlast]
  by_cases hseen : ∃ x ∈ l, x.id = e.id <;> simp [hseen]

theorem ofList_concat (l : List Element) (e : Element) :
    ofList (l ++ [e]) = (ofList l).insert e := by
  rw [ofList, insertAll, List.foldl_append]
  rfl

theorem toList_ofList (l : List Element) : (ofList l).toList = firstSeen l := by
  induction l using List.reverseRecOn with
  | nil => rfl
  | append_singleton l e ih =>
    have hmem : e.id ∈ (ofList l).ids ↔ ∃ x ∈ l, x.id = e.id := by
      rw [mem_ids_ofList, List.mem_map]
    rw [ofList_concat, toList_insert (indexed_ofList l), firstSeen_concat, ih]
    by_cases hseen : ∃ x ∈ l, x.id = e.id
    · rw [if_pos (hmem.mpr hseen), if_pos hseen, List.append_nil]
    · rw [if_neg (fun hin => hseen (hmem.mp hin)), if_neg hseen]

theorem exact_ofList (l : List Element) : Exact l (ofList l) := by
  have hindexed := indexed_ofList l
  refine ⟨toList_ofList l, ?_, ?_, get?_ofList l⟩
  · intro id i
    rw [hindexed id i]
    constructor
    · rintro ⟨x, hx, hid⟩
      obtain ⟨hlt, rfl⟩ := Array.getElem?_eq_some_iff.mp hx
      exact ⟨hlt, hid⟩
    · rintro ⟨hlt, hid⟩
      exact ⟨_, Array.getElem?_eq_getElem hlt, hid⟩
  · intro id
    rw [hindexed.contains_iff, mem_ids_ofList, List.mem_map]

theorem offer_eq (s : ElementSet) (e : Element) : s.offer e = (!s.contains e.id, s.insert e) := by
  unfold offer insert
  cases s.contains e.id <;> rfl

theorem foldl_offer (l : List Element) :
    l.foldl (fun s e => (s.offer e).2) empty = ofList l := by
  simp only [offer_eq]
  rfl

/-- An offer is taken exactly if its id is new, and what is not taken leaves no trace. -/
theorem Exact.offer_iff (h : Exact l s) (e : Element) :
    ((s.offer e).1 = true ↔ ∀ x ∈ l, x.id ≠ e.id) ∧
      ((s.offer e).1 = false → (s.offer e).2 = s) := by
  constructor
  · rw [offer_eq, Bool.not_eq_true', ← Bool.not_eq_true, h.present]
    exact ⟨fun hnone x hx hid => hnone ⟨x, hx, hid⟩, fun hne ⟨x, hx, hid⟩ => hne x hx hid⟩
  · intro hrefused
    rw [offer_eq, Bool.not_eq_false'] at hrefused
    rw [offer_eq, insert, if_pos hrefused]

theorem exact_of_read {n : Json.Node} (h : ElementSet.read n = some s) :
    ∃ l, Json.reading.listOf Element.read n = some l ∧ Exact l s := by
  obtain ⟨l, hl, rfl⟩ := Option.map_eq_some_iff.mp h
  exact ⟨l, hl, exact_ofList l⟩

/-- Whether elements are inserted one after the other, collected or read from a document, the set keeps
the first of each id and indexes it; and each insert tells whether it was the first of its id. -/
theorem index_exact :
    (∀ l : List Element, Exact l (l.foldl (fun s e => (s.offer e).2) empty) ∧ Exact l (ofList l)) ∧
      (∀ (l : List Element) (e : Element),
        (((ofList l).offer e).1 = true ↔ ∀ x ∈ l, x.id ≠ e.id) ∧
          (((ofList l).offer e).1 = false → ((ofList l).offer e).2 = ofList l)) ∧
      ∀ (n : Json.Node) (s : ElementSet), ElementSet.read n = some s →
        ∃ l, Json.reading.listOf Element.read n = some l ∧ Exact l s := by
  refine ⟨fun l => ⟨?_, exact_ofList l⟩, fun l e => (exact_ofList l).offer_iff e,
    fun n s h => exact_of_read h⟩
  rw [foldl_offer]
  exact exact_ofList l

/-- A node as documents have it. -/
def written (classes id : String) : Json.Written := .object [
  (some "classes", .string (some classes)), (some "group", .string (some "nodes")),
  (some "data", .object [(some "id", .string (some id))])]

/-- Three nodes, two of which have one id. -/
def twins : Json.Node :=
  ⟨Json.depthLimit, .array [written "Person" "1_1", written "Other" "1_1", written "City" "1_2"]⟩

theorem index_exact_twins :
    ∃ s l, ElementSet.read twins = some s ∧ Exact l s ∧ l.length = 3 ∧ s.ids = ["1_1", "1_2"] ∧
      s.positions.get? "1_2" = some 1 ∧ (s.get? "1_1").map (·.classes) = some "Person" ∧
      ((ofList l).offer (.node "City" "1_1" .empty)).1 = false := by
  have hread : (ElementSet.read twins).map (fun s => (s.ids, s.positions.get? "1_2",
      (s.get? "1_1").map (·.classes), s.contains "1_1")) =
      some (["1_1", "1_2"], some 1, some "Person", true) := rfl
  have hlength : (Json.reading.listOf Element.read twins).map (·.length) = some 3 := rfl
  obtain ⟨s, hs, hshown⟩ := Option.map_eq_some_iff.mp hread
  simp only [Prod.mk.injEq] at hshown
  obtain ⟨hids, hposition, hclasses, htaken⟩ := hshown
  obtain ⟨-, hoffer, hdocument⟩ := index_exact
  obtain ⟨l, hl, hexact⟩ := hdocument twins s hs
  rw [hl] at hlength
  refine ⟨s, l, hs, hexact, Option.some.inj hlength, hids, hposition, hclasses, ?_⟩
  obtain ⟨x, hx, hid⟩ := (hexact.present "1_1").mp htaken
  refine Bool.eq_false_iff.mpr fun htold => ?_
  exact (hoffer l (.node "City" "1_1" .empty)).1.mp htold x hx hid

end Causeway.Graph.ElementSet
