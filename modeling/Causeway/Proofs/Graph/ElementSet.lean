import Causeway.Graph.Element

/-!
# Sets of elements and their positions

The positions of a set are those of the ids in its list (`Indexed`), in every set built by inserts.
From this, a set is its list: an insert appends an element of a new id (`toList_insert`), a look-up
finds the one element of an id (`get?_eq_some_iff`), and a set collected along ids keeps each of them
where it is mentioned first (`toList_ofList_filterMap`).
-/

namespace Causeway.Graph.ElementSet

/-- The positions lead to the ids in the list, and to nothing else. -/
def Indexed (s : ElementSet) : Prop :=
  ∀ (id : String) (i : Nat),
    s.positions.get? id = some i ↔ ∃ e, s.elements[i]? = some e ∧ e.id = id

variable {s : ElementSet} {e : Element} {id : String}

theorem indexed_empty : Indexed empty := by
  intro id i
  simp [empty]

theorem Indexed.contains_iff (h : s.Indexed) : s.contains id = true ↔ id ∈ s.ids := by
  unfold contains NameMap.contains
  rw [Option.isSome_iff_exists]
  constructor
  · rintro ⟨i, hi⟩
    obtain ⟨e, he, rfl⟩ := (h id i).mp hi
    exact List.mem_map_of_mem (Array.mem_toList_iff.mpr (Array.mem_of_getElem? he))
  · intro hmem
    obtain ⟨e, he, rfl⟩ := List.mem_map.mp hmem
    obtain ⟨i, hi⟩ := Array.getElem?_of_mem (Array.mem_toList_iff.mp he)
    exact ⟨i, (h e.id i).mpr ⟨e, hi, rfl⟩⟩

theorem toList_insert (h : s.Indexed) (e : Element) :
    (s.insert e).toList = if e.id ∈ s.ids then s.toList else s.toList ++ [e] := by
  unfold insert
  by_cases hid : e.id ∈ s.ids
  · rw [if_pos (h.contains_iff.mpr hid), if_pos hid]
  · rw [if_neg (fun hcontains => hid (h.contains_iff.mp hcontains)), if_neg hid]
    simp [toList]

theorem Indexed.insert (h : s.Indexed) (e : Element) : (s.insert e).Indexed := by
  unfold ElementSet.insert
  by_cases hid : s.contains e.id = true
  · rw [if_pos hid]
    exact h
  · rw [if_neg hid]
    have hnew : e.id ∉ s.ids := fun hmem => hid (h.contains_iff.mpr hmem)
    intro id i
    rw [NameMap.get?_insert, Array.getElem?_push]
    by_cases heq : id = e.id
    · subst heq
      rw [if_pos rfl]
      constructor
      · rintro hi
        obtain rfl : s.elements.size = i := by simpa using hi
        exact ⟨e, by simp, rfl⟩
      · rintro ⟨x, hx, hxid⟩
        split at hx
        · rename_i hi
          rw [hi]
        · -- an element of this id further in front is none that the set had
          have hmem : x ∈ s.toList := Array.mem_toList_iff.mpr (Array.mem_of_getElem? hx)
          exact absurd (List.mem_map.mpr ⟨x, hmem, hxid⟩) hnew
    · rw [if_neg heq]
      constructor
      · intro hi
        obtain ⟨x, hx, hxid⟩ := (h id i).mp hi
        have hlt : i < s.elements.size := (Array.getElem?_eq_some_iff.mp hx).1
        exact ⟨x, by rw [if_neg (Nat.ne_of_lt hlt)]; exact hx, hxid⟩
      · rintro ⟨x, hx, hxid⟩
        split at hx
        · obtain rfl : e = x := by simpa using hx
          exact absurd hxid.symm heq
        · exact (h id i).mpr ⟨x, hx, hxid⟩

theorem Indexed.insertAll (h : s.Indexed) (l : List Element) : (s.insertAll l).Indexed := by
  induction l generalizing s with
  | nil => exact h
  | cons e l ih => exact ih (h.insert e)

theorem indexed_ofList (l : List Element) : (ofList l).Indexed := indexed_empty.insertAll l

/-- No id stands twice in the list. -/
theorem Indexed.nodup_ids (h : s.Indexed) : s.ids.Nodup := by
  refine List.pairwise_iff_getElem.mpr fun i j hi hj hij heq => ?_
  simp only [ids, toList, List.length_map, Array.length_toList] at hi hj
  simp only [ids, toList, List.getElem_map, Array.getElem_toList] at heq
  have hpi := (h s.elements[i].id i).mpr ⟨s.elements[i], by simp [hi], rfl⟩
  have hpj := (h s.elements[i].id j).mpr ⟨s.elements[j], by simp [hj], heq.symm⟩
  rw [hpi] at hpj
  have hsame : i = j := by simpa using hpj
  exact absurd hsame (Nat.ne_of_lt hij)

/-- A look-up finds the element of an id. -/
theorem Indexed.get?_eq_some_iff (h : s.Indexed) :
    s.get? id = some e ↔ e ∈ s.toList ∧ e.id = id := by
  unfold get?
  rw [Option.bind_eq_some_iff]
  constructor
  · rintro ⟨i, hi, he⟩
    obtain ⟨x, hx, hxid⟩ := (h id i).mp hi
    obtain rfl : x = e := by simpa [hx] using he
    exact ⟨Array.mem_toList_iff.mpr (Array.mem_of_getElem? he), hxid⟩
  · rintro ⟨hmem, rfl⟩
    obtain ⟨i, hi⟩ := Array.getElem?_of_mem (Array.mem_toList_iff.mp hmem)
    exact ⟨i, (h e.id i).mpr ⟨e, hi, rfl⟩, hi⟩

theorem Indexed.get?_eq_none_iff (h : s.Indexed) : s.get? id = none ↔ id ∉ s.ids := by
  rw [Option.eq_none_iff_forall_ne_some]
  constructor
  · intro hnone hmem
    obtain ⟨e, he, hid⟩ := List.mem_map.mp hmem
    exact hnone e (h.get?_eq_some_iff.mpr ⟨he, hid⟩)
  · intro hmem e he
    obtain ⟨hin, hid⟩ := h.get?_eq_some_iff.mp he
    exact hmem (List.mem_map.mpr ⟨e, hin, hid⟩)

theorem get?_insert (h : s.Indexed) (e : Element) (id : String) :
    (s.insert e).get? id = (s.get? id).or (if e.id = id then some e else none) := by
  ext x
  rw [(h.insert e).get?_eq_some_iff, toList_insert h, Option.or_eq_some_iff, h.get?_eq_some_iff,
    h.get?_eq_none_iff, Option.ite_none_right_eq_some, Option.some_inj]
  split
  · rename_i hold
    refine ⟨.inl, fun hor => hor.elim (fun hx => hx) ?_⟩
    rintro ⟨hnew, rfl, -⟩
    exact absurd hold hnew
  · rename_i hnew
    rw [List.mem_append, List.mem_singleton]
    constructor
    · rintro ⟨hx | rfl, rfl⟩
      · exact .inl ⟨hx, rfl⟩
      · exact .inr ⟨hnew, rfl, rfl⟩
    · rintro (⟨hx, rfl⟩ | ⟨-, rfl, rfl⟩)
      · exact ⟨.inl hx, rfl⟩
      · exact ⟨.inr rfl, rfl⟩

/-- The first element of an id stays. -/
theorem get?_insertAll_list (h : s.Indexed) (l : List Element) (id : String) :
    (s.insertAll l).get? id = (s.get? id).or (l.find? (·.id == id)) := by
  induction l generalizing s with
  | nil => exact Option.or_none.symm
  | cons e l ih =>
    change ((s.insert e).insertAll l).get? id = _
    rw [ih (h.insert e), get?_insert h, Option.or_assoc]
    by_cases hid : e.id = id
    · rw [if_pos hid, Option.some_or, List.find?_cons_of_pos (by simpa using hid)]
    · rw [if_neg hid, Option.none_or, List.find?_cons_of_neg (by simpa using hid)]

theorem get?_ofList (l : List Element) (id : String) :
    (ofList l).get? id = l.find? (·.id == id) :=
  get?_insertAll_list indexed_empty l id

theorem mem_ids_insert (h : s.Indexed) (e : Element) :
    id ∈ (s.insert e).ids ↔ id ∈ s.ids ∨ id = e.id := by
  unfold ids
  rw [toList_insert h]
  split
  · rename_i hmem
    exact ⟨.inl, fun hor => hor.elim (fun hin => hin) fun heq => heq ▸ hmem⟩
  · simp

theorem mem_ids_insertAll (h : s.Indexed) (l : List Element) :
    id ∈ (s.insertAll l).ids ↔ id ∈ s.ids ∨ id ∈ l.map (·.id) := by
  induction l generalizing s with
  | nil => simp [insertAll]
  | cons e l ih =>
    change id ∈ ((s.insert e).insertAll l).ids ↔ _
    rw [ih (h.insert e), mem_ids_insert h, List.map_cons, List.mem_cons, or_assoc]

theorem mem_ids_ofList (l : List Element) : id ∈ (ofList l).ids ↔ id ∈ l.map (·.id) := by
  rw [ofList, mem_ids_insertAll indexed_empty]
  simp [ids, toList, empty]

/-- Elements of distinct new ids are all added. -/
theorem toList_insertAll_of_nodup (h : s.Indexed) {l : List Element}
    (hnodup : (s.ids ++ l.map (·.id)).Nodup) : (s.insertAll l).toList = s.toList ++ l := by
  induction l generalizing s with
  | nil => simp [insertAll]
  | cons e l ih =>
    have hnew : e.id ∉ s.ids := fun hmem =>
      (List.nodup_append.mp hnodup).2.2 e.id hmem e.id List.mem_cons_self rfl
    have hinsert : (s.insert e).toList = s.toList ++ [e] := by rw [toList_insert h, if_neg hnew]
    have hids : (s.insert e).ids = s.ids ++ [e.id] := by simp [ids, hinsert]
    change ((s.insert e).insertAll l).toList = _
    rw [ih (h.insert e) (by simpa [hids] using hnodup), hinsert, List.append_assoc]
    rfl

theorem toList_ofList_of_nodup {l : List Element} (hnodup : (l.map (·.id)).Nodup) :
    (ofList l).toList = l :=
  toList_insertAll_of_nodup indexed_empty hnodup

/-- Sets of one list are equal. -/
theorem Indexed.ext {t : ElementSet} (hs : s.Indexed) (ht : t.Indexed) (h : s.toList = t.toList) :
    s = t := by
  obtain ⟨elements, positions⟩ := s
  obtain ⟨others, places⟩ := t
  obtain rfl : elements = others := Array.toList_inj.mp h
  refine congrArg (ElementSet.mk elements) (NameMap.ext fun id => Option.ext fun i => ?_)
  exact (hs id i).trans (ht id i).symm

/-- A set is made from its list again. -/
theorem ofList_toList (hs : s.Indexed) : ofList s.toList = s :=
  Indexed.ext (indexed_ofList _) hs (toList_ofList_of_nodup hs.nodup_ids)

theorem eraseDups_append_singleton (ids : List String) (id : String) :
    (ids ++ [id]).eraseDups = if id ∈ ids then ids.eraseDups else ids.eraseDups ++ [id] := by
  rw [List.eraseDups_append]
  by_cases hmem : id ∈ ids <;> simp [List.removeAll, hmem, List.eraseDups_cons]

theorem size_eq (s : ElementSet) : s.size = s.ids.length := by simp [size, ids, toList]

/-- Each id stands where it is first mentioned. -/
theorem ids_insertAll (h : s.Indexed) {past : List String} (hpast : s.ids = past.eraseDups)
    (l : List Element) : (s.insertAll l).ids = (past ++ l.map (·.id)).eraseDups := by
  induction l generalizing s past with
  | nil => simpa [insertAll] using hpast
  | cons e l ih =>
    have hinsert : (s.insert e).ids = (past ++ [e.id]).eraseDups := by
      have hmem : e.id ∈ s.ids ↔ e.id ∈ past := by rw [hpast, List.mem_eraseDups]
      unfold ids
      rw [toList_insert h, eraseDups_append_singleton, ← hpast]
      by_cases hin : e.id ∈ past
      · rw [if_pos (hmem.mpr hin), if_pos hin]
        rfl
      · rw [if_neg fun hin' => hin (hmem.mp hin'), if_neg hin]
        simp [ids]
    change ((s.insert e).insertAll l).ids = _
    rw [ih (h.insert e) hinsert]
    simp

theorem ids_ofList (l : List Element) : (ofList l).ids = (l.map (·.id)).eraseDups := by
  have hempty : empty.ids = ([] : List String).eraseDups := rfl
  exact ids_insertAll indexed_empty hempty l

/-- Elements collected along ids, each of the id that it is collected for, stay in the order in which
the ids are first mentioned. -/
theorem toList_insertAll_filterMap {f : String → Option Element} (past ids : List String)
    (hf : ∀ id e, f id = some e → e.id = id) (h : s.Indexed)
    (hpast : s.toList = past.eraseDups.filterMap f) :
    (s.insertAll (ids.filterMap f)).toList = (past ++ ids).eraseDups.filterMap f := by
  induction ids generalizing s past with
  | nil => simpa [insertAll] using hpast
  | cons id ids ih =>
    rw [show past ++ id :: ids = (past ++ [id]) ++ ids by simp]
    cases he : f id with
    | none =>
      rw [List.filterMap_cons_none he]
      refine ih _ h ?_
      rw [hpast, eraseDups_append_singleton]
      split
      · rfl
      · simp [he]
    | some e =>
      rw [List.filterMap_cons_some he]
      refine ih _ (h.insert e) ?_
      have hid : e.id = id := hf id e he
      have hmem : e.id ∈ s.ids ↔ id ∈ past := by
        change e.id ∈ s.toList.map (·.id) ↔ _
        rw [hpast, List.mem_map]
        constructor
        · rintro ⟨x, hx, hxid⟩
          obtain ⟨id', hid', hfx⟩ := List.mem_filterMap.mp hx
          rw [← hid, ← hxid, hf id' x hfx]
          exact List.mem_eraseDups.mp hid'
        · intro hin
          exact ⟨e, List.mem_filterMap.mpr ⟨id, List.mem_eraseDups.mpr hin, he⟩, rfl⟩
      rw [toList_insert h, eraseDups_append_singleton]
      by_cases hin : id ∈ past
      · rw [if_pos (hmem.mpr hin), if_pos hin, hpast]
      · rw [if_neg (fun hin' => hin (hmem.mp hin')), if_neg hin, hpast]
        simp [he]

theorem toList_ofList_filterMap {f : String → Option Element} (ids : List String)
    (hf : ∀ id e, f id = some e → e.id = id) :
    (ofList (ids.filterMap f)).toList = ids.eraseDups.filterMap f :=
  toList_insertAll_filterMap [] ids hf indexed_empty rfl

end Causeway.Graph.ElementSet
