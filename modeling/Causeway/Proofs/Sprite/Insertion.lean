import Causeway.Proofs.Sprite.Fields
import Causeway.Proofs.Value.Equality

/-!
# Adding what is not there yet

Adding only values that a field does not hold appends the candidates that it did not hold at first, each
once (`addAllIfNotExists_eq`), although every one is looked for among those that were added before it
too.
-/

namespace Causeway.Sprite

variable {s : Sprite} {field : String} {values l : List Value} {v : Value}

/-! ### Each value once -/

/-- Induction along the removal of repeated values, which takes all values that equal the first one away
at once. -/
theorem eraseDups_induction {motive : List Value → Prop} (nil : motive [])
    (cons : ∀ v l, motive (l.filter fun w => !w == v) → motive (v :: l)) :
    ∀ l : List Value, motive l
  | [] => nil
  | v :: l => cons v l (eraseDups_induction nil cons _)
termination_by l => l.length
decreasing_by exact Nat.lt_succ_of_le (List.length_filter_le _ _)

theorem subset_of_eraseDups (l : List Value) : l.eraseDups ⊆ l := by
  induction l using eraseDups_induction with
  | nil => exact List.Subset.refl _
  | cons v l ih =>
    rw [List.eraseDups_cons]
    exact List.cons_subset_cons v (List.Subset.trans ih fun _ hw => (List.mem_filter.mp hw).1)

theorem exists_beq_of_mem (hv : v ∈ l) (hself : (v == v) = true) :
    ∃ w ∈ l.eraseDups, (v == w) = true := by
  induction l using eraseDups_induction with
  | nil => exact absurd hv List.not_mem_nil
  | cons x l ih =>
    rw [List.eraseDups_cons]
    by_cases hx : (v == x) = true
    · exact ⟨x, List.mem_cons_self, hx⟩
    · rcases List.mem_cons.mp hv with rfl | hv
      · exact absurd hself hx
      · obtain ⟨w, hw, hbeq⟩ := ih (List.mem_filter.mpr ⟨hv, by simp [hx]⟩)
        exact ⟨w, List.mem_cons_of_mem x hw, hbeq⟩

/-- No two of the values are equal. -/
def Distinct (values : List Value) : Prop := values.Pairwise fun v w => (v == w) = false

theorem distinct_eraseDups (l : List Value) : Distinct l.eraseDups := by
  induction l using eraseDups_induction with
  | nil => exact List.Pairwise.nil
  | cons v l ih =>
    rw [List.eraseDups_cons]
    refine List.pairwise_cons.mpr ⟨fun w hw => ?_, ih⟩
    have hother := (List.mem_filter.mp (subset_of_eraseDups _ hw)).2
    rw [Value.beq_comm]
    simpa using hother

/-! ### Additions -/

theorem hasValue_iff : s.hasValue field v = true ↔ ∃ w ∈ s.valuesAt field, (v == w) = true :=
  List.contains_iff_exists_mem_beq

/-- The candidates that are not blank and that the field does not hold, each once, in the order in which
they come first. -/
def additions (s : Sprite) (field : String) (candidates : List Value) : List Value :=
  ((filled candidates).filter fun v => !s.hasValue field v).eraseDups

theorem mem_additions (h : v ∈ additions s field l) :
    v ∈ l ∧ v.isBlank = false ∧ s.hasValue field v = false := by
  obtain ⟨hfilled, hnew⟩ := List.mem_filter.mp (subset_of_eraseDups _ h)
  obtain ⟨hmem, hblank⟩ := List.mem_filter.mp hfilled
  exact ⟨hmem, by simpa using hblank, by simpa using hnew⟩

theorem filled_additions (s : Sprite) (field : String) (l : List Value) :
    filled (additions s field l) = additions s field l :=
  List.filter_eq_self.mpr fun v hv => by simp [(mem_additions hv).2.1]

/-- A value that the field takes in is not added again. -/
theorem additions_cons_of_new (hblank : v.isBlank = false) (hnew : s.hasValue field v = false) :
    additions s field (v :: l) = v :: additions (s.push field v) field l := by
  have hfilled : filled (v :: l) = v :: filled l := List.filter_cons_of_pos (by simp [hblank])
  have hvalues : (s.push field v).valuesAt field = s.valuesAt field ++ [v] := by
    rw [push, if_neg (by simp [hblank]), valuesAt_extend, if_pos rfl]
  -- later candidates find this one too, and so its repetitions are dropped
  have hlater : ∀ w, (s.push field v).hasValue field w = (s.hasValue field w || w == v) := by
    intro w
    rw [hasValue, hvalues, List.contains_append]
    simp [hasValue]
  unfold additions
  rw [hfilled, List.filter_cons_of_pos (by simp [hnew]), List.eraseDups_cons, List.filter_filter]
  congr 2
  refine List.filter_congr fun w _ => ?_
  rw [hlater, Bool.not_or, Bool.and_comm]

theorem additions_cons_of_not_new (h : v.isBlank = true ∨ s.hasValue field v = true) :
    additions s field (v :: l) = additions s field l := by
  unfold additions filled
  rw [List.filter_filter, List.filter_cons_of_neg, List.filter_filter]
  rcases h with h | h <;> simp [h]

/-- The field grows while the candidates are looked up in it; what they find there beyond its first
values are equal candidates before them, and those are the repetitions that `additions` leaves out. -/
theorem foldl_pushNew (s : Sprite) (field : String) (l : List Value) :
    l.foldl (fun s v => s.pushNew field v) s = s.pushAll field (additions s field l) := by
  induction l generalizing s with
  | nil => rfl
  | cons v l ih =>
    rw [List.foldl_cons, ih]
    cases hblank : v.isBlank with
    | true =>
      have hsame : s.pushNew field v = s := by simp [pushNew, push, hblank]
      rw [hsame, additions_cons_of_not_new (.inl hblank)]
    | false =>
      cases hheld : s.hasValue field v with
      | true =>
        rw [pushNew, if_pos hheld, additions_cons_of_not_new (.inr hheld)]
      | false =>
        rw [pushNew, if_neg (by simp [hheld]), additions_cons_of_new hblank hheld]
        rfl

theorem addAllIfNotExists_eq (s : Sprite) (field : String) (values : List Value) :
    s.addAllIfNotExists field values =
      s.pushAll field (additions s field (values.flatMap flatten)) := by
  rw [← foldl_pushNew, List.foldl_flatMap]
  rfl

/-! ### The field afterwards -/

theorem valuesAt_addAllIfNotExists (s : Sprite) (field : String) (values : List Value) :
    (s.addAllIfNotExists field values).valuesAt field =
      s.valuesAt field ++ additions s field (values.flatMap flatten) := by
  rw [addAllIfNotExists_eq, valuesAt_pushAll, if_pos rfl, filled_additions]

theorem additions_of_forall_hasValue
    (h : ∀ v ∈ l, v.isBlank = false → s.hasValue field v = true) : additions s field l = [] := by
  refine List.eq_nil_iff_forall_not_mem.mpr fun v hv => ?_
  obtain ⟨hmem, hblank, hnew⟩ := mem_additions hv
  rw [h v hmem hblank] at hnew
  cases hnew

theorem wellFormed_of_mem_flatten {w : Value} (h : v.WellFormed) (hw : w ∈ flatten v) :
    w.WellFormed := by
  cases v with
  | list items => exact Value.itemsWellFormed_iff.mp h w hw
  | _ => exact List.mem_singleton.mp hw ▸ h

/-- Afterwards the field holds every candidate that is not blank. -/
theorem hasValue_addAllIfNotExists (hv : v ∈ values.flatMap flatten) (hself : (v == v) = true)
    (hblank : v.isBlank = false) : (s.addAllIfNotExists field values).hasValue field v = true := by
  rw [hasValue_iff, valuesAt_addAllIfNotExists]
  cases hheld : s.hasValue field v with
  | true =>
    obtain ⟨w, hw, hbeq⟩ := hasValue_iff.mp hheld
    exact ⟨w, List.mem_append_left _ hw, hbeq⟩
  | false =>
    have hnew : v ∈ (filled (values.flatMap flatten)).filter fun v => !s.hasValue field v :=
      List.mem_filter.mpr ⟨List.mem_filter.mpr ⟨hv, by simp [hblank]⟩, by simp [hheld]⟩
    obtain ⟨w, hw, hbeq⟩ := exists_beq_of_mem hnew hself
    exact ⟨w, List.mem_append_right _ hw, hbeq⟩

theorem distinct_append_additions (h : Distinct (s.valuesAt field)) (l : List Value) :
    Distinct (s.valuesAt field ++ additions s field l) := by
  refine List.pairwise_append.mpr ⟨h, distinct_eraseDups _, fun v hv w hw => ?_⟩
  rw [Value.beq_comm, ← Bool.not_eq_true]
  intro hbeq
  have hheld : s.hasValue field w = true := hasValue_iff.mpr ⟨v, hv, hbeq⟩
  rw [(mem_additions hw).2.2] at hheld
  cases hheld

/-- Behind its values the field gets the candidates that it did not hold, each once, and no other field
changes. So a field without repeated values gets none, and adding the same values again does nothing. -/
theorem addAllIfNotExists_inserts (s : Sprite) (field : String) (values : List Value) :
    (s.addAllIfNotExists field values).valuesAt field =
        s.valuesAt field ++ additions s field (values.flatMap flatten) ∧
      SameBeside field s (s.addAllIfNotExists field values) ∧
      (Distinct (s.valuesAt field) →
        Distinct ((s.addAllIfNotExists field values).valuesAt field)) ∧
      ((∀ v ∈ values, v.WellFormed) →
        (s.addAllIfNotExists field values).addAllIfNotExists field values =
          s.addAllIfNotExists field values) := by
  refine ⟨valuesAt_addAllIfNotExists s field values, fun other hother => ?_, fun h => ?_,
    fun hvalues => ?_⟩
  · rw [addAllIfNotExists_eq, get?_pushAll, if_neg fun h => hother h.1]
  · rw [valuesAt_addAllIfNotExists]
    exact distinct_append_additions h _
  · rw [addAllIfNotExists_eq, additions_of_forall_hasValue]
    · rfl
    · intro v hv hblank
      obtain ⟨u, hu, hflat⟩ := List.mem_flatMap.mp hv
      have hself := Value.beq_self (wellFormed_of_mem_flatten (hvalues u hu) hflat)
      exact hasValue_addAllIfNotExists hv hself hblank

def tagged : Sprite := Sprite.empty.load [("tag", .string "a"), ("size", .int 3)]

def newTags : List Value :=
  [.list [.string "b", .string "a", .string "b"], .string " ", .string "c"]

theorem addAllIfNotExists_inserts_tagged :
    (tagged.addAllIfNotExists "tag" newTags).valuesAt "tag" =
        [.string "a", .string "b", .string "c"] ∧
      (tagged.addAllIfNotExists "tag" newTags).addAllIfNotExists "tag" newTags =
        tagged.addAllIfNotExists "tag" newTags := by
  obtain ⟨hvalues, -, -, hagain⟩ := addAllIfNotExists_inserts tagged "tag" newTags
  refine ⟨hvalues.trans rfl, hagain ?_⟩
  simp [newTags, Value.WellFormed, Value.ItemsWellFormed]

end Causeway.Sprite
