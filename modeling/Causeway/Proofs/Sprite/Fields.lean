import Causeway.Sprite.Basic

/-!
# Values that stay in front

What one change makes of a field and leaves of the others. Adding to a sprite only puts values behind
those that a field has (`prefix_load`). So the first value of a field stays the first, whatever is loaded
later.
-/

namespace Causeway.Sprite

variable {s t : Sprite} {field other : String} {values : List Value} {v : Value}

theorem mem_fieldNames_iff : field ∈ s.fieldNames ↔ s.hasField field = true :=
  (s.fields.contains_iff_mem_names field).symm

theorem nodup_fieldNames (s : Sprite) : s.fieldNames.Nodup := s.fields.nodup_names

theorem valuesAt_of_get? (h : s.fields.get? field = some values) :
    s.valuesAt field = values := by
  rw [valuesAt, h, Option.getD_some]

theorem mem_valuesAt_iff :
    v ∈ s.valuesAt field ↔ ∃ values, s.fields.get? field = some values ∧ v ∈ values := by
  unfold valuesAt
  cases s.fields.get? field <;> simp

theorem valuesAt_of_hasField_false (h : s.hasField field = false) : s.valuesAt field = [] := by
  rw [valuesAt, Option.not_isSome_iff_eq_none.mp (Bool.eq_false_iff.mp h), Option.getD_none]

/-- A field is told by whether it is there and by what it holds. -/
theorem get?_eq_get? (hfield : s.hasField field = true ↔ t.hasField field = true)
    (hvalues : s.valuesAt field = t.valuesAt field) :
    s.fields.get? field = t.fields.get? field := by
  unfold hasField NameMap.contains valuesAt at *
  cases hs : s.fields.get? field <;> cases ht : t.fields.get? field <;> simp_all

theorem eq_of_get?_eq (h : ∀ field, s.fields.get? field = t.fields.get? field) : s = t :=
  congrArg Sprite.mk (NameMap.ext h)

/-- Nothing but one field may have changed. -/
def SameBeside (field : String) (s t : Sprite) : Prop :=
  ∀ other, other ≠ field → t.fields.get? other = s.fields.get? other

theorem get?_extend (s : Sprite) (field other : String) (values : List Value) :
    (s.extend field values).fields.get? other =
      if other = field then some (s.valuesAt field ++ values) else s.fields.get? other :=
  NameMap.get?_insert _ _ _ _

theorem valuesAt_extend (s : Sprite) (field other : String) (values : List Value) :
    (s.extend field values).valuesAt other =
      s.valuesAt other ++ if other = field then values else [] := by
  unfold extend valuesAt NameMap.update
  rw [NameMap.get?_insert]
  by_cases hfield : other = field
  · rw [if_pos hfield, if_pos hfield, hfield]
    rfl
  · rw [if_neg hfield, if_neg hfield, List.append_nil]

theorem hasField_extend_iff :
    (s.extend field values).hasField other = true ↔ other = field ∨ s.hasField other = true := by
  unfold extend hasField NameMap.update
  rw [NameMap.contains_insert, Bool.or_eq_true, beq_iff_eq]

theorem valuesAt_remove (s : Sprite) (field other : String) :
    (s.remove field).valuesAt other = if other = field then [] else s.valuesAt other := by
  unfold remove valuesAt
  rw [NameMap.get?_erase]
  split <;> rfl

theorem hasField_remove_iff :
    (s.remove field).hasField other = true ↔ other ≠ field ∧ s.hasField other = true := by
  unfold remove hasField NameMap.contains
  rw [NameMap.get?_erase]
  by_cases hother : other = field <;> simp [hother]

/-- The values that a sprite takes in. -/
def filled (values : List Value) : List Value := values.filter fun v => !v.isBlank

/-- What is found at a field that has these values: a field without values is not there. -/
def stored (values : List Value) : Option (List Value) := if values = [] then none else some values

theorem valuesAt_of_get?_eq_stored (h : s.fields.get? field = stored values) :
    s.valuesAt field = values := by
  rw [valuesAt, h, stored]
  split
  · rename_i hnil
    exact hnil.symm
  · rfl

/-- What a field holds tells what is found, unless the field is there without values. -/
theorem get?_eq_stored_iff :
    s.fields.get? field = stored (s.valuesAt field) ↔ s.fields.get? field ≠ some [] := by
  unfold stored valuesAt
  cases s.fields.get? field with
  | none => simp
  | some values => cases values <;> simp

theorem get?_pushAll (s : Sprite) (field other : String) (values : List Value) :
    (s.pushAll field values).fields.get? other =
      if other = field ∧ filled values ≠ [] then some (s.valuesAt field ++ filled values)
      else s.fields.get? other := by
  unfold pushAll
  induction values generalizing s with
  | nil => rw [if_neg fun h => h.2 rfl]; rfl
  | cons v values ih =>
    rw [List.foldl_cons, ih, push]
    by_cases hblank : v.isBlank = true
    · rw [if_pos hblank, filled, filled, List.filter_cons_of_neg (by simp [hblank])]
    · have hfilled : filled (v :: values) = v :: filled values :=
        List.filter_cons_of_pos (by simp [hblank])
      rw [if_neg hblank, get?_extend, valuesAt_extend, if_pos rfl, hfilled]
      by_cases hother : other = field
      · by_cases hnil : filled values = [] <;> simp [hother, hnil]
      · simp [hother]

theorem valuesAt_pushAll (s : Sprite) (field other : String) (values : List Value) :
    (s.pushAll field values).valuesAt other =
      s.valuesAt other ++ if other = field then filled values else [] := by
  rw [valuesAt, get?_pushAll]
  by_cases hother : other = field
  · by_cases hnil : filled values = [] <;> simp [hother, hnil, valuesAt]
  · simp [hother, valuesAt]

theorem pushAll_singleton (s : Sprite) (field : String) (v : Value) :
    s.pushAll field [v] = s.push field v := rfl

/-- Replacing the values of a field changes no other one. -/
theorem get?_pushAll_remove (s : Sprite) (field other : String) (values : List Value) :
    ((s.remove field).pushAll field values).fields.get? other =
      if other = field then stored (filled values) else s.fields.get? other := by
  have hremove : (s.remove field).fields.get? other =
      if other = field then none else s.fields.get? other := NameMap.get?_erase _ _ _
  rw [get?_pushAll, valuesAt_remove, if_pos rfl, List.nil_append, hremove, stored]
  by_cases hother : other = field
  · by_cases hnil : filled values = [] <;> simp [hother, hnil]
  · simp [hother]

theorem prefix_pushAll (s : Sprite) (field other : String) (values : List Value) :
    s.valuesAt other <+: (s.pushAll field values).valuesAt other := by
  rw [valuesAt_pushAll]
  exact List.prefix_append _ _

theorem prefix_add (s : Sprite) (field other : String) (v : Value) :
    s.valuesAt other <+: (s.add field v).valuesAt other :=
  prefix_pushAll s field other (flatten v)

theorem prefix_load (s : Sprite) (entries : List (String × Value)) (other : String) :
    s.valuesAt other <+: (s.load entries).valuesAt other := by
  unfold load
  induction entries generalizing s with
  | nil => exact List.prefix_refl _
  | cons e entries ih => exact (prefix_add s e.1 other e.2).trans (ih (s.add e.1 e.2))

theorem first_eq_ok_iff : s.first field = .ok v ↔ (s.valuesAt field).head? = some v := by
  unfold first
  cases (s.valuesAt field).head? <;> simp

/-- The first value of a field stays the first. -/
theorem first_of_prefix (h : s.valuesAt field <+: t.valuesAt field)
    (hfirst : s.first field = .ok v) : t.first field = .ok v := by
  rw [first_eq_ok_iff] at hfirst ⊢
  obtain ⟨later, hlater⟩ := h
  rw [← hlater, List.head?_append, hfirst]
  rfl

theorem first_add_of_first (h : s.first field = .ok v) (other : String) (x : Value) :
    (s.add other x).first field = .ok v :=
  first_of_prefix (prefix_add s other field x) h

theorem first_load_of_first (h : s.first field = .ok v) (entries : List (String × Value)) :
    (s.load entries).first field = .ok v :=
  first_of_prefix (prefix_load s entries field) h

/-- A text that is not blank is the first value of a field that had none. -/
theorem first_add_string {text : String} (hnone : s.valuesAt field = [])
    (htext : Text.isBlankText text = false) :
    (s.add field (.string text)).first field = .ok (.string text) := by
  have hfilled : filled [.string text] = [.string text] :=
    List.filter_cons_of_pos (by simp [Value.isBlank, htext])
  have hadd : (s.add field (.string text)).valuesAt field = [.string text] := by
    change (s.pushAll field [.string text]).valuesAt field = _
    rw [valuesAt_pushAll, hnone, if_pos rfl, hfilled, List.nil_append]
  rw [first_eq_ok_iff, hadd]
  rfl

theorem valuesAt_add_of_ne (s : Sprite) (hne : other ≠ field) (v : Value) :
    (s.add field v).valuesAt other = s.valuesAt other := by
  rw [add, valuesAt_pushAll, if_neg hne, List.append_nil]

end Causeway.Sprite
