import Causeway.Proofs.Sprite.Fields
import Mathlib.Data.List.Nodup
import Mathlib.Data.List.Perm.Basic

/-!
# What renaming conserves

A rename takes the values of one field and puts them behind those of another. So after any renames every
field holds the values of some fields of before, one field after the other, and each field of before is
among these once (`Regroups.renameEach`): no value is lost, none is there twice, and the values of one
field stay together in their order (`renaming_conserves`).
-/

namespace Causeway.Sprite

variable {s t : Sprite} {source target field other f : String} {values : List Value}
  {newName : String → String} {l : List String}

/-! ### One field renamed -/

theorem rename_self (s : Sprite) (field : String) : s.rename field field = s := if_pos rfl

theorem rename_of_hasField_false (h : s.hasField source = false) : s.rename source target = s := by
  rw [rename, Option.not_isSome_iff_eq_none.mp (Bool.eq_false_iff.mp h)]
  split <;> rfl

theorem rename_of_get? (hne : source ≠ target) (h : s.fields.get? source = some values) :
    s.rename source target = (s.remove source).extend target values := by
  rw [rename, if_neg hne, h]

theorem valuesAt_rename (s : Sprite) (hne : source ≠ target) (field : String) :
    (s.rename source target).valuesAt field =
      if field = source then []
      else s.valuesAt field ++ if field = target then s.valuesAt source else [] := by
  cases hsource : s.hasField source with
  | false =>
    rw [rename_of_hasField_false hsource, valuesAt_of_hasField_false hsource, ite_self,
      List.append_nil]
    split
    · rename_i heq
      rw [heq, valuesAt_of_hasField_false hsource]
    · rfl
  | true =>
    obtain ⟨values, hvalues⟩ := Option.isSome_iff_exists.mp hsource
    rw [rename_of_get? hne hvalues, valuesAt_extend, valuesAt_remove, valuesAt_of_get? hvalues]
    by_cases heq : field = source
    · rw [if_pos heq, if_pos heq, if_neg (heq ▸ hne)]
      rfl
    · rw [if_neg heq, if_neg heq]

theorem hasField_rename_iff (hne : source ≠ target) :
    (s.rename source target).hasField field = true ↔
      field ≠ source ∧ (s.hasField field = true ∨ field = target ∧ s.hasField source = true) := by
  cases hsource : s.hasField source with
  | false =>
    rw [rename_of_hasField_false hsource]
    constructor
    · intro hfield
      refine ⟨?_, .inl hfield⟩
      rintro rfl
      rw [hsource] at hfield
      cases hfield
    · rintro ⟨-, hfield | ⟨-, hfalse⟩⟩
      · exact hfield
      · cases hfalse
  | true =>
    obtain ⟨values, hvalues⟩ := Option.isSome_iff_exists.mp hsource
    rw [rename_of_get? hne hvalues, hasField_extend_iff, hasField_remove_iff]
    constructor
    · rintro (rfl | ⟨hother, hfield⟩)
      · exact ⟨hne.symm, .inr ⟨rfl, rfl⟩⟩
      · exact ⟨hother, .inl hfield⟩
    · rintro ⟨hother, hfield | ⟨htarget, -⟩⟩
      · exact .inr ⟨hother, hfield⟩
      · exact .inl htarget

/-- Renames the fields of a list one after the other. -/
def renameEach (s : Sprite) (newName : String → String) (l : List String) : Sprite :=
  l.foldl (fun s field => s.rename field (newName field)) s

/-! ### Where values come from -/

/-- For every field, the fields of an earlier sprite whose values it holds, one after the other. -/
abbrev Origins := String → List String

namespace Origins

variable {o : Origins}

/-- Every field that is there holds its own values. -/
def own (s : Sprite) : Origins := fun field => if s.hasField field then [field] else []

def rename (o : Origins) (source target field : String) : List String :=
  (if field = source ∧ target ≠ field then [] else o field) ++
    if source ≠ field ∧ target = field then o source else []

def renameEach (o : Origins) (newName : String → String) (l : List String) : Origins :=
  l.foldl (fun o field => o.rename field (newName field)) o

theorem mem_own_iff : f ∈ own s field ↔ f = field ∧ s.hasField field = true := by
  unfold own
  split <;> simp [*]

theorem rename_self (o : Origins) (field : String) : o.rename field field = o := by
  funext other
  unfold rename
  rw [if_neg fun h => h.2 h.1.symm, if_neg fun h => h.1 h.2, List.append_nil]

theorem rename_of_ne (hne : source ≠ target) (o : Origins) (field : String) :
    o.rename source target field =
      if field = source then [] else o field ++ if field = target then o source else [] := by
  unfold rename
  by_cases hsource : field = source
  · simp [hsource, hne.symm]
  · simp [hsource, Ne.symm hsource, eq_comm (a := field)]

theorem mem_rename_iff (hne : source ≠ target) :
    f ∈ o.rename source target field ↔
      field ≠ source ∧ (f ∈ o field ∨ field = target ∧ f ∈ o source) := by
  rw [rename_of_ne hne]
  by_cases hsource : field = source
  · simp [hsource]
  · by_cases htarget : field = target <;> simp [hsource, htarget]

theorem rename_of_untouched (hsource : field ≠ source) (htarget : field ≠ target) :
    o.rename source target field = o field := by
  simp [rename, hsource, htarget.symm]

theorem renameEach_of_untouched (h : ∀ f ∈ l, field ≠ f ∧ field ≠ newName f) :
    o.renameEach newName l field = o field := by
  unfold renameEach
  induction l generalizing o with
  | nil => rfl
  | cons f l ih =>
    obtain ⟨⟨hsource, htarget⟩, hrest⟩ := List.forall_mem_cons.mp h
    rw [List.foldl_cons, ih hrest, rename_of_untouched hsource htarget]

end Origins

theorem map_snd_entries (s : Sprite) :
    s.entries.map Prod.snd = s.fieldNames.flatMap s.valuesAt := by
  unfold entries fieldNames NameMap.names
  rw [List.map_flatMap, List.flatMap_map]
  refine List.flatMap_congr fun e he => ?_
  rw [valuesAt_of_get? (Entries.get?_of_mem s.fields.ordered he), List.map_map]
  exact List.map_id e.2

/-- Every field holds the values of its origins, which are fields of an earlier sprite, and each of those
is an origin of one field and listed there once. -/
structure Regroups (o : Origins) (s t : Sprite) : Prop where
  values : ∀ field, t.valuesAt field = (o field).flatMap s.valuesAt
  fields : ∀ field, t.hasField field = true ↔ o field ≠ []
  complete : ∀ f, f ∈ s.fieldNames ↔ ∃ field, f ∈ o field
  nodup : ∀ field, (o field).Nodup
  apart : ∀ f field other, f ∈ o field → f ∈ o other → field = other

namespace Regroups

variable {o : Origins}

theorem own (s : Sprite) : Regroups (.own s) s s where
  values field := by
    cases hfield : s.hasField field with
    | false => simp [Origins.own, hfield, valuesAt_of_hasField_false hfield]
    | true => simp [Origins.own, hfield]
  fields field := by cases hfield : s.hasField field <;> simp [Origins.own, hfield]
  complete f := by
    rw [mem_fieldNames_iff]
    constructor
    · exact fun hf => ⟨f, Origins.mem_own_iff.mpr ⟨rfl, hf⟩⟩
    · rintro ⟨field, hf⟩
      obtain ⟨rfl, hf⟩ := Origins.mem_own_iff.mp hf
      exact hf
  nodup field := by cases hfield : s.hasField field <;> simp [Origins.own, hfield]
  apart f field other hfield hother :=
    (Origins.mem_own_iff.mp hfield).1.symm.trans (Origins.mem_own_iff.mp hother).1

theorem rename (h : Regroups o s t) (source target : String) :
    Regroups (o.rename source target) s (t.rename source target) := by
  by_cases hne : source = target
  · rw [hne, Origins.rename_self, Sprite.rename_self]
    exact h
  refine ⟨?_, ?_, ?_, ?_, ?_⟩
  · intro field
    rw [valuesAt_rename t hne, Origins.rename_of_ne hne, h.values field, h.values source]
    split
    · rfl
    · rw [List.flatMap_append]
      congr 1
      split <;> rfl
  · intro field
    rw [hasField_rename_iff hne, h.fields field, h.fields source, Origins.rename_of_ne hne]
    by_cases hsource : field = source
    · simp [hsource]
    · by_cases htarget : field = target
      · have hboth : o field ++ o source ≠ [] ↔ o field ≠ [] ∨ o source ≠ [] := by
          rw [Ne, List.append_eq_nil_iff, not_and_or]
        rw [if_neg hsource, if_pos htarget, hboth, and_iff_right hsource, and_iff_right htarget]
      · simp [hsource, htarget]
  · intro f
    rw [h.complete f]
    constructor
    · rintro ⟨field, hf⟩
      by_cases hsource : field = source
      · exact ⟨target, (Origins.mem_rename_iff hne).mpr ⟨Ne.symm hne, .inr ⟨rfl, hsource ▸ hf⟩⟩⟩
      · exact ⟨field, (Origins.mem_rename_iff hne).mpr ⟨hsource, .inl hf⟩⟩
    · rintro ⟨field, hf⟩
      rcases ((Origins.mem_rename_iff hne).mp hf).2 with hf | ⟨-, hf⟩
      · exact ⟨field, hf⟩
      · exact ⟨source, hf⟩
  · intro field
    rw [Origins.rename_of_ne hne]
    by_cases hsource : field = source
    · rw [if_pos hsource]
      exact List.nodup_nil
    · rw [if_neg hsource]
      split
      · -- what was in two fields is still apart
        refine (h.nodup field).append (h.nodup source) fun f hf hf' => ?_
        exact hsource (h.apart f field source hf hf')
      · rw [List.append_nil]
        exact h.nodup field
  · intro f field other hf hf'
    obtain ⟨hfield, hf⟩ := (Origins.mem_rename_iff hne).mp hf
    obtain ⟨hother, hf'⟩ := (Origins.mem_rename_iff hne).mp hf'
    rcases hf with hf | ⟨htarget, hf⟩
    · rcases hf' with hf' | ⟨-, hf'⟩
      · exact h.apart f field other hf hf'
      · exact absurd (h.apart f field source hf hf') hfield
    · rcases hf' with hf' | ⟨htarget', -⟩
      · exact absurd (h.apart f other source hf' hf) hother
      · rw [htarget, htarget']

theorem renameEach (h : Regroups o s t) (newName : String → String) (l : List String) :
    Regroups (o.renameEach newName l) s (t.renameEach newName l) := by
  unfold Sprite.renameEach Origins.renameEach
  induction l generalizing o t with
  | nil => exact h
  | cons f l ih => exact ih (h.rename f (newName f))

theorem infix_of_mem (h : Regroups o s t) (hf : f ∈ o field) :
    s.valuesAt f <:+: t.valuesAt field := by
  obtain ⟨front, back, ho⟩ := List.append_of_mem hf
  rw [h.values field, ho, List.flatMap_append, List.flatMap_cons]
  exact ⟨front.flatMap s.valuesAt, back.flatMap s.valuesAt, List.append_assoc _ _ _⟩

theorem get?_of_eq_own (h : Regroups o s t) (hown : o field = Origins.own s field) :
    t.fields.get? field = s.fields.get? field := by
  refine get?_eq_get? ?_ ?_
  · rw [h.fields, hown, (own s).fields]
  · rw [h.values, hown, ← (own s).values]

/-- The origins of all fields are the fields of the earlier sprite. -/
theorem perm_names (h : Regroups o s t) : (t.fieldNames.flatMap o).Perm s.fieldNames := by
  refine (List.perm_ext_iff_of_nodup (List.nodup_flatMap.mpr ⟨?_, ?_⟩) s.nodup_fieldNames).mpr ?_
  · exact fun field _ => h.nodup field
  · refine t.nodup_fieldNames.imp ?_
    intro field other hne f hf hf'
    exact hne (h.apart f field other hf hf')
  · intro f
    rw [h.complete, List.mem_flatMap]
    constructor
    · rintro ⟨field, -, hf⟩
      exact ⟨field, hf⟩
    · rintro ⟨field, hf⟩
      exact ⟨field, mem_fieldNames_iff.mpr ((h.fields field).mpr (List.ne_nil_of_mem hf)), hf⟩

theorem perm_values (h : Regroups o s t) :
    (t.entries.map Prod.snd).Perm (s.entries.map Prod.snd) := by
  have hvalues : t.fieldNames.flatMap t.valuesAt = (t.fieldNames.flatMap o).flatMap s.valuesAt := by
    rw [List.flatMap_assoc]
    exact List.flatMap_congr fun field _ => h.values field
  rw [map_snd_entries, map_snd_entries, hvalues]
  exact h.perm_names.flatMap_right s.valuesAt

end Regroups

/-! ### The values of all fields -/

/-- All values of a sprite are there again as often as before, values that shared a field share one in
the same order, and a field is as it was unless it is one of those that may be touched. -/
structure Conserves (touched : String → Prop) (s t : Sprite) : Prop where
  values : (t.entries.map Prod.snd).Perm (s.entries.map Prod.snd)
  groups : ∃ o, Regroups o s t
  together : ∀ f ∈ s.fieldNames, ∃ field ∈ t.fieldNames, s.valuesAt f <:+: t.valuesAt field
  untouched : ∀ field, ¬touched field → t.fields.get? field = s.fields.get? field

theorem Regroups.conserves {o : Origins} {touched : String → Prop} (h : Regroups o s t)
    (huntouched : ∀ field, ¬touched field → o field = Origins.own s field) : Conserves touched s t where
  values := h.perm_values
  groups := ⟨o, h⟩
  together f hf := by
    obtain ⟨field, hmem⟩ := (h.complete f).mp hf
    have hfield : t.hasField field = true := (h.fields field).mpr (List.ne_nil_of_mem hmem)
    exact ⟨field, mem_fieldNames_iff.mpr hfield, h.infix_of_mem hmem⟩
  untouched field hfield := h.get?_of_eq_own (huntouched field hfield)

/-- Renaming one field conserves all values and touches only the two fields that it names. Renaming the
selected fields, by whatever rule and to whatever names, conserves all values and touches only the
selected fields and those that they are renamed to. -/
theorem renaming_conserves (s : Sprite) :
    (∀ source target,
      Conserves (fun field => field = source ∨ field = target) s (s.rename source target)) ∧
      ∀ selects newName,
        Conserves
          (fun field => field ∈ s.fieldsWhere selects ∨
            ∃ f ∈ s.fieldsWhere selects, newName f = field)
          s (s.renameWhere selects newName) := by
  constructor
  · intro source target
    refine ((Regroups.own s).rename source target).conserves ?_
    intro field huntouched
    obtain ⟨hsource, htarget⟩ := not_or.mp huntouched
    exact Origins.rename_of_untouched hsource htarget
  · intro selects newName
    refine ((Regroups.own s).renameEach newName (s.fieldsWhere selects)).conserves ?_
    intro field huntouched
    obtain ⟨hselected, htarget⟩ := not_or.mp huntouched
    refine Origins.renameEach_of_untouched fun f hf => ⟨?_, ?_⟩
    · rintro rfl
      exact hselected hf
    · rintro rfl
      exact htarget ⟨f, hf, rfl⟩

end Causeway.Sprite
