import Causeway.Proofs.Sprite.Fields
import Causeway.Sprite.Mutation

/-!
# Fields that hold something

No change to a sprite brings in a blank value, or a field without values: those that there are were
there before (`Within.run`). A sprite built up from nothing has neither, whatever was done to it, and
then a field is there exactly if it has a first value (`isClean_run`).
-/

namespace Causeway.Sprite

variable {s : Sprite} {blanks : Value → Prop} {gaps : Prop} {field : String} {values : List Value}

/-- Blank values are such as `blanks` allows, and there are none at all only if `gaps` holds. -/
def FilledWithin (blanks : Value → Prop) (gaps : Prop) (values : List Value) : Prop :=
  (values = [] → gaps) ∧ ∀ v ∈ values, v.isBlank = true → blanks v

def Within (blanks : Value → Prop) (gaps : Prop) (s : Sprite) : Prop :=
  ∀ field values, s.fields.get? field = some values → FilledWithin blanks gaps values

/-! ### What one change does -/

namespace Within

theorem extend (h : s.Within blanks gaps) (hvalues : FilledWithin blanks gaps values)
    (field : String) : (s.extend field values).Within blanks gaps := by
  intro other held hother
  change (s.fields.insert field ((s.fields.get? field).getD [] ++ values)).get? other =
    some held at hother
  rw [NameMap.get?_insert] at hother
  by_cases heq : other = field
  · rw [if_pos heq] at hother
    obtain rfl := Option.some.inj hother
    refine ⟨fun hnil => hvalues.1 (List.append_eq_nil_iff.mp hnil).2, ?_⟩
    intro v hv hblank
    rcases List.mem_append.mp hv with hold | hnew
    · obtain ⟨old, hget, hv⟩ := mem_valuesAt_iff.mp hold
      exact (h field old hget).2 v hv hblank
    · exact hvalues.2 v hnew hblank
  · rw [if_neg heq] at hother
    exact h other held hother

theorem push (h : s.Within blanks gaps) (field : String) (v : Value) :
    (s.push field v).Within blanks gaps := by
  unfold Sprite.push
  by_cases hblank : v.isBlank = true
  · rw [if_pos hblank]
    exact h
  · rw [if_neg hblank]
    refine h.extend ⟨fun hnil => absurd hnil (List.cons_ne_nil v []), ?_⟩ field
    intro w hw hw'
    rw [List.mem_singleton.mp hw] at hw'
    exact absurd hw' hblank

theorem foldl {α : Type} {f : Sprite → α → Sprite}
    (hf : ∀ (s : Sprite) (x : α), s.Within blanks gaps → (f s x).Within blanks gaps)
    (h : s.Within blanks gaps) (l : List α) : (l.foldl f s).Within blanks gaps := by
  induction l generalizing s with
  | nil => exact h
  | cons x l ih => exact ih (hf s x h)

theorem pushAll (h : s.Within blanks gaps) (field : String) (values : List Value) :
    (s.pushAll field values).Within blanks gaps :=
  h.foldl (fun _ v hs => hs.push field v) values

theorem add (h : s.Within blanks gaps) (field : String) (v : Value) :
    (s.add field v).Within blanks gaps :=
  h.pushAll field (flatten v)

theorem addIfNotExists (h : s.Within blanks gaps) (field : String) (v : Value) :
    (s.addIfNotExists field v).Within blanks gaps := by
  refine h.foldl ?_ (flatten v)
  intro s v hs
  unfold pushNew
  split
  · exact hs
  · exact hs.push field v

theorem remove (h : s.Within blanks gaps) (field : String) :
    (s.remove field).Within blanks gaps := by
  intro other held hother
  change (s.fields.erase field).get? other = some held at hother
  rw [NameMap.get?_erase] at hother
  split at hother
  · cases hother
  · exact h other held hother

theorem removeValue (h : s.Within blanks gaps) (field : String) (v : Value) :
    (s.removeValue field v).Within blanks gaps := by
  unfold Sprite.removeValue
  split
  · exact h
  · rename_i held hheld
    by_cases hlast : (held.eraseP (· == v)).isEmpty = true
    · rw [if_pos hlast]
      exact h.remove field
    · rw [if_neg hlast]
      intro other rest hother
      change (s.fields.insert field (held.eraseP (· == v))).get? other = some rest at hother
      rw [NameMap.get?_insert] at hother
      split at hother
      · obtain rfl := Option.some.inj hother
        refine ⟨fun hnil => absurd (List.isEmpty_iff.mpr hnil) hlast, ?_⟩
        intro w hw
        exact (h field held hheld).2 w (List.mem_of_mem_eraseP hw)
      · exact h other rest hother

theorem removeWhere (h : s.Within blanks gaps) (selects : String → Bool) :
    (s.removeWhere selects).Within blanks gaps := by
  intro other held hother
  have hfilter := s.fields.get?_filter (fun name => !selects name) other
  change (s.fields.filter fun e => !selects e.1).get? other = some held at hother
  rw [hfilter] at hother
  split at hother
  · exact h other held hother
  · cases hother

/-- The values that are moved were there before. -/
theorem rename (h : s.Within blanks gaps) (source target : String) :
    (s.rename source target).Within blanks gaps := by
  unfold Sprite.rename
  by_cases hsame : source = target
  · rw [if_pos hsame]
    exact h
  · rw [if_neg hsame]
    split
    · exact h
    · rename_i held hheld
      exact (h.remove source).extend (h source held hheld) target

theorem copy (h : s.Within blanks gaps) (source target : String) :
    (s.copy source target).Within blanks gaps := by
  unfold Sprite.copy
  split
  · exact h
  · rename_i held hheld
    exact h.extend (h source held hheld) target

theorem apply (h : s.Within blanks gaps) (field : String) (f : Value → Value) :
    (s.apply field f).Within blanks gaps :=
  (h.remove field).pushAll field _

theorem joinValuesOf (h : s.Within blanks gaps) (field : String) (o : JoinOptions) :
    (s.joinValuesOf field o).Within blanks gaps := by
  unfold Sprite.joinValuesOf
  split
  · exact h
  · exact (h.remove field).push field _

theorem perform (h : s.Within blanks gaps) (m : Mutation) :
    (s.perform m).Within blanks gaps := by
  cases m with
  | add field v => exact h.add field v
  | addAll field values => exact h.foldl (fun _ v hs => hs.add field v) values
  | addIfNotExists field v => exact h.addIfNotExists field v
  | addAllIfNotExists field values =>
    exact h.foldl (fun _ v hs => hs.addIfNotExists field v) values
  | load entries => exact h.foldl (fun _ e hs => hs.add e.1 e.2) entries
  | remove field => exact h.remove field
  | removeValue field v => exact h.removeValue field v
  | removeWhere selects => exact h.removeWhere selects
  | rename source target => exact h.rename source target
  | renameWhere selects newName =>
    exact h.foldl (fun _ field hs => hs.rename field (newName field)) _
  | copy source target => exact h.copy source target
  | apply field f => exact h.apply field f
  | applyWhere selects f => exact h.foldl (fun _ field hs => hs.apply field f) _
  | applyTo source f target => exact h.pushAll target _
  | splitValues field separator => exact (h.remove field).pushAll field _
  | joinValues field separator => exact h.joinValuesOf field { separator }
  | joinValuesOf field o => exact h.joinValuesOf field o

theorem run (h : s.Within blanks gaps) (mutations : List Mutation) :
    (s.run mutations).Within blanks gaps :=
  h.foldl (fun _ m hs => hs.perform m) mutations

end Within

/-! ### Sprites without blank values -/

/-- Every field has values, and none of them is blank. -/
def IsClean (s : Sprite) : Prop :=
  ∀ field values, s.fields.get? field = some values →
    values ≠ [] ∧ ∀ v ∈ values, v.isBlank = false

theorem isClean_iff_within : s.IsClean ↔ s.Within (fun _ => False) False := by
  constructor
  · intro h field values hget
    obtain ⟨hne, hblank⟩ := h field values hget
    refine ⟨hne, ?_⟩
    intro v hv hv'
    rw [hblank v hv] at hv'
    cases hv'
  · intro h field values hget
    obtain ⟨hne, hblank⟩ := h field values hget
    exact ⟨hne, fun v hv => Bool.eq_false_iff.mpr (hblank v hv)⟩

theorem IsClean.run (h : s.IsClean) (mutations : List Mutation) : (s.run mutations).IsClean :=
  isClean_iff_within.mpr ((isClean_iff_within.mp h).run mutations)

theorem isClean_empty : Sprite.empty.IsClean := by
  intro field values hget
  cases hget

theorem isOk_valueOf_iff : (s.valueOf field).isOk = true ↔ 0 < s.sizeOf field := by
  unfold valueOf first sizeOf
  cases s.valuesAt field <;> simp [Except.map, Except.isOk, Except.toBool]

namespace IsClean

theorem hasField_iff (h : s.IsClean) : s.hasField field = true ↔ 0 < s.sizeOf field := by
  unfold hasField NameMap.contains sizeOf valuesAt
  cases hget : s.fields.get? field with
  | none => simp
  | some values =>
    have hne : values ≠ [] := (h field values hget).1
    simp [List.length_pos_iff, hne]

theorem names_firsts (h : s.IsClean) :
    (s.fields.entries.filterMap fun e => e.2.head?.map (e.1, ·)).map (·.1) = s.fieldNames := by
  have hvalues : ∀ e ∈ s.fields.entries, e.2 ≠ [] := by
    intro e he
    exact (h e.1 e.2 (Entries.get?_of_mem s.fields.ordered he)).1
  unfold fieldNames NameMap.names
  generalize s.fields.entries = entries at hvalues
  induction entries with
  | nil => rfl
  | cons e entries ih =>
    obtain ⟨v, rest, hfirst⟩ := List.exists_cons_of_ne_nil (hvalues e List.mem_cons_self)
    have hhead : e.2.head?.map (e.1, ·) = some (e.1, v) := by rw [hfirst, List.head?_cons]; rfl
    rw [List.filterMap_cons, hhead, List.map_cons, List.map_cons,
      ih fun e he => hvalues e (List.mem_cons_of_mem _ he)]

/-- No field is lost where only first values are kept. -/
theorem names_asMap (h : s.IsClean) : s.asMap.names = s.fieldNames := by
  have hnames := h.names_firsts
  have hordered : Entries.Ordered
      (s.fields.entries.filterMap fun e => e.2.head?.map (e.1, ·)) := by
    have hpairwise := s.fields.pairwise_names
    change s.fieldNames.Pairwise (· < ·) at hpairwise
    rw [← hnames] at hpairwise
    exact List.pairwise_map.mp hpairwise
  change (Entries.ofList (s.fields.entries.filterMap fun e => e.2.head?.map (e.1, ·))).map (·.1) =
    s.fieldNames
  rw [Entries.ofList_of_ordered hordered, hnames]

end IsClean

theorem names_asTextMap (s : Sprite) : s.asTextMap.names = s.asMap.names := by
  unfold asTextMap NameMap.names NameMap.map
  rw [List.map_map]
  rfl

/-- Whatever is done to a sprite that begins empty, no field is without values and no value is null or
blank. So a field is there exactly if it has values and exactly if its first value can be read, and
the maps of first values have the fields of the sprite. -/
theorem isClean_run (mutations : List Mutation) :
    let s := Sprite.empty.run mutations
    s.IsClean ∧
      (∀ field, (s.hasField field = true ↔ 0 < s.sizeOf field) ∧
        (0 < s.sizeOf field ↔ (s.valueOf field).isOk = true)) ∧
      s.asMap.names = s.fieldNames ∧ s.asTextMap.names = s.fieldNames := by
  intro s
  have hclean : s.IsClean := isClean_empty.run mutations
  refine ⟨hclean, fun field => ⟨hclean.hasField_iff, isOk_valueOf_iff.symm⟩, ?_, ?_⟩
  · exact hclean.names_asMap
  · rw [names_asTextMap, hclean.names_asMap]

end Causeway.Sprite
