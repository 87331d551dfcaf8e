import Causeway.Proofs.Sprite.Fields
import Causeway.Proofs.Text.Separated

/-!
# Splitting undoes joining

Splitting leaves the parts of the values at a field, and a part has no part but itself, so splitting once
more does nothing. Trimmed texts that share no character with a separator are the parts of what they are
joined to, so splitting that gives them back (`splitValues_joinValues`).
-/

namespace Causeway.Sprite

variable {s : Sprite} {field other separator : String} {values : List Value} {v : Value}

/-! ### Splitting -/

/-- The parts of a value's text between separators. -/
def parts (separator : String) (v : Value) : List Value :=
  (Text.parts separator.toList v.text.toList).map fun w => .string (String.ofList w)

theorem filled_pieces (separator : String) (v : Value) :
    filled (pieces separator v) = parts separator v := by
  unfold filled pieces parts Text.parts
  rw [List.filter_map, List.filter_map, List.map_map]
  congr 1
  refine List.filter_congr fun w _ => ?_
  change (!Text.isBlankText (String.ofList (Text.trim w))) = !(Text.trim w).isEmpty
  rw [Text.isBlankText, String.toList_ofList, (Text.trimmed_trim w).allBlank_eq]

theorem get?_splitValues (s : Sprite) (field separator other : String) :
    (s.splitValues field separator).fields.get? other =
      if other = field then stored ((s.valuesAt field).flatMap (parts separator))
      else s.fields.get? other := by
  have hfilled : filled ((s.valuesAt field).flatMap (pieces separator)) =
      (s.valuesAt field).flatMap (parts separator) :=
    (List.filter_flatMap).trans (List.flatMap_congr fun v _ => filled_pieces separator v)
  rw [splitValues, get?_pushAll_remove, hfilled]

theorem valuesAt_splitValues (s : Sprite) (field separator : String) :
    (s.splitValues field separator).valuesAt field =
      (s.valuesAt field).flatMap (parts separator) :=
  valuesAt_of_get?_eq_stored ((get?_splitValues s field separator field).trans (if_pos rfl))

/-- A text that is not blank and has no white space at its ends. -/
def IsTrimmedText (v : Value) : Prop :=
  ∃ text, v = .string text ∧ Text.isBlankText text = false ∧ Text.Trimmed text.toList

theorem isTrimmedText_of_mem_parts {w : Value} (h : w ∈ parts separator v) : IsTrimmedText w := by
  obtain ⟨l, hl, rfl⟩ := List.mem_map.mp h
  have htrimmed := Text.trimmed_of_mem_parts hl
  refine ⟨String.ofList l, rfl, ?_, ?_⟩
  · rw [Text.isBlankText, String.toList_ofList, htrimmed.allBlank_eq]
    simpa using (Text.mem_parts_iff.mp hl).1
  · rwa [String.toList_ofList]

theorem parts_of_mem_parts {w : Value} (h : w ∈ parts separator v) : parts separator w = [w] := by
  obtain ⟨l, hl, rfl⟩ := List.mem_map.mp h
  change (Text.parts separator.toList (String.ofList l).toList).map _ = _
  rw [String.toList_ofList, Text.parts_of_mem_parts hl]
  rfl

theorem splitValues_splitValues (s : Sprite) (field separator : String) :
    (s.splitValues field separator).splitValues field separator =
      s.splitValues field separator := by
  have hparts : ((s.valuesAt field).flatMap (parts separator)).flatMap (parts separator) =
      (s.valuesAt field).flatMap (parts separator) := by
    refine (List.flatMap_congr fun w hw => ?_).trans (List.flatMap_singleton' _)
    obtain ⟨v, -, hw⟩ := List.mem_flatMap.mp hw
    exact parts_of_mem_parts hw
  refine eq_of_get?_eq fun other => ?_
  rw [get?_splitValues, valuesAt_splitValues, hparts, get?_splitValues]
  split <;> rfl

/-! ### Joining -/

theorem joinText_separator (separator : String) (values : List Value) :
    joinText { separator } values = Text.joined separator (values.map Value.text) := by
  unfold joinText
  simp

theorem get?_joinValues (s : Sprite) (field separator other : String) :
    (s.joinValues field separator).fields.get? other =
      if other = field then
        stored (filled [.string (Text.joined separator (s.valuesOf field))])
      else s.fields.get? other := by
  unfold joinValues joinValuesOf valuesOf
  cases hfield : s.fields.get? field with
  | none =>
    rw [valuesAt, hfield]
    by_cases hother : other = field
    · rw [if_pos hother, hother, hfield]
      rfl
    · rw [if_neg hother]
  | some values =>
    rw [valuesAt_of_get? hfield, ← joinText_separator, ← get?_pushAll_remove, pushAll_singleton]

theorem valuesAt_joinValues (s : Sprite) (field separator : String) :
    (s.joinValues field separator).valuesAt field =
      filled [.string (Text.joined separator (s.valuesOf field))] :=
  valuesAt_of_get?_eq_stored ((get?_joinValues s field separator field).trans (if_pos rfl))

/-- Trimmed texts without a character of the separator are the parts of what they are joined to. -/
theorem parts_joined (hsep : separator ≠ "") (htexts : ∀ v ∈ values, IsTrimmedText v)
    (happart : ∀ v ∈ values, ∀ c ∈ v.text.toList, c ∉ separator.toList) :
    parts separator (.string (Text.joined separator (values.map Value.text))) = values := by
  have hsep : separator.toList ≠ [] := by simpa using hsep
  have hself : ∀ v ∈ values, Value.string (String.ofList v.text.toList) = v := by
    intro v hv
    obtain ⟨text, rfl, -⟩ := htexts v hv
    exact congrArg Value.string String.ofList_toList
  have hjoin : Text.parts separator.toList
      (Text.joinWith separator.toList ((values.map Value.text).map String.toList)) =
        (values.map Value.text).map String.toList := by
    refine Text.parts_joinWith hsep fun w hw => ?_
    rw [List.map_map] at hw
    obtain ⟨v, hv, rfl⟩ := List.mem_map.mp hw
    obtain ⟨text, rfl, hblank, htrimmed⟩ := htexts v hv
    rw [Text.isBlankText, htrimmed.allBlank_eq] at hblank
    exact ⟨List.isEmpty_eq_false_iff.mp hblank, htrimmed, happart _ hv⟩
  have htext : (Value.string (Text.joined separator (values.map Value.text))).text.toList =
      Text.joinWith separator.toList ((values.map Value.text).map String.toList) :=
    String.toList_ofList
  rw [parts, htext, hjoin, List.map_map, List.map_map]
  exact (List.map_congr_left hself).trans (List.map_id values)

theorem isBlankText_joined (separator : String) {l : List String} {text : String} (hl : text ∈ l)
    (htext : Text.isBlankText text = false) :
    Text.isBlankText (Text.joined separator l) = false := by
  obtain ⟨c, hc, hblank⟩ := List.all_eq_false.mp htext
  rw [Text.joined, Text.isBlankText, String.toList_ofList]
  have hmem : text.toList ∈ l.map String.toList := List.mem_map_of_mem hl
  exact List.all_eq_false.mpr ⟨c, Text.subset_joinWith _ hmem hc, hblank⟩

theorem valuesAt_splitValues_joinValues (hsep : separator ≠ "")
    (htexts : ∀ v ∈ s.valuesAt field, IsTrimmedText v)
    (happart : ∀ v ∈ s.valuesAt field, ∀ c ∈ v.text.toList, c ∉ separator.toList) :
    ((s.joinValues field separator).splitValues field separator).valuesAt field =
      s.valuesAt field := by
  rw [valuesAt_splitValues, valuesAt_joinValues]
  cases hvalues : s.valuesAt field with
  | nil =>
    rw [valuesOf, hvalues]
    rfl
  | cons v values =>
    have hblank : Text.isBlankText (Text.joined separator (s.valuesOf field)) = false := by
      have hv : v ∈ s.valuesAt field := hvalues ▸ List.mem_cons_self
      obtain ⟨text, rfl, htext, -⟩ := htexts v hv
      exact isBlankText_joined separator (List.mem_map_of_mem hv) htext
    have hfilled : filled [.string (Text.joined separator (s.valuesOf field))] =
        [.string (Text.joined separator (s.valuesOf field))] :=
      List.filter_cons_of_pos (by simp [Value.isBlank, hblank])
    rw [hfilled, List.flatMap_singleton, valuesOf, parts_joined hsep htexts happart, hvalues]

theorem get?_splitValues_joinValues (hsep : separator ≠ "")
    (htexts : ∀ v ∈ s.valuesAt field, IsTrimmedText v)
    (happart : ∀ v ∈ s.valuesAt field, ∀ c ∈ v.text.toList, c ∉ separator.toList) (other : String) :
    ((s.joinValues field separator).splitValues field separator).fields.get? other =
      if other = field then stored (s.valuesAt field) else s.fields.get? other := by
  rw [get?_splitValues, ← valuesAt_splitValues, get?_joinValues,
    valuesAt_splitValues_joinValues hsep htexts happart]
  split <;> rfl

/-- Joining the values of a field and splitting what they are joined to gives them back, if they are
trimmed texts that share no character with the separator, and changes no other field. Only a field that
was there without values is lost. Whatever is split, trimmed texts that are not blank are left, and
splitting them again does nothing. -/
theorem splitValues_joinValues (s : Sprite) (field separator : String) :
    (separator ≠ "" → (∀ v ∈ s.valuesAt field, IsTrimmedText v) →
      (∀ v ∈ s.valuesAt field, ∀ c ∈ v.text.toList, c ∉ separator.toList) →
        ((s.joinValues field separator).splitValues field separator).valuesAt field =
            s.valuesAt field ∧
          SameBeside field s ((s.joinValues field separator).splitValues field separator) ∧
          ((s.joinValues field separator).splitValues field separator = s ↔
            s.fields.get? field ≠ some [])) ∧
      (∀ v ∈ (s.splitValues field separator).valuesAt field, IsTrimmedText v) ∧
      (s.splitValues field separator).splitValues field separator =
        s.splitValues field separator := by
  refine ⟨fun hsep htexts happart => ?_, fun w hw => ?_, splitValues_splitValues s field separator⟩
  · have hget := get?_splitValues_joinValues hsep htexts happart
    refine ⟨valuesAt_splitValues_joinValues hsep htexts happart,
      fun other hother => (hget other).trans (if_neg hother), ?_⟩
    rw [← get?_eq_stored_iff]
    constructor
    · intro heq
      have hfield := hget field
      rwa [heq, if_pos rfl] at hfield
    · intro hfield
      refine eq_of_get?_eq fun other => ?_
      rw [hget]
      split
      · rename_i hother
        rw [hother, hfield]
      · rfl
  · rw [valuesAt_splitValues] at hw
    obtain ⟨v, -, hw⟩ := List.mem_flatMap.mp hw
    exact isTrimmedText_of_mem_parts hw

def colours : Sprite := Sprite.empty.load [("colour", .list [.string "red", .string "blue",
  .string "red"]), ("size", .int 3)]

theorem splitValues_joinValues_colours :
    ((colours.joinValues "colour" ", ").splitValues "colour" ", ") = colours := by
  have hvalues : colours.valuesAt "colour" = [.string "red", .string "blue", .string "red"] := rfl
  have htexts : ∀ v ∈ colours.valuesAt "colour", IsTrimmedText v := by
    rw [hvalues, List.forall_mem_cons, List.forall_mem_cons, List.forall_mem_singleton]
    exact ⟨⟨"red", rfl, rfl, Text.trimmed_of_all rfl⟩, ⟨"blue", rfl, rfl, Text.trimmed_of_all rfl⟩,
      ⟨"red", rfl, rfl, Text.trimmed_of_all rfl⟩⟩
  have happart : ∀ v ∈ colours.valuesAt "colour", ∀ c ∈ v.text.toList, c ∉ ", ".toList := by
    simp [hvalues, Value.text]
  have hthere : colours.fields.get? "colour" ≠ some [] := by
    intro hempty
    rw [valuesAt_of_get? hempty] at hvalues
    cases hvalues
  exact ((splitValues_joinValues colours "colour" ", ").1 (by decide) htexts happart).2.2.mpr hthere

end Causeway.Sprite
