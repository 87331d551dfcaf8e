import Causeway.Proofs.Document.Written
import Causeway.Sprite.Reader

/-!
# Sprites that documents give back

A sprite is written as an object of lists, which are its fields. Its values stand two levels down in the
document, and the sprite comes back exactly if each of them does (`ofText?_toJson_iff`).
-/

namespace Causeway.Sprite

open Json

variable {s : Sprite}

/-- Every value of every field is well-formed. -/
def WellFormed (s : Sprite) : Prop := ∀ e ∈ s.fields.entries, ∀ v ∈ e.2, v.WellFormed

theorem toJson_eq (s : Sprite) :
    s.toJson = s.fields.toJson fun values => .array (values.map Value.serialize) := by
  unfold toJson fieldsMap NameMap.toJson
  rw [Value.serialize, Value.serializeEntries_eq_map, List.map_map]
  refine congrArg Json.object (List.map_congr_left fun e _ => ?_)
  exact congrArg (fun items => (e.1, Json.array items)) (Value.serializeItems_eq_map e.2)

theorem isFinite_toJson (h : s.WellFormed) : ∀ x ∈ s.toJson.leaves, x.IsFinite := by
  refine Value.isFinite_serialize s.fieldsMap ⟨?_, ?_⟩
  · exact Entries.ordered_map s.fields.ordered fun _ values => Value.list values
  · rw [Value.entriesWellFormed_iff, List.forall_mem_map]
    exact fun e he => Value.itemsWellFormed_iff.mpr (h e he)

/-- A sprite comes back from its line exactly if each of its values does, two levels down. -/
theorem ofText?_toJson_iff (h : s.WellFormed) :
    ofText? s.toJson.text = some s ↔ ∀ e ∈ s.fields.entries, ∀ v ∈ e.2, v.Fits 125 := by
  have hdocument : ofText? s.toJson.text =
      (reading.mapOf (reading.listOf Node.value) ⟨125 + 1 + 1, s.toJson.written⟩).map (⟨·⟩) := by
    unfold ofText? readDocument
    rw [Written.read?_text (isFinite_toJson h)]
    rfl
  have hfields : ofText? s.toJson.text = some s ↔
      reading.mapOf (reading.listOf Node.value) ⟨125 + 1 + 1, s.toJson.written⟩ = some s.fields := by
    obtain ⟨fields⟩ := s
    rw [hdocument]
    cases reading.mapOf (reading.listOf Node.value) ⟨125 + 1 + 1, (Sprite.mk fields).toJson.written⟩ <;>
      simp
  rw [hfields, toJson_eq, mapOf_written_iff]
  refine forall₂_congr fun e he => ?_
  rw [listOf_written_iff]
  exact forall₂_congr fun v hv => Value.value_written_iff (h e he v hv)

end Causeway.Sprite
