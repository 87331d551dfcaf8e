import Causeway.Document.Json

/-!
# Two ways to read a value

A value is read from a document by way of a JSON value, or by trying the variants on the document's
content. The two agree on every text (`ofJson_read?`): a content has one JSON value (`toJson`), and
the variant that is tried with success is the one that this JSON value is turned into.
-/

namespace Causeway

namespace Json.Content

theorem numberOf_cases (whole : Bool) (d : Number.Decimal) :
    numberOf whole d = none ∨ (∃ i, numberOf whole d = some (.integer i)) ∨
      ∃ x, numberOf whole d = some (.real x) := by
  dsimp only [numberOf]
  generalize (if d.negative = true then -(d.coefficient : Int) else d.coefficient) = i
  split
  · exact .inr (.inl ⟨_, rfl⟩)
  · split
    · exact .inr (.inr ⟨_, rfl⟩)
    · exact .inl rfl

theorem ofNumeral_toJson (whole : Bool) (d : Number.Decimal) :
    (ofNumeral whole d).map toJson = numberOf whole d := by
  unfold ofNumeral
  obtain hnone | ⟨i, hinteger⟩ | ⟨x, hreal⟩ := numberOf_cases whole d
  · rw [hnone]
    rfl
  · rw [hinteger]
    rfl
  · rw [hreal]
    rfl

mutual

/-- A JSON value is what its document holds, repeated names resolved. -/
theorem ofWritten_toJson (depth : Nat) (w : Written) :
    (ofWritten depth w).map toJson = Json.ofWritten depth w := by
  cases w with
  | null => rfl
  | bool b => rfl
  | number whole d => exact ofNumeral_toJson whole d
  | string s => cases s <;> rfl
  | array items =>
    cases depth with
    | zero => rfl
    | succ depth =>
      simp only [ofWritten, Json.ofWritten, ← itemsOfWritten_toJson depth items, Option.map_map]
      rfl
  | object members =>
    cases depth with
    | zero => rfl
    | succ depth =>
      simp only [ofWritten, Json.ofWritten, ← membersOfWritten_toJson depth members,
        Option.map_map]
      rfl

theorem itemsOfWritten_toJson (depth : Nat) (items : List Written) :
    (itemsOfWritten depth items).map itemsToJson = Json.itemsOfWritten depth items := by
  cases items with
  | nil => rfl
  | cons x r =>
    simp only [itemsOfWritten, Json.itemsOfWritten, ← ofWritten_toJson depth x,
      ← itemsOfWritten_toJson depth r]
    cases ofWritten depth x with
    | none => rfl
    | some c => cases itemsOfWritten depth r <;> rfl

theorem membersOfWritten_toJson (depth : Nat) (members : List (Option String × Written)) :
    (membersOfWritten depth members).map membersToJson = Json.membersOfWritten depth members := by
  cases members with
  | nil => rfl
  | cons e r =>
    obtain ⟨n, x⟩ := e
    simp only [membersOfWritten, Json.membersOfWritten, ← ofWritten_toJson depth x,
      ← membersOfWritten_toJson depth r]
    cases n with
    | none => rfl
    | some n =>
      cases ofWritten depth x with
      | none => rfl
      | some c => cases membersOfWritten depth r <;> rfl

end

end Json.Content

namespace Value

open Json

theorem itemsOfJson_eq_map (js : List Json) : itemsOfJson js = js.map ofJson := by
  induction js with
  | nil => rfl
  | cons j js ih => rw [itemsOfJson, ih, List.map_cons]

theorem membersOfJson_eq_map (members : List (String × Json)) :
    membersOfJson members = members.map fun e => (e.1, ofJson e.2) := by
  induction members with
  | nil => rfl
  | cons e r ih => rw [membersOfJson, ih, List.map_cons]

/-- Whether names are resolved before or after their values are turned is the same. -/
theorem membersOfJson_ofList (members : List (String × Json)) :
    membersOfJson (Entries.ofList members) = Entries.ofList (membersOfJson members) := by
  rw [membersOfJson_eq_map, membersOfJson_eq_map, Entries.map_ofList]

/-- An integer that fits is taken before it is tried as a float. -/
theorem scalar?_integer (i : Int) : scalar? (.integer i) = some (ofInteger i) := by
  unfold ofInteger
  cases hfits : int64? i with
  | some n =>
    have hint : asInteger? (.integer i) = some (.int n) := by rw [asInteger?, hfits, Option.map_some]
    simp only [scalar?, List.findSome?_cons, asNull?, asTruth?, hint]
  | none =>
    have hint : asInteger? (.integer i) = none := by rw [asInteger?, hfits, Option.map_none]
    simp only [scalar?, List.findSome?_cons, asNull?, asTruth?, hint, asFloat?]

theorem ofContent_of_scalar {c : Content} {v : Value} (h : scalar? c = some v) :
    ofContent c = some v := by
  unfold ofContent
  rw [h]
  rfl

mutual

/-- Some variant fits every content, and the first that does is the one of its JSON value. -/
theorem ofContent_eq (c : Content) : ofContent c = some (ofJson c.toJson) := by
  cases c with
  | null => exact ofContent_of_scalar rfl
  | bool b => exact ofContent_of_scalar rfl
  | integer i => exact ofContent_of_scalar (scalar?_integer i)
  | real d => exact ofContent_of_scalar rfl
  -- no text comes to be tried as a date
  | string s => exact ofContent_of_scalar rfl
  | array items =>
    unfold ofContent
    dsimp only
    rw [itemsOfContent_eq items]
    rfl
  | object members =>
    unfold ofContent
    dsimp only
    rw [membersOfContent_eq members, Content.toJson, obj, ofJson, membersOfJson_ofList]
    rfl

theorem itemsOfContent_eq (items : List Content) :
    itemsOfContent items = some (itemsOfJson (Content.itemsToJson items)) := by
  cases items with
  | nil => rfl
  | cons c r =>
    rw [itemsOfContent, ofContent_eq c, itemsOfContent_eq r]
    rfl

theorem membersOfContent_eq (members : List (String × Content)) :
    membersOfContent members = some (membersOfJson (Content.membersToJson members)) := by
  cases members with
  | nil => rfl
  | cons e r =>
    obtain ⟨n, c⟩ := e
    rw [membersOfContent, ofContent_eq c, membersOfContent_eq r]
    rfl

end

theorem node_value_eq (depth : Nat) (w : Written) :
    Node.value ⟨depth, w⟩ = (Json.ofWritten depth w).map ofJson := by
  rw [← Content.ofWritten_toJson, Option.map_map, Node.value]
  cases Content.ofWritten depth w with
  | none => rfl
  | some c => exact ofContent_eq c

/-- Reading a text as a JSON value and turning that into a value gives what reading the value
straight from the text gives: the same value, or nothing both times. -/
theorem ofJson_read? (text : String) :
    (Json.read? text).map ofJson = readDocument Node.value text := by
  have hread : ∀ w : Written, (Json.ofWritten depthLimit w).map ofJson =
      (Content.ofWritten depthLimit w).bind ofContent := by
    intro w
    rw [← Content.ofWritten_toJson depthLimit w, Option.map_map]
    cases Content.ofWritten depthLimit w with
    | none => rfl
    | some c => exact (ofContent_eq c).symm
  unfold Json.read? readDocument Node.value
  rw [Option.map_bind]
  exact congrArg (Option.bind _) (funext hread)

end Value

end Causeway
