import Causeway.Proofs.Value.Reading

/-!
# Values and JSON, there and back

What conversion keeps is decided leaf by leaf. A JSON value comes back from the value made of it
exactly if its integers have 64 bits with a sign, a value comes back from its JSON exactly if it holds
neither dates nor raw payloads nor floats that are no numbers, and the two ways to write a value as
JSON agree exactly where it holds no date (`conversions_lossless`).
-/

namespace Causeway

open Number Time

namespace Json

mutual

/-- The parts that have no parts themselves, from left to right. -/
def leaves : Json → List Json
  | .array items => itemLeaves items
  | .object members => memberLeaves members
  | scalar => [scalar]

def itemLeaves : List Json → List Json
  | [] => []
  | x :: r => leaves x ++ itemLeaves r

def memberLeaves : List (String × Json) → List Json
  | [] => []
  | (_, x) :: r => leaves x ++ memberLeaves r

end

/-- JSON has no infinite numbers and no NaN. -/
def IsFinite : Json → Prop
  | .real d => d.isFinite = true
  | _ => True

def FitsInt64 : Json → Prop
  | .integer i => Int64.minValue.toInt ≤ i ∧ i ≤ Int64.maxValue.toInt
  | _ => True

/-! ### Documents hold finite numbers only -/

theorem isFinite_of_numberOf {whole : Bool} {d : Decimal} {x : Json}
    (h : numberOf whole d = some x) : ∀ y ∈ x.leaves, y.IsFinite := by
  dsimp only [numberOf] at h
  generalize (if d.negative = true then -(d.coefficient : Int) else d.coefficient) = i at h
  split at h
  · obtain rfl := Option.some.inj h
    exact List.forall_mem_singleton.mpr trivial
  · split at h
    · rename_i hfinite
      obtain rfl := Option.some.inj h
      exact List.forall_mem_singleton.mpr hfinite
    · cases h

theorem mem_memberLeaves {members : List (String × Json)} {y : Json} :
    y ∈ memberLeaves members ↔ ∃ e ∈ members, y ∈ e.2.leaves := by
  induction members with
  | nil => simp [memberLeaves]
  | cons e members ih => simp [memberLeaves, ih]

theorem mem_of_mem_ofList {α : Type} {members : List (String × α)} {e : String × α}
    (h : e ∈ Entries.ofList members) : e ∈ members := by
  have hfold : ∀ kept : List (String × α),
      e ∈ members.foldl (fun m e => Entries.insert e.1 e.2 m) kept → e ∈ kept ∨ e ∈ members := by
    clear h
    induction members with
    | nil => exact fun kept hmem => .inl hmem
    | cons first members ih =>
      intro kept hmem
      rcases ih _ hmem with hkept | hmembers
      · rcases Entries.mem_insert hkept with rfl | hkept
        · exact .inr List.mem_cons_self
        · exact .inl hkept
      · exact .inr (List.mem_cons_of_mem _ hmembers)
  exact (hfold [] h).resolve_left List.not_mem_nil

mutual

theorem isFinite_of_ofWritten {depth : Nat} {w : Written} {x : Json}
    (h : ofWritten depth w = some x) : ∀ y ∈ x.leaves, y.IsFinite := by
  cases w with
  | null =>
    obtain rfl := Option.some.inj h
    exact List.forall_mem_singleton.mpr trivial
  | bool b =>
    obtain rfl := Option.some.inj h
    exact List.forall_mem_singleton.mpr trivial
  | number whole d => exact isFinite_of_numberOf h
  | string s =>
    obtain ⟨s, -, rfl⟩ := Option.map_eq_some_iff.mp h
    exact List.forall_mem_singleton.mpr trivial
  | array items =>
    cases depth with
    | zero => cases h
    | succ depth =>
      obtain ⟨xs, hxs, rfl⟩ := Option.map_eq_some_iff.mp h
      exact isFinite_of_itemsOfWritten hxs
  | object members =>
    cases depth with
    | zero => cases h
    | succ depth =>
      obtain ⟨xs, hxs, rfl⟩ := Option.map_eq_some_iff.mp h
      intro y hy
      obtain ⟨e, he, hy⟩ := mem_memberLeaves.mp hy
      have hmem : y ∈ memberLeaves xs := mem_memberLeaves.mpr ⟨e, mem_of_mem_ofList he, hy⟩
      exact isFinite_of_membersOfWritten hxs y hmem

theorem isFinite_of_itemsOfWritten {depth : Nat} {items : List Written} {xs : List Json}
    (h : itemsOfWritten depth items = some xs) : ∀ y ∈ itemLeaves xs, y.IsFinite := by
  cases items with
  | nil =>
    obtain rfl := Option.some.inj h
    exact fun y hy => absurd hy List.not_mem_nil
  | cons w r =>
    obtain ⟨x, hx, h⟩ := Option.bind_eq_some_iff.mp h
    obtain ⟨rest, hrest, h⟩ := Option.bind_eq_some_iff.mp h
    obtain rfl := Option.some.inj h
    exact List.forall_mem_append.mpr ⟨isFinite_of_ofWritten hx, isFinite_of_itemsOfWritten hrest⟩

theorem isFinite_of_membersOfWritten {depth : Nat} {members : List (Option String × Written)}
    {xs : List (String × Json)} (h : membersOfWritten depth members = some xs) :
    ∀ y ∈ memberLeaves xs, y.IsFinite := by
  cases members with
  | nil =>
    obtain rfl := Option.some.inj h
    exact fun y hy => absurd hy List.not_mem_nil
  | cons e r =>
    obtain ⟨n, w⟩ := e
    obtain ⟨n, -, h⟩ := Option.bind_eq_some_iff.mp h
    obtain ⟨x, hx, h⟩ := Option.bind_eq_some_iff.mp h
    obtain ⟨rest, hrest, h⟩ := Option.bind_eq_some_iff.mp h
    obtain rfl := Option.some.inj h
    exact List.forall_mem_append.mpr ⟨isFinite_of_ofWritten hx, isFinite_of_membersOfWritten hrest⟩

end

theorem isFinite_of_read? {text : String} {j : Json} (h : read? text = some j) :
    ∀ x ∈ j.leaves, x.IsFinite := by
  obtain ⟨w, -, hw⟩ := Option.bind_eq_some_iff.mp h
  exact isFinite_of_ofWritten hw

end Json

namespace Value

open Json

mutual

/-- The parts that have no parts themselves; a raw payload is one of them. -/
def leaves : Value → List Value
  | .list items => itemLeaves items
  | .map entries => entryLeaves entries
  | scalar => [scalar]

def itemLeaves : List Value → List Value
  | [] => []
  | v :: r => leaves v ++ itemLeaves r

def entryLeaves : List (String × Value) → List Value
  | [] => []
  | (_, v) :: r => leaves v ++ entryLeaves r

end

/-- A scalar for which JSON has a form of its own. -/
def IsPlain : Value → Prop
  | .float d => d.isFinite = true
  | .date _ => False
  | .raw _ => False
  | _ => True

def IsDate : Value → Prop
  | .date _ => True
  | _ => False

/-! ### Leaves -/

theorem int64?_eq_some_iff {i : Int} {n : Int64} : int64? i = some n ↔ i = n.toInt := by
  unfold int64?
  by_cases hfits : Int64.minValue.toInt ≤ i ∧ i ≤ Int64.maxValue.toInt
  · rw [if_pos hfits]
    have hlow : -2 ^ 63 ≤ i := hfits.1
    have hhigh : i < 2 ^ 63 := Int.lt_of_le_sub_one hfits.2
    constructor
    · intro h
      rw [← Option.some.inj h, Int64.toInt_ofInt_of_le hlow hhigh]
    · rintro rfl
      exact congrArg some (Int64.ofInt_toInt n)
  · rw [if_neg hfits]
    constructor
    · intro h
      cases h
    · rintro rfl
      exact absurd ⟨n.minValue_le_toInt, n.toInt_le⟩ hfits

theorem ofInteger_eq_int_iff {i : Int} {n : Int64} : ofInteger i = .int n ↔ i = n.toInt := by
  rw [← int64?_eq_some_iff, ofInteger]
  cases int64? i <;> simp

/-- Beyond 64 bits an integer becomes a float, and stays one. -/
theorem toJson_ofInteger_iff {i : Int} :
    (ofInteger i).toJson = .integer i ↔ (Json.integer i).FitsInt64 := by
  constructor
  · intro h
    cases hvalue : ofInteger i with
    | int n =>
      rw [ofInteger_eq_int_iff] at hvalue
      rw [hvalue]
      exact ⟨n.minValue_le_toInt, n.toInt_le⟩
    | float d =>
      rw [hvalue] at h
      change Json.ofDouble d = .integer i at h
      unfold Json.ofDouble at h
      split at h <;> cases h
    | _ =>
      unfold ofInteger at hvalue
      split at hvalue <;> cases hvalue
  · rintro ⟨hlow, hhigh⟩
    have hkept : (Int64.ofInt i).toInt = i := Int64.toInt_ofInt_of_le hlow (Int.lt_of_le_sub_one hhigh)
    rw [ofInteger_eq_int_iff.mpr hkept.symm]
    exact congrArg Json.integer hkept

theorem ofDouble_eq_real_iff {d : Double} : Json.ofDouble d = .real d ↔ d.isFinite = true := by
  unfold Json.ofDouble
  by_cases hfinite : d.isFinite = true <;> simp [hfinite]

theorem ofJson_ofDouble_iff {d : Double} :
    ofJson (Json.ofDouble d) = .float d ↔ d.isFinite = true := by
  unfold Json.ofDouble
  by_cases hfinite : d.isFinite = true <;> simp [hfinite, ofJson]

theorem ofJson_ne_raw (j k : Json) : ofJson j ≠ .raw k := by
  intro h
  cases j with
  | integer i =>
    rw [ofJson, ofInteger] at h
    split at h <;> cases h
  | _ => cases h

/-- The text of a date shows how its offset is written. -/
theorem text_zulu_ne_numeric (i : Instant) : i.text .zulu ≠ i.text .numeric := by
  intro h
  have hchars : i.chars .zulu = i.chars .numeric := String.ofList_injective h
  unfold Instant.chars at hchars
  have hzone : Instant.zoneText .zulu = Instant.zoneText .numeric := List.append_cancel_left hchars
  exact absurd hzone (by decide)

/-! ### From the leaves to the whole -/

mutual

theorem toJson_ofJson_iff (j : Json) :
    (ofJson j).toJson = j ↔ ∀ x ∈ j.leaves, x.IsFinite ∧ x.FitsInt64 := by
  cases j with
  | null => simp [ofJson, toJson, Json.leaves, IsFinite, FitsInt64]
  | bool b => simp [ofJson, toJson, Json.leaves, IsFinite, FitsInt64]
  | integer i =>
    have hleaves : (Json.integer i).leaves = [.integer i] := rfl
    rw [ofJson, toJson_ofInteger_iff, hleaves, List.forall_mem_singleton]
    exact ⟨fun h => ⟨trivial, h⟩, fun h => h.2⟩
  | real d =>
    rw [ofJson, toJson, ofDouble_eq_real_iff]
    simp [Json.leaves, IsFinite, FitsInt64]
  | string s => simp [ofJson, toJson, Json.leaves, IsFinite, FitsInt64]
  | array items =>
    rw [ofJson, toJson, Json.array.injEq, Json.leaves]
    exact itemsToJson_itemsOfJson_iff items
  | object members =>
    rw [ofJson, toJson, Json.object.injEq, Json.leaves]
    exact entriesToJson_membersOfJson_iff members

theorem itemsToJson_itemsOfJson_iff (items : List Json) :
    itemsToJson (itemsOfJson items) = items ↔
      ∀ x ∈ Json.itemLeaves items, x.IsFinite ∧ x.FitsInt64 := by
  cases items with
  | nil => simp [itemsOfJson, itemsToJson, Json.itemLeaves]
  | cons x r =>
    rw [itemsOfJson, itemsToJson, List.cons.injEq, Json.itemLeaves, List.forall_mem_append,
      toJson_ofJson_iff x, itemsToJson_itemsOfJson_iff r]

theorem entriesToJson_membersOfJson_iff (members : List (String × Json)) :
    entriesToJson (membersOfJson members) = members ↔
      ∀ x ∈ Json.memberLeaves members, x.IsFinite ∧ x.FitsInt64 := by
  cases members with
  | nil => simp [membersOfJson, entriesToJson, Json.memberLeaves]
  | cons e r =>
    obtain ⟨n, x⟩ := e
    rw [membersOfJson, entriesToJson, List.cons.injEq, Prod.mk.injEq, eq_self_iff_true, true_and,
      Json.memberLeaves, List.forall_mem_append, toJson_ofJson_iff x,
      entriesToJson_membersOfJson_iff r]

end

mutual

theorem ofJson_toJson_iff (v : Value) : ofJson v.toJson = v ↔ ∀ x ∈ v.leaves, x.IsPlain := by
  cases v with
  | null => simp [ofJson, toJson, leaves, IsPlain]
  | bool b => simp [ofJson, toJson, leaves, IsPlain]
  | int n =>
    rw [toJson, ofJson, ofInteger_eq_int_iff]
    simp [leaves, IsPlain]
  | float d =>
    rw [toJson, ofJson_ofDouble_iff]
    simp [leaves, IsPlain]
  | string s => simp [ofJson, toJson, leaves, IsPlain]
  | date i => simp [ofJson, toJson, leaves, IsPlain]
  | list items =>
    rw [toJson, ofJson, Value.list.injEq, leaves]
    exact itemsOfJson_itemsToJson_iff items
  | map entries =>
    rw [toJson, ofJson, Value.map.injEq, leaves]
    exact membersOfJson_entriesToJson_iff entries
  | raw j => simp [toJson, ofJson_ne_raw, leaves, IsPlain]

theorem itemsOfJson_itemsToJson_iff (items : List Value) :
    itemsOfJson (itemsToJson items) = items ↔ ∀ x ∈ itemLeaves items, x.IsPlain := by
  cases items with
  | nil => simp [itemsOfJson, itemsToJson, itemLeaves]
  | cons v r =>
    rw [itemsToJson, itemsOfJson, List.cons.injEq, itemLeaves, List.forall_mem_append,
      ofJson_toJson_iff v, itemsOfJson_itemsToJson_iff r]

theorem membersOfJson_entriesToJson_iff (entries : List (String × Value)) :
    membersOfJson (entriesToJson entries) = entries ↔ ∀ x ∈ entryLeaves entries, x.IsPlain := by
  cases entries with
  | nil => simp [membersOfJson, entriesToJson, entryLeaves]
  | cons e r =>
    obtain ⟨n, v⟩ := e
    rw [entriesToJson, membersOfJson, List.cons.injEq, Prod.mk.injEq, eq_self_iff_true, true_and,
      entryLeaves, List.forall_mem_append, ofJson_toJson_iff v,
      membersOfJson_entriesToJson_iff r]

end

mutual

theorem serialize_eq_toJson_iff (v : Value) :
    v.serialize = v.toJson ↔ ∀ x ∈ v.leaves, ¬x.IsDate := by
  cases v with
  | date i =>
    have hne : (Value.date i).serialize ≠ (Value.date i).toJson := by
      rw [serialize, toJson]
      exact fun h => text_zulu_ne_numeric i (Json.string.inj h)
    simp [hne, leaves, IsDate]
  | list items =>
    rw [serialize, toJson, Json.array.injEq, leaves]
    exact serializeItems_eq_itemsToJson_iff items
  | map entries =>
    rw [serialize, toJson, Json.object.injEq, leaves]
    exact serializeEntries_eq_entriesToJson_iff entries
  | _ => simp [serialize, toJson, leaves, IsDate]

theorem serializeItems_eq_itemsToJson_iff (items : List Value) :
    serializeItems items = itemsToJson items ↔ ∀ x ∈ itemLeaves items, ¬x.IsDate := by
  cases items with
  | nil => simp [serializeItems, itemsToJson, itemLeaves]
  | cons v r =>
    rw [serializeItems, itemsToJson, List.cons.injEq, itemLeaves, List.forall_mem_append,
      serialize_eq_toJson_iff v, serializeItems_eq_itemsToJson_iff r]

theorem serializeEntries_eq_entriesToJson_iff (entries : List (String × Value)) :
    serializeEntries entries = entriesToJson entries ↔ ∀ x ∈ entryLeaves entries, ¬x.IsDate := by
  cases entries with
  | nil => simp [serializeEntries, entriesToJson, entryLeaves]
  | cons e r =>
    obtain ⟨n, v⟩ := e
    rw [serializeEntries, entriesToJson, List.cons.injEq, Prod.mk.injEq, eq_self_iff_true, true_and,
      entryLeaves, List.forall_mem_append, serialize_eq_toJson_iff v,
      serializeEntries_eq_entriesToJson_iff r]

end

/-- A JSON value is the JSON of its value exactly if its integers fit 64 bits with a sign; its reals
are finite, as those of every document are. A value is the value of its JSON exactly if its leaves are
plain, and is written into documents as its JSON exactly if none of them is a date. -/
theorem conversions_lossless (j : Json) (v : Value) :
    ((ofJson j).toJson = j ↔ ∀ x ∈ j.leaves, x.IsFinite ∧ x.FitsInt64) ∧
      (∀ text, Json.read? text = some j → ∀ x ∈ j.leaves, x.IsFinite) ∧
      (ofJson v.toJson = v ↔ ∀ x ∈ v.leaves, x.IsPlain) ∧
      (v.serialize = v.toJson ↔ ∀ x ∈ v.leaves, ¬x.IsDate) :=
  ⟨toJson_ofJson_iff j, fun _ => isFinite_of_read?, ofJson_toJson_iff v, serialize_eq_toJson_iff v⟩

end Value

end Causeway
