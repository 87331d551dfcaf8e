import Causeway.Proofs.Json.Zeros
import Causeway.Sprite.Basic

/-!
# What equal values feed to a hash function

Equal values, and equal sprites, feed a hash function the same input exactly if the zeros in their raw
payloads have the same signs (`hashInputs_eq_iff_rawZeroSigns_eq`): payloads are equal as numbers are,
and hashed as the text that they have. A hashed set compares a new member only with those of its hash,
so equal members of one set differ in such a sign.
-/

namespace Causeway

namespace Value

mutual

/-- The signs of the zeros in raw payloads, in order. -/
def rawZeroSigns : Value → List Bool
  | .list items => itemRawZeroSigns items
  | .map entries => entryRawZeroSigns entries
  | .raw j => j.zeroSigns
  | _ => []

def itemRawZeroSigns : List Value → List Bool
  | [] => []
  | v :: r => rawZeroSigns v ++ itemRawZeroSigns r

def entryRawZeroSigns : List (String × Value) → List Bool
  | [] => []
  | (_, v) :: r => rawZeroSigns v ++ entryRawZeroSigns r

end

/-- The signs of zeros in payloads tell a value from an equal one, and so does the input to a hash. -/
def ToldFrom (a b : Value) : Prop :=
  Delimited a.rawZeroSigns b.rawZeroSigns (a = b) ∧ Delimited a.hashInputs b.hashInputs (a = b)

theorem toldFrom_self (a : Value) : a.ToldFrom a := ⟨.refl _ rfl, .refl _ rfl⟩

theorem toldFrom_raw {i j : Json} (h : i.same j = true) : (raw i).ToldFrom (raw j) := by
  obtain ⟨hsigns, hchars⟩ := Json.toldFrom_of_same i j h
  refine ⟨hsigns.imp (congrArg raw), Delimited.cons _ _ ?_⟩
  intro r s happ
  obtain ⟨htext, hrest⟩ := List.cons.inj happ
  have hchar : i.chars = j.chars := String.ofList_injective (HashInput.text.inj htext)
  exact ⟨congrArg raw (hchars.of_eq hchar), hrest⟩

mutual

theorem toldFrom_of_same (a b : Value) (h : a.same b = true) : a.ToldFrom b := by
  cases a with
  | null => cases b with
    | null => exact toldFrom_self _
    | _ => cases h
  | bool x => cases b with
    | bool y =>
      obtain rfl := eq_of_beq h
      exact toldFrom_self _
    | _ => cases h
  | int x => cases b with
    | int y =>
      obtain rfl := eq_of_beq h
      exact toldFrom_self _
    | _ => cases h
  | float x => cases b with
    | float y =>
      obtain rfl := eq_of_beq h
      exact toldFrom_self _
    | _ => cases h
  | string x => cases b with
    | string y =>
      obtain rfl := eq_of_beq h
      exact toldFrom_self _
    | _ => cases h
  | date x => cases b with
    | date y =>
      obtain rfl := eq_of_beq h
      exact toldFrom_self _
    | _ => cases h
  | list x => cases b with
    | list y =>
      obtain ⟨hsigns, hinputs⟩ := delimited_items x y h
      exact ⟨hsigns.imp (congrArg list), ((hinputs.cons _ _).cons _ _).imp (congrArg list)⟩
    | _ => cases h
  | map x => cases b with
    | map y =>
      obtain ⟨hsigns, hinputs⟩ := delimited_entries x y h
      exact ⟨hsigns.imp (congrArg map), ((hinputs.cons _ _).cons _ _).imp (congrArg map)⟩
    | _ => cases h
  | raw x => cases b with
    | raw y => exact toldFrom_raw h
    | _ => cases h

theorem delimited_items (as bs : List Value) (h : sameItems as bs = true) :
    Delimited (itemRawZeroSigns as) (itemRawZeroSigns bs) (as = bs) ∧
      Delimited (itemHashInputs as) (itemHashInputs bs) (as = bs) := by
  cases as with
  | nil => cases bs with
    | nil => exact ⟨.refl _ rfl, .refl _ rfl⟩
    | cons b bs => cases h
  | cons a as => cases bs with
    | nil => cases h
    | cons b bs =>
      obtain ⟨hfirst, hrest⟩ := Bool.and_eq_true_iff.mp h
      obtain ⟨hsigns, hinputs⟩ := toldFrom_of_same a b hfirst
      obtain ⟨hrestSigns, hrestInputs⟩ := delimited_items as bs hrest
      have hboth : a = b ∧ as = bs → a :: as = b :: bs := fun heq => by rw [heq.1, heq.2]
      exact ⟨(hsigns.append hrestSigns).imp hboth, (hinputs.append hrestInputs).imp hboth⟩

theorem delimited_entries (as bs : List (String × Value)) (h : sameEntries as bs = true) :
    Delimited (entryRawZeroSigns as) (entryRawZeroSigns bs) (as = bs) ∧
      Delimited (entryHashInputs as) (entryHashInputs bs) (as = bs) := by
  cases as with
  | nil => cases bs with
    | nil => exact ⟨.refl _ rfl, .refl _ rfl⟩
    | cons b bs => cases h
  | cons a as => cases bs with
    | nil => cases h
    | cons b bs =>
      obtain ⟨n, x⟩ := a
      obtain ⟨m, y⟩ := b
      obtain ⟨hentry, hrest⟩ := Bool.and_eq_true_iff.mp h
      obtain ⟨hname, hfirst⟩ := Bool.and_eq_true_iff.mp hentry
      obtain rfl : n = m := eq_of_beq hname
      obtain ⟨hsigns, hinputs⟩ := toldFrom_of_same x y hfirst
      obtain ⟨hrestSigns, hrestInputs⟩ := delimited_entries as bs hrest
      have hboth : x = y ∧ as = bs → (n, x) :: as = (n, y) :: bs := fun heq => by rw [heq.1, heq.2]
      exact ⟨(hsigns.append hrestSigns).imp hboth,
        ((hinputs.append hrestInputs).imp hboth).cons _ _⟩

end

/-- Two ways to tell a value from an equal one tell it apart together. -/
theorem hashInputs_eq_iff {a b : Value} (h : a.same b = true) :
    a.hashInputs = b.hashInputs ↔ a.rawZeroSigns = b.rawZeroSigns := by
  obtain ⟨hsigns, hinputs⟩ := toldFrom_of_same a b h
  constructor
  · intro heq
    rw [hinputs.of_eq heq]
  · intro heq
    rw [hsigns.of_eq heq]

end Value

namespace Sprite

def rawZeroSigns (s : Sprite) : List Bool :=
  s.fields.entries.flatMap fun e => Value.itemRawZeroSigns e.2

theorem delimited_fields (as bs : List (String × List Value)) (h : same.go as bs = true) :
    Delimited (as.flatMap fun e => Value.itemRawZeroSigns e.2)
        (bs.flatMap fun e => Value.itemRawZeroSigns e.2) (as = bs) ∧
      Delimited (as.flatMap fun e => .text e.1 :: .size e.2.length :: Value.itemHashInputs e.2)
        (bs.flatMap fun e => .text e.1 :: .size e.2.length :: Value.itemHashInputs e.2)
        (as = bs) := by
  induction as generalizing bs with
  | nil => cases bs with
    | nil => exact ⟨.refl _ rfl, .refl _ rfl⟩
    | cons b bs => cases h
  | cons a as ih => cases bs with
    | nil => cases h
    | cons b bs =>
      obtain ⟨n, x⟩ := a
      obtain ⟨m, y⟩ := b
      obtain ⟨hentry, hrest⟩ := Bool.and_eq_true_iff.mp h
      obtain ⟨hname, hfirst⟩ := Bool.and_eq_true_iff.mp hentry
      obtain rfl : n = m := eq_of_beq hname
      obtain ⟨hsigns, hinputs⟩ := Value.delimited_items x y hfirst
      obtain ⟨hrestSigns, hrestInputs⟩ := ih bs hrest
      have hboth : x = y ∧ as = bs → (n, x) :: as = (n, y) :: bs := fun heq => by rw [heq.1, heq.2]
      rw [List.flatMap_cons, List.flatMap_cons, List.flatMap_cons, List.flatMap_cons]
      exact ⟨(hsigns.append hrestSigns).imp hboth,
        (((hinputs.cons _ _).cons _ _).append hrestInputs).imp hboth⟩

theorem hashInputs_eq_iff {s t : Sprite} (h : s.same t = true) :
    s.hashInputs = t.hashInputs ↔ s.rawZeroSigns = t.rawZeroSigns := by
  obtain ⟨hsigns, hinputs⟩ := delimited_fields _ _ h
  unfold hashInputs rawZeroSigns
  constructor
  · intro heq
    rw [hinputs.of_eq (List.cons.inj heq).2]
  · intro heq
    rw [hsigns.of_eq heq]

end Sprite

/-! ### Hashed sets -/

section HashedSet

variable {α : Type}

/-- Puts a member into a hashed set, unless an equal one of its hash is there. -/
def insertHashed (same : α → α → Bool) (hash : α → UInt64) (members : List α) (x : α) : List α :=
  if members.any fun y => hash y == hash x && same y x then members else members ++ [x]

/-- The members of a hashed set into which elements are put one after the other. -/
def hashedSet (same : α → α → Bool) (hash : α → UInt64) (elements : List α) : List α :=
  elements.foldl (insertHashed same hash) []

/-- Equal elements that hash alike are never both members. -/
theorem pairwise_hashedSet {same : α → α → Bool} {hash : α → UInt64} {alike : α → α → Prop}
    (halike : ∀ x y, same x y = true → alike x y → hash x = hash y) (elements : List α) :
    (hashedSet same hash elements).Pairwise fun x y => same x y = true → ¬alike x y := by
  have hkeeps : ∀ (members : List α) (x : α),
      members.Pairwise (fun x y => same x y = true → ¬alike x y) →
      (insertHashed same hash members x).Pairwise fun x y => same x y = true → ¬alike x y := by
    intro members x hmembers
    unfold insertHashed
    split
    · exact hmembers
    · rename_i hfresh
      refine List.pairwise_append.mpr ⟨hmembers, List.pairwise_singleton _ _, ?_⟩
      intro y hy z hz hsame hyz
      obtain rfl := List.mem_singleton.mp hz
      refine hfresh (List.any_eq_true.mpr ⟨y, hy, ?_⟩)
      rw [halike y z hsame hyz, hsame, beq_self_eq_true]
      rfl
  have hfold : ∀ members : List α, members.Pairwise (fun x y => same x y = true → ¬alike x y) →
      (elements.foldl (insertHashed same hash) members).Pairwise
        fun x y => same x y = true → ¬alike x y := by
    induction elements with
    | nil => exact fun members h => h
    | cons x elements ih => exact fun members h => ih _ (hkeeps members x h)
  exact hfold [] .nil

end HashedSet

/-- Equal values hash alike exactly if the zeros in their raw payloads have the same signs, and so do
equal sprites. Members of a hashed set that are equal all the same differ in such a sign. -/
theorem hashInputs_eq_iff_rawZeroSigns_eq (a b : Value) (s t : Sprite)
    (digest : List Value.HashInput → UInt64) (values : List Value) (sprites : List Sprite) :
    ((a == b) = true → (a.hashInputs = b.hashInputs ↔ a.rawZeroSigns = b.rawZeroSigns)) ∧
      (s.same t = true → (s.hashInputs = t.hashInputs ↔ s.rawZeroSigns = t.rawZeroSigns)) ∧
      ((hashedSet (· == ·) (fun v => digest v.hashInputs) values).Pairwise fun a b =>
        (a == b) = true → a.rawZeroSigns ≠ b.rawZeroSigns) ∧
      (hashedSet Sprite.same (fun s => digest s.hashInputs) sprites).Pairwise fun s t =>
        s.same t = true → s.rawZeroSigns ≠ t.rawZeroSigns := by
  refine ⟨Value.hashInputs_eq_iff, Sprite.hashInputs_eq_iff, ?_, ?_⟩
  · apply pairwise_hashedSet
    intro a b hsame hsigns
    exact congrArg digest ((Value.hashInputs_eq_iff hsame).mpr hsigns)
  · apply pairwise_hashedSet
    intro s t hsame hsigns
    exact congrArg digest ((Sprite.hashInputs_eq_iff hsame).mpr hsigns)

/-- The two zeros are equal payloads with different texts, and both get into a hashed set under a hash
that tells the texts apart. -/
theorem zeros_equal_not_hashed_alike :
    let plus : Value := .raw (.real (.zero false))
    let minus : Value := .raw (.real (.zero true))
    (plus == minus) = true ∧ plus.hashInputs ≠ minus.hashInputs ∧
      ∃ digest : List Value.HashInput → UInt64,
        hashedSet (· == ·) (fun v => digest v.hashInputs) [plus, minus] = [plus, minus] := by
  have hequal : (Value.raw (.real (.zero false)) == .raw (.real (.zero true))) = true := rfl
  have hplus : (Value.raw (.real (.zero false))).hashInputs = [.variant 8, .text "0.0"] := rfl
  have hminus : (Value.raw (.real (.zero true))).hashInputs = [.variant 8, .text "-0.0"] := rfl
  have hdiffer : (Value.raw (.real (.zero false))).hashInputs ≠
      (Value.raw (.real (.zero true))).hashInputs := by
    rw [hplus, hminus]
    decide
  refine ⟨hequal, hdiffer, fun inputs => if inputs = [.variant 8, .text "0.0"] then 0 else 1, ?_⟩
  simp only [hashedSet, List.foldl_cons, List.foldl_nil, insertHashed, hplus, hminus]
  rfl

end Causeway
