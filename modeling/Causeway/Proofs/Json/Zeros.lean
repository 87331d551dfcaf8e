import Causeway.Json.Text
import Causeway.Proofs.Number.Zero

/-!
# The zeros in equal JSON values

Equal JSON values can differ in one thing only, the signs of their zeros, and these show both in
`zeroSigns` and in the text. So equal values with the same signs, or with the same text, are one
value (`toldFrom_of_same`).
-/

namespace Causeway

/-- Whatever follows them, `u` and `v` end at the same place if they go on alike, and then `p`. -/
def Delimited {γ : Type} (u v : List γ) (p : Prop) : Prop := ∀ r s, u ++ r = v ++ s → p ∧ r = s

namespace Delimited

variable {γ : Type} {u v u' v' : List γ} {p q : Prop}

theorem refl (u : List γ) (hp : p) : Delimited u u p :=
  fun _ _ h => ⟨hp, List.append_cancel_left h⟩

theorem append (h : Delimited u v p) (h' : Delimited u' v' q) :
    Delimited (u ++ u') (v ++ v') (p ∧ q) := by
  intro r s happ
  rw [List.append_assoc, List.append_assoc] at happ
  obtain ⟨hp, hrest⟩ := h _ _ happ
  obtain ⟨hq, hrest⟩ := h' _ _ hrest
  exact ⟨⟨hp, hq⟩, hrest⟩

theorem cons (x y : γ) (h : Delimited u v p) : Delimited (x :: u) (y :: v) p :=
  fun _ _ happ => h _ _ (List.cons.inj happ).2

theorem imp (h : Delimited u v p) (hpq : p → q) : Delimited u v q :=
  fun r s happ => (h r s happ).imp_left hpq

theorem of_eq (h : Delimited u v p) (heq : u = v) : p := (h [] [] (by rw [heq])).1

end Delimited

namespace Json

mutual

/-- The signs of the zeros among the reals, in order. -/
def zeroSigns : Json → List Bool
  | .real d => d.zeroSign?.toList
  | .array items => itemZeroSigns items
  | .object members => memberZeroSigns members
  | _ => []

def itemZeroSigns : List Json → List Bool
  | [] => []
  | x :: r => zeroSigns x ++ itemZeroSigns r

def memberZeroSigns : List (String × Json) → List Bool
  | [] => []
  | (_, x) :: r => zeroSigns x ++ memberZeroSigns r

end

theorem delimited_zeroSigns_real {a b : Number.Double} (h : a.sameNumber b = true) :
    Delimited a.zeroSign?.toList b.zeroSign?.toList (a = b) := by
  obtain rfl | ⟨m, n, rfl, rfl⟩ := Number.Double.eq_or_zeros_of_sameNumber h
  · exact .refl _ rfl
  · intro r s happ
    rw [Number.Double.zeroSign?_zero, Number.Double.zeroSign?_zero] at happ
    obtain ⟨rfl, hrest⟩ := List.cons.inj happ
    exact ⟨rfl, hrest⟩

/-- The texts of two zeros part at the sign. -/
theorem delimited_jsonText {a b : Number.Double} (h : a.sameNumber b = true) :
    Delimited a.jsonText.toList b.jsonText.toList (a = b) := by
  obtain rfl | ⟨m, n, rfl, rfl⟩ := Number.Double.eq_or_zeros_of_sameNumber h
  · exact .refl _ rfl
  · intro r s happ
    rw [Number.Double.jsonText_zero, Number.Double.jsonText_zero] at happ
    cases m <;> cases n <;> simp at happ ⊢ <;> exact happ

/-- The signs of the zeros tell a value from an equal one, and so does the text. -/
def ToldFrom (a b : Json) : Prop :=
  Delimited a.zeroSigns b.zeroSigns (a = b) ∧ Delimited a.chars b.chars (a = b)

theorem toldFrom_self (a : Json) : a.ToldFrom a := ⟨.refl _ rfl, .refl _ rfl⟩

mutual

theorem toldFrom_of_same (a b : Json) (h : a.same b = true) : a.ToldFrom b := by
  cases a with
  | null => cases b with
    | null => exact toldFrom_self _
    | _ => cases h
  | bool x => cases b with
    | bool y =>
      obtain rfl := eq_of_beq h
      exact toldFrom_self _
    | _ => cases h
  | integer i => cases b with
    | integer j =>
      obtain rfl := eq_of_beq h
      exact toldFrom_self _
    | _ => cases h
  | real x => cases b with
    | real y =>
      exact ⟨(delimited_zeroSigns_real h).imp (congrArg Json.real),
        (delimited_jsonText h).imp (congrArg Json.real)⟩
    | _ => cases h
  | string x => cases b with
    | string y =>
      obtain rfl := eq_of_beq h
      exact toldFrom_self _
    | _ => cases h
  | array x => cases b with
    | array y =>
      obtain ⟨hsigns, hchars⟩ := delimited_items x y h
      exact ⟨hsigns.imp (congrArg Json.array), (hchars.cons _ _).imp (congrArg Json.array)⟩
    | _ => cases h
  | object x => cases b with
    | object y =>
      obtain ⟨hsigns, hchars⟩ := delimited_members x y h
      exact ⟨hsigns.imp (congrArg Json.object), (hchars.cons _ _).imp (congrArg Json.object)⟩
    | _ => cases h

theorem delimited_items (as bs : List Json) (h : sameItems as bs = true) :
    Delimited (itemZeroSigns as) (itemZeroSigns bs) (as = bs) ∧
      Delimited (itemChars as) (itemChars bs) (as = bs) := by
  cases as with
  | nil => cases bs with
    | nil => exact ⟨.refl _ rfl, .refl _ rfl⟩
    | cons b bs => cases h
  | cons a as => cases bs with
    | nil => cases h
    | cons b bs =>
      obtain ⟨hfirst, hrest⟩ := Bool.and_eq_true_iff.mp h
      obtain ⟨hsigns, hchars⟩ := toldFrom_of_same a b hfirst
      obtain ⟨hrestSigns, hrestChars⟩ := delimited_items as bs hrest
      have hboth : a = b ∧ as = bs → a :: as = b :: bs := fun heq => by rw [heq.1, heq.2]
      refine ⟨(hsigns.append hrestSigns).imp hboth, ?_⟩
      -- the last item is followed by the bracket, every other one by a comma
      cases as with
      | nil => cases bs with
        | nil => exact (hchars.append (.refl _ rfl)).imp hboth
        | cons => cases hrest
      | cons => cases bs with
        | nil => cases hrest
        | cons => exact (hchars.append (hrestChars.cons _ _)).imp hboth

theorem delimited_members (as bs : List (String × Json)) (h : sameMembers as bs = true) :
    Delimited (memberZeroSigns as) (memberZeroSigns bs) (as = bs) ∧
      Delimited (memberChars as) (memberChars bs) (as = bs) := by
  cases as with
  | nil => cases bs with
    | nil => exact ⟨.refl _ rfl, .refl _ rfl⟩
    | cons b bs => cases h
  | cons a as => cases bs with
    | nil => cases h
    | cons b bs =>
      obtain ⟨n, x⟩ := a
      obtain ⟨m, y⟩ := b
      obtain ⟨hentry, hrest⟩ := Bool.and_eq_true_iff.mp h
      obtain ⟨hname, hfirst⟩ := Bool.and_eq_true_iff.mp hentry
      obtain rfl : n = m := eq_of_beq hname
      obtain ⟨hsigns, hchars⟩ := toldFrom_of_same x y hfirst
      obtain ⟨hrestSigns, hrestChars⟩ := delimited_members as bs hrest
      have hboth : x = y ∧ as = bs → (n, x) :: as = (n, y) :: bs := fun heq => by rw [heq.1, heq.2]
      have hnamed : ∀ {u v : List Char} {p : Prop}, Delimited u v p →
          Delimited (quote n ++ ':' :: u) (quote n ++ ':' :: v) p :=
        fun hmember => ((Delimited.refl (quote n) trivial).append (hmember.cons ':' ':')).imp And.right
      refine ⟨(hsigns.append hrestSigns).imp hboth, ?_⟩
      cases as with
      | nil => cases bs with
        | nil =>
          have hlast := hnamed ((hchars.append (.refl ['\x7d'] rfl)).imp hboth)
          simpa [memberChars] using hlast
        | cons => cases hrest
      | cons => cases bs with
        | nil => cases hrest
        | cons =>
          have hmember := hnamed ((hchars.append (hrestChars.cons ',' ',')).imp hboth)
          simpa [memberChars] using hmember

end

end Json

end Causeway
