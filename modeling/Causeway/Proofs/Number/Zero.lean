import Causeway.Number.Double

/-!
# The two zeros

Two numbers are equal only if their bits are or both are zero (`eq_or_zeros_of_sameNumber`). The sign
of a zero shows in its text.
-/

namespace Causeway.Number.Double

variable {a b d : Double} {negative : Bool}

def zeroSign? (d : Double) : Option Bool :=
  match d.view with
  | .finite negative v => if v.significand = 0 then some negative else none
  | _ => none

/-- Only a zero has no significand, since every other number is normal or has a fraction. -/
theorem eq_zero_of_significand {v : Magnitude} (hview : d.view = .finite negative v)
    (hzero : v.significand = 0) : d = zero negative := by
  have hbound : d.bits.toNat < 2 ^ 64 := d.bits.toNat_lt
  have hfraction : twoPow 52 = 4503599627370496 := rfl
  have hexponent : twoPow 11 = 2048 := rfl
  have hsign : signBit = 9223372036854775808 := rfl
  simp only [view, hfraction, hexponent, hsign] at hview
  split at hview
  · split at hview <;> cases hview
  · split at hview
    · obtain ⟨hnegative, rfl⟩ := FloatView.finite.inj hview
      dsimp only at hzero
      have hbits : d.bits.toNat = if negative then 9223372036854775808 else 0 := by
        rw [← hnegative]
        simp only [decide_eq_true_eq]
        split <;> omega
      have heq : d.bits = UInt64.ofNat (0 + if negative then signBit else 0) := by
        rw [Nat.zero_add, hsign, ← hbits, UInt64.ofNat_toNat]
      exact congrArg Double.mk heq
    · obtain ⟨-, rfl⟩ := FloatView.finite.inj hview
      dsimp only at hzero
      omega

theorem eq_or_zeros_of_sameNumber (h : a.sameNumber b = true) :
    a = b ∨ ∃ m n, a = zero m ∧ b = zero n := by
  unfold sameNumber at h
  split at h
  · cases h
  · cases h
  · rename_i m v n w hview hview'
    rcases Bool.or_eq_true_iff.mp h with heq | hzeros
    · exact .inl (eq_of_beq heq)
    · obtain ⟨hv, hw⟩ := Bool.and_eq_true_iff.mp hzeros
      exact .inr ⟨m, n, eq_zero_of_significand hview (eq_of_beq hv),
        eq_zero_of_significand hview' (eq_of_beq hw)⟩
  · exact .inl (eq_of_beq h)

theorem zeroSign?_zero (negative : Bool) : (zero negative).zeroSign? = some negative := by
  cases negative <;> rfl

theorem jsonText_zero (negative : Bool) :
    (zero negative).jsonText.toList = (if negative then ['-'] else []) ++ ['0', '.', '0'] := by
  cases negative <;> rfl

end Causeway.Number.Double
