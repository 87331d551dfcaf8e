import Causeway.Number.Decimal
import Causeway.Number.Layout

/-!
# Decimal digits

Natural numbers are written in digits (`isDigit_of_mem_toDigits`), and none but zero begins with a
zero (`decimalChars_of_head`). The digits of an integer are read back as it (`readInt_toString`).
-/

namespace Causeway.Number

variable {c : Char} {n : Nat}

theorem bounds_of_isDigit (hc : isDigit c = true) : 48 ≤ c.toNat ∧ c.toNat ≤ 57 := by
  obtain ⟨hlow, hhigh⟩ := Bool.and_eq_true_iff.mp hc
  exact ⟨of_decide_eq_true hlow, of_decide_eq_true hhigh⟩

theorem isDigit_of_mem_toDigits (hc : c ∈ Nat.toDigits 10 n) : isDigit c = true := by
  obtain ⟨hlow, hhigh⟩ := Char.isDigit_iff_toNat.mp
    (Nat.isDigit_of_mem_toDigits (by decide) (Nat.le_refl 10) hc)
  exact Bool.and_eq_true_iff.mpr ⟨decide_eq_true hlow, decide_eq_true hhigh⟩

theorem bounds_of_mem_toDigits (hc : c ∈ Nat.toDigits 10 n) : 48 ≤ c.toNat ∧ c.toNat ≤ 57 :=
  bounds_of_isDigit (isDigit_of_mem_toDigits hc)

theorem isDigit_of_mem_decimalChars : ∀ c ∈ decimalChars n, isDigit c = true :=
  fun _ => isDigit_of_mem_toDigits

theorem eq_zero_of_digitChar : ∀ n < 10, n.digitChar = '0' → n = 0 := by decide

theorem eq_zero_of_head_decimalChars (h : (decimalChars n).head? = some '0') : n = 0 := by
  unfold decimalChars at h
  induction n using Nat.strongRecOn with
  | ind n ih =>
    by_cases hsmall : n < 10
    · rw [Nat.toDigits_of_lt_base hsmall] at h
      exact eq_zero_of_digitChar n hsmall (Option.some.inj h)
    · -- the first digit is that of a tenth, which is not zero
      rw [Nat.toDigits_of_base_le (by decide) (Nat.le_of_not_lt hsmall), List.head?_append,
        Option.or_of_isSome (by simp [Nat.toDigits_ne_nil])] at h
      have htenth := ih (n / 10) (by omega) h
      omega

theorem decimalChars_of_head (h : (decimalChars n).head? = some '0') : decimalChars n = ['0'] := by
  rw [eq_zero_of_head_decimalChars h]
  rfl

theorem readSign_of_isDigit (hc : isDigit c = true) (r : List Char) :
    readSign (c :: r) = (false, c :: r) := by
  have hbounds := bounds_of_isDigit hc
  unfold readSign
  split
  · rename_i heq
    obtain rfl := (List.cons.inj heq).1
    exact absurd hbounds.1 (by decide)
  · rename_i heq
    obtain rfl := (List.cons.inj heq).1
    exact absurd hbounds.1 (by decide)
  · rfl

theorem readNat_decimalChars (n : Nat) : readNat (decimalChars n) = some n := by
  have hne : (decimalChars n).isEmpty = false := by
    rw [List.isEmpty_eq_false_iff]
    exact Nat.toDigits_ne_nil
  have hdigits : (decimalChars n).all isDigit = true :=
    List.all_eq_true.mpr isDigit_of_mem_decimalChars
  have hvalue : ofDigits (decimalChars n) = n := Nat.ofDigitChars_ten_toDigits
  rw [readNat, hne, hdigits, hvalue]
  rfl

/-- The digits of an integer are read back as it. -/
theorem readInt_toString (i : Int) : readInt (toString i).toList = some i := by
  have hrepr (n : Nat) : n.repr.toList = decimalChars n := by
    rw [Nat.repr_eq_ofList_toDigits, String.toList_ofList]
    rfl
  cases i with
  | ofNat n =>
    obtain ⟨c, r, hcons⟩ := List.exists_cons_of_ne_nil (Nat.toDigits_ne_nil (n := n) (b := 10))
    have hdigit : isDigit c = true := isDigit_of_mem_toDigits (hcons ▸ List.mem_cons_self)
    have hsign : readSign (decimalChars n) = (false, decimalChars n) := by
      rw [decimalChars, hcons]
      exact readSign_of_isDigit hdigit r
    change readInt n.repr.toList = _
    rw [hrepr, readInt, hsign]
    dsimp only
    rw [readNat_decimalChars]
    rfl
  | negSucc n =>
    have htext : (toString (Int.negSucc n)).toList = '-' :: decimalChars (n + 1) := by
      change ("-" ++ (n + 1).repr).toList = _
      rw [String.toList_append, hrepr]
      rfl
    rw [htext, readInt, readSign]
    dsimp only
    rw [readNat_decimalChars]
    rfl

end Causeway.Number
