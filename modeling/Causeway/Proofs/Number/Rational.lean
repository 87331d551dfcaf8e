import Causeway.Number.Double
import Mathlib.Algebra.Order.Field.Rat
import Mathlib.Data.List.TakeWhile
import Mathlib.Data.Nat.Cast.Field

/-!
# The numbers that floats and numerals denote

A finite float and a decimal numeral denote a rational each. A float without a fraction denotes an
integer, which truncation draws into its bounds (`exists_truncateWithin_eq`), and a text that is
read as an integer is a numeral of that integer (`numeral?_of_readInt`).
-/

namespace Causeway.Number

variable {s : List Char} {i : Int} {n : Nat}

def signed (negative : Bool) (q : ℚ) : ℚ := if negative then -q else q

theorem signed_natCast (negative : Bool) (n : Nat) :
    signed negative n = ((if negative then -(n : Int) else n : Int) : ℚ) := by
  cases negative with
  | false => exact (Int.cast_natCast n).symm
  | true =>
    change -(n : ℚ) = ((-(n : Int) : Int) : ℚ)
    rw [Int.cast_neg, Int.cast_natCast]

namespace Magnitude

variable {v : Magnitude}

def rational (v : Magnitude) : ℚ := v.significand * 2 ^ v.exponent

theorem two_pow_ne_zero (e : Nat) : 2 ^ (e + 1) ≠ 0 := (Nat.two_pow_pos _).ne'

theorem rational_negSucc (m e : Nat) :
    rational ⟨m, .negSucc e⟩ = (m : ℚ) / ((2 ^ (e + 1) : Nat) : ℚ) := by
  rw [rational, Nat.cast_pow, div_eq_mul_inv]
  exact congrArg (_ * ·) (zpow_negSucc _ _)

theorem rational_eq_floor (h : v.isWhole = true) : v.rational = v.floor := by
  obtain ⟨m, e⟩ := v
  cases e with
  | ofNat e =>
    have hfloor : floor ⟨m, .ofNat e⟩ = m * 2 ^ e := Nat.div_one _
    rw [hfloor, rational, Nat.cast_mul, Nat.cast_pow]
    exact congrArg (_ * ·) (zpow_natCast _ _)
  | negSucc e =>
    have hdvd : 2 ^ (e + 1) ∣ m := Nat.dvd_of_mod_eq_zero (beq_iff_eq.mp h)
    have hfloor : floor ⟨m, .negSucc e⟩ = m / 2 ^ (e + 1) := rfl
    rw [hfloor, rational_negSucc, Nat.cast_div hdvd (Nat.cast_ne_zero.mpr (two_pow_ne_zero e))]

theorem isWhole_of_rational_eq {x : Int} (h : v.rational = x) : v.isWhole = true := by
  obtain ⟨m, e⟩ := v
  cases e with
  | ofNat e => rfl
  | negSucc e =>
    rw [rational_negSucc, div_eq_iff (Nat.cast_ne_zero.mpr (two_pow_ne_zero e))] at h
    have hproduct : (m : Int) = x * ((2 ^ (e + 1) : Nat) : Int) := by exact_mod_cast h
    have hdvd : 2 ^ (e + 1) ∣ m := Int.natCast_dvd_natCast.mp (Dvd.intro_left x hproduct.symm)
    exact beq_iff_eq.mpr (Nat.mod_eq_zero_of_dvd hdvd)

end Magnitude

namespace Double

variable {d : Double}

/-- What the bits denote; infinities and NaN are no numbers. -/
def rational? (d : Double) : Option ℚ :=
  match d.view with
  | .finite negative v => some (signed negative v.rational)
  | _ => none

/-- Without a fraction a float is an integer, and only the bounds can change it. -/
theorem exists_truncateWithin_eq (h : d.isWhole = true) (low high : Int) :
    ∃ x : Int, d.rational? = some (x : ℚ) ∧ d.truncateWithin low high = max low (min high x) := by
  unfold isWhole at h
  unfold rational? truncateWithin
  cases hview : d.view with
  | nan negative =>
    rw [hview] at h
    cases h
  | infinite negative =>
    rw [hview] at h
    cases h
  | finite negative v =>
    rw [hview] at h
    refine ⟨if negative then -(v.floor : Int) else v.floor, ?_, rfl⟩
    exact congrArg some (Magnitude.rational_eq_floor h ▸ signed_natCast negative v.floor)

theorem isWhole_of_rational? {x : Int} (h : d.rational? = some (x : ℚ)) : d.isWhole = true := by
  unfold rational? at h
  split at h
  · rename_i negative v hview
    have hvalue := Option.some.inj h
    rw [isWhole, hview]
    cases negative with
    | false => exact Magnitude.isWhole_of_rational_eq hvalue
    | true =>
      have hopposite : v.rational = ((-x : Int) : ℚ) := by
        rw [Int.cast_neg, ← hvalue]
        exact (neg_neg v.rational).symm
      exact Magnitude.isWhole_of_rational_eq hopposite
  · cases h

end Double

/-- The exact number of a decimal. -/
def Decimal.rational (d : Decimal) : ℚ := signed d.negative (d.coefficient * 10 ^ d.exponent)

/-- The number that a text spells: an optional sign, digits with an optional point, and an optional
exponent. -/
def numeral? (s : List Char) : Option ℚ :=
  let (negative, r) := readSign s
  (Decimal.readUnsigned negative r).map Decimal.rational

/-- Digits alone are a numeral without a fraction and without an exponent. -/
theorem readUnsigned_of_readNat {negative : Bool} (h : readNat s = some n) :
    Decimal.readUnsigned negative s = some ⟨negative, n, 0⟩ := by
  unfold readNat at h
  split at h
  · cases h
  · rename_i hne
    split at h
    · rename_i hdigits
      obtain rfl := Option.some.inj h
      have htake : s.takeWhile isDigit = s :=
        List.takeWhile_eq_self_iff.mpr (List.all_eq_true.mp hdigits)
      have hdrop : s.dropWhile isDigit = [] :=
        List.dropWhile_eq_nil_iff.mpr (List.all_eq_true.mp hdigits)
      simp [Decimal.readUnsigned, htake, hdrop, hne]
    · cases h

theorem numeral?_of_readInt (h : readInt s = some i) : numeral? s = some (i : ℚ) := by
  unfold readInt at h
  unfold numeral?
  generalize readSign s = signAndRest at h ⊢
  obtain ⟨negative, r⟩ := signAndRest
  dsimp only at h ⊢
  cases hn : readNat r with
  | none =>
    rw [hn] at h
    cases h
  | some n =>
    rw [hn] at h
    obtain rfl := Option.some.inj h
    calc (Decimal.readUnsigned negative r).map Decimal.rational
        = some (Decimal.rational ⟨negative, n, 0⟩) := by rw [readUnsigned_of_readNat hn]; rfl
      _ = some (signed negative n) := by rw [Decimal.rational, zpow_zero, mul_one]
      _ = _ := congrArg some (signed_natCast negative n)

end Causeway.Number
