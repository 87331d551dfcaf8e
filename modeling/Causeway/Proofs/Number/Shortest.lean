import Causeway.Number.Shortest

/-!
# What the search for digits finds

A decimal that is found lies in the interval of what rounds to the value (`holds_of_search`), and taking
zeros out of its digits does not change it (`stripZeros_spec`). So the digits of a value that is not zero
are none.
-/

namespace Causeway.Number

namespace Around

variable {a : Around} {n : Nat} {tieUp : Bool} {d : Digits}

theorem le_of_holds (h : a.holds n = true) : a.low ≤ n ∧ n ≤ a.high := by
  unfold holds at h
  split at h
  · simpa using h
  · have hbetween : a.low < n ∧ n < a.high := by simpa using h
    exact ⟨Nat.le_of_lt hbetween.1, Nat.le_of_lt hbetween.2⟩

theorem holds_of_neighbour? (h : a.neighbour? tieUp = some n) :
    a.holds (n * a.denominator) = true := by
  unfold neighbour? at h
  dsimp only at h
  split at h
  · rename_i hboth
    obtain ⟨hdown, hup⟩ := Bool.and_eq_true_iff.mp hboth
    split at h
    · exact Option.some.inj h ▸ hdown
    · split at h
      · exact Option.some.inj h ▸ hup
      · split at h
        · exact Option.some.inj h ▸ hup
        · exact Option.some.inj h ▸ hdown
  · split at h
    · rename_i hdown
      exact Option.some.inj h ▸ hdown
    · split at h
      · rename_i hup
        exact Option.some.inj h ▸ hup
      · cases h

/-- What is found lies in the interval, on the grid of its exponent. -/
theorem holds_of_search {top : Int} {fuel : Nat} (h : a.search tieUp top fuel = some d) :
    (a.shift (-d.exponent)).holds (d.digits * (a.shift (-d.exponent)).denominator) = true := by
  induction fuel generalizing top with
  | zero =>
    obtain ⟨n, hn, rfl⟩ := Option.map_eq_some_iff.mp h
    exact holds_of_neighbour? hn
  | succ fuel ih =>
    rw [search] at h
    split at h
    · rename_i n hn
      obtain rfl := Option.some.inj h
      exact holds_of_neighbour? hn
    · exact ih h

theorem low_shift_pos (h : 0 < a.low) (k : Int) : 0 < (a.shift k).low := by
  cases k with
  | ofNat e => exact Nat.mul_pos h (tenPow_pos e)
  | negSucc e => exact h

theorem low_ofMagnitude_pos (f : Format) {v : Magnitude} (hv : v.significand ≠ 0) :
    0 < (ofMagnitude f v).low := by
  unfold ofMagnitude
  split <;> dsimp only <;> split
  · exact Nat.mul_pos (by omega) (twoPow_pos _)
  · show 0 < 4 * v.significand - 1
    omega
  · exact Nat.mul_pos (by omega) (twoPow_pos _)
  · show 0 < 4 * v.significand - 2
    omega

end Around

/-- Zeros are taken out of the digits into the exponent. -/
theorem Digits.stripZeros_spec (d : Digits) (fuel : Nat) :
    ∃ k, d.digits = (d.stripZeros fuel).digits * tenPow k ∧
      (d.stripZeros fuel).exponent = d.exponent + k := by
  induction fuel generalizing d with
  | zero => exact ⟨0, (Nat.mul_one _).symm, (Int.add_zero _).symm⟩
  | succ fuel ih =>
    rw [stripZeros]
    split
    · rename_i hzero
      obtain ⟨k, hdigits, hexponent⟩ := ih ⟨d.digits / 10, d.exponent + 1⟩
      refine ⟨k + 1, ?_, ?_⟩
      · have hten : d.digits = d.digits / 10 * 10 := by omega
        rw [tenPow_succ, ← Nat.mul_assoc, ← hdigits]
        exact hten
      · rw [hexponent]
        push_cast
        omega
    · exact ⟨0, (Nat.mul_one _).symm, (Int.add_zero _).symm⟩

/-- Digits that are none stand for nothing found. -/
theorem exponent_shortest_of_digits (f : Format) (tieUp : Bool) {v : Magnitude}
    (hv : v.significand ≠ 0) (h : (shortest f tieUp v).digits = 0) :
    (shortest f tieUp v).exponent = 0 := by
  unfold shortest at h ⊢
  dsimp only at h ⊢
  split at h
  · rename_i d hd
    obtain ⟨k, hdigits, -⟩ := d.stripZeros_spec 20
    rw [h, Nat.zero_mul] at hdigits
    have hlow := (Around.le_of_holds (Around.holds_of_search hd)).1
    have hpos := Around.low_shift_pos (Around.low_ofMagnitude_pos f hv) (-d.exponent)
    rw [hdigits, Nat.zero_mul] at hlow
    omega
  · rfl

end Causeway.Number
