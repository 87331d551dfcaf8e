import Causeway.Proofs.Number.Digits
import Causeway.Proofs.Value.Conversion
import Causeway.Relational.Cell
import Mathlib.Algebra.Ring.Int.Defs

/-!
# Values and cells, there and back

Null, truth values, numbers and texts have cells of their own and come back as they were; dates come
back rounded down to the microsecond, and everything else as its JSON text (`cells_faithful`).
Integers of all widths agree on the values that they become, and days agree with the seconds at
which they begin.
-/

namespace Causeway

open Number Time

namespace Time.Instant

variable {i : Instant}

/-- Nanoseconds since 1970. -/
def sinceEpoch (i : Instant) : Int := i.seconds * billion + i.nanos

theorem inRange_iff : i.inRange = true ↔
    Date.firstDay * secondsPerDay ≤ i.seconds ∧ i.seconds < (Date.lastDay + 1) * secondsPerDay := by
  have hday : secondsPerDay = 86400 := rfl
  rw [inRange, Bool.and_eq_true_iff, decide_eq_true_iff, decide_eq_true_iff, dayNumber, hday]
  omega

/-- The count of microseconds fits 64 bits. -/
theorem bounds_micros (h : i.inRange = true) (hnanos : i.nanos < billion) :
    -2 ^ 63 ≤ i.micros ∧ i.micros < 2 ^ 63 := by
  have hfirst : Date.firstDay = -96465292 := rfl
  have hlast : Date.lastDay = 95026236 := rfl
  have hday : secondsPerDay = 86400 := rfl
  have hbillion : billion = 1000000000 := rfl
  rw [inRange_iff, hfirst, hlast, hday] at h
  rw [hbillion] at hnanos
  unfold micros
  omega

theorem ofUnits?_micros (h : i.inRange = true) (hnanos : i.nanos < billion) :
    ofUnits? 1000000 i.micros = some ⟨i.seconds, i.nanos / 1000 * 1000⟩ := by
  have hbillion : billion = 1000000000 := rfl
  rw [hbillion] at hnanos
  have hseconds : i.micros / (1000000 : Nat) = i.seconds := by
    unfold micros
    omega
  have hrest : (i.micros % (1000000 : Nat)).toNat = i.nanos / 1000 := by
    unfold micros
    omega
  have hrounded : inRange ⟨i.seconds, i.nanos / 1000 * 1000⟩ = true := h
  have hunit : billion / 1000000 = 1000 := rfl
  rw [ofUnits?, hseconds, hrest, hunit, ofSeconds?]
  exact if_pos hrounded

/-- A day begins at a second that can be told exactly if the day can be told. -/
theorem ofUnits?_day (d : Int) : ofUnits? 1 (86400 * d) =
    if Date.firstDay ≤ d ∧ d ≤ Date.lastDay then some (ofDayNumber d) else none := by
  have hday : secondsPerDay = 86400 := rfl
  have hseconds : 86400 * d / (1 : Nat) = d * secondsPerDay := by
    rw [hday]
    omega
  have hrest : (86400 * d % (1 : Nat)).toNat * (billion / 1) = 0 := by
    have hwhole : 86400 * d % (1 : Nat) = 0 := Int.emod_one _
    rw [hwhole]
    rfl
  have hrange : (ofDayNumber d).inRange = true ↔ Date.firstDay ≤ d ∧ d ≤ Date.lastDay := by
    rw [inRange_iff, ofDayNumber, hday]
    dsimp only
    omega
  rw [ofUnits?, hseconds, hrest]
  by_cases htold : Date.firstDay ≤ d ∧ d ≤ Date.lastDay
  · rw [if_pos htold]
    exact if_pos (hrange.mpr htold)
  · rw [if_neg htold]
    exact if_neg (mt hrange.mp htold)

end Time.Instant

namespace Relational.Cell

/-- There is a cell of the same kind for these values. -/
def HasKind : Value → Prop
  | .null | .bool _ | .int _ | .float _ | .string _ => True
  | _ => False

/-- These values have parts, or a form that is not known. -/
def IsComposed : Value → Prop
  | .list _ | .map _ | .raw _ => True
  | _ => False

theorem integerValue_toInt (n : Int64) : integerValue n.toInt = .int n := by
  rw [integerValue, Value.int64?_eq_some_iff.mpr rfl]

theorem integerValue_of_not_fits {i : Int} (h : ¬(-2 ^ 63 ≤ i ∧ i < 2 ^ 63)) :
    integerValue i = .string (toString i) := by
  have hnone : Value.int64? i = none := by
    refine Option.eq_none_iff_forall_ne_some.mpr fun n hn => h ?_
    rw [Value.int64?_eq_some_iff] at hn
    exact hn ▸ ⟨n.le_toInt, n.toInt_lt⟩
  rw [integerValue, hnone]

theorem exists_toInt {i : Int} (h : -2 ^ 63 ≤ i ∧ i < 2 ^ 63) : ∃ n : Int64, i = n.toInt :=
  ⟨.ofInt i, (Int64.toInt_ofInt_of_le h.1 h.2).symm⟩

/-- Digits are no number, so only equal integers become equal values. -/
theorem integerValue_beq_iff (i j : Int) : (integerValue i == integerValue j) = true ↔ i = j := by
  by_cases hi : -2 ^ 63 ≤ i ∧ i < 2 ^ 63 <;> by_cases hj : -2 ^ 63 ≤ j ∧ j < 2 ^ 63
  · obtain ⟨m, rfl⟩ := exists_toInt hi
    obtain ⟨n, rfl⟩ := exists_toInt hj
    have hsame : (Value.int m == Value.int n) = (m == n) := rfl
    rw [integerValue_toInt, integerValue_toInt, Int64.toInt_inj, hsame, beq_iff_eq]
  · obtain ⟨m, rfl⟩ := exists_toInt hi
    rw [integerValue_toInt, integerValue_of_not_fits hj]
    exact iff_of_false Bool.false_ne_true fun heq => hj (heq ▸ hi)
  · obtain ⟨n, rfl⟩ := exists_toInt hj
    rw [integerValue_toInt, integerValue_of_not_fits hi]
    exact iff_of_false Bool.false_ne_true fun heq => hi (heq ▸ hj)
  · have hsame : (Value.string (toString i) == Value.string (toString j)) =
        (toString i == toString j) := rfl
    rw [integerValue_of_not_fits hi, integerValue_of_not_fits hj, hsame, beq_iff_eq]
    refine ⟨fun h => ?_, fun h => h ▸ rfl⟩
    exact Option.some.inj ((readInt_toString i).symm.trans (h ▸ readInt_toString j))

theorem toValue_ofValue {v : Value} (h : HasKind v) : (ofValue v).toValue = v := by
  cases v with
  | null => rfl
  | bool b => rfl
  | int n => exact integerValue_toInt n
  | float d => rfl
  | string s => rfl
  | _ => cases h

theorem toValue_ofValue_composed {v : Value} (h : IsComposed v) :
    (ofValue v).toValue = .string v.toJson.text := by
  cases v with
  | list items => rfl
  | map entries => rfl
  | raw j => rfl
  | _ => cases h

/-- Dates are bound as counts of microseconds, also before 1970, and come back at the last
microsecond that is not later. -/
theorem exists_timestamp {i : Instant} (h : i.inRange = true) (hnanos : i.nanos < billion) :
    ∃ (raw : Int64) (t : Instant), ofValue (.date i) = .timestamp .microsecond raw.toInt ∧
      (Cell.timestamp .microsecond raw.toInt).toValue = .date t ∧ t.nanos < billion ∧
      t.sinceEpoch = i.sinceEpoch / 1000 * 1000 := by
  have hbillion : billion = 1000000000 := rfl
  obtain ⟨raw, hraw⟩ := exists_toInt (i.bounds_micros h hnanos)
  refine ⟨raw, ⟨i.seconds, i.nanos / 1000 * 1000⟩, congrArg _ hraw, ?_, ?_, ?_⟩
  · have hunit : TimeUnit.microsecond.perSecond = 1000000 := rfl
    rw [← hraw, toValue, timestampValue, hunit, i.ofUnits?_micros h hnanos]
  · dsimp only
    omega
  · unfold Instant.sinceEpoch
    rw [hbillion]
    dsimp only
    omega

theorem toValue_date_iff (d : Int) (t : Instant) :
    (Cell.date d).toValue = .date t ↔ (Cell.timestamp .second (86400 * d)).toValue = .date t := by
  have hunit : TimeUnit.second.perSecond = 1 := rfl
  rw [toValue, toValue, dateValue, timestampValue, hunit, Instant.ofUnits?_day]
  split <;> simp

/-- Values of the first kinds come back as they were, dates at their microsecond, also before 1970,
and composed values as their JSON text. Columns of any two widths give equal values exactly for
equal integers, and a day is the date of the second at which it begins. -/
theorem cells_faithful :
    (∀ v, HasKind v → (ofValue v).toValue = v) ∧
      (∀ i : Instant, i.inRange = true → i.nanos < billion →
        ∃ (raw : Int64) (t : Instant), ofValue (.date i) = .timestamp .microsecond raw.toInt ∧
          (Cell.timestamp .microsecond raw.toInt).toValue = .date t ∧ t.nanos < billion ∧
          t.sinceEpoch = i.sinceEpoch / 1000 * 1000) ∧
      (∀ v, IsComposed v → (ofValue v).toValue = .string v.toJson.text) ∧
      (∀ (kind : IntegerKind) (n : Int64), (Cell.integer kind n.toInt).toValue = .int n) ∧
      (∀ (kind : IntegerKind) (i : Int), ¬(-2 ^ 63 ≤ i ∧ i < 2 ^ 63) →
        (Cell.integer kind i).toValue = .string (toString i)) ∧
      (∀ (kind kind' : IntegerKind) (i j : Int),
        ((Cell.integer kind i).toValue == (Cell.integer kind' j).toValue) = true ↔ i = j) ∧
      ∀ d ≤ 2146764484, ∀ t : Instant,
        (Cell.date d).toValue = .date t ↔
          (Cell.timestamp .second (86400 * d)).toValue = .date t := by
  refine ⟨?_, ?_, ?_, ?_, ?_, ?_, ?_⟩
  · exact fun v hv => toValue_ofValue hv
  · exact fun i h hnanos => exists_timestamp h hnanos
  · exact fun v hv => toValue_ofValue_composed hv
  · exact fun kind n => integerValue_toInt n
  · exact fun kind i hi => integerValue_of_not_fits hi
  · exact fun kind kind' i j => integerValue_beq_iff i j
  · exact fun d _ t => toValue_date_iff d t

theorem cells_faithful_last_moment :
    let moment : Instant := ⟨-1, 999999999⟩
    (HasKind (.float (.quietNan true)) ∧
        (ofValue (.float (.quietNan true))).toValue = .float (.quietNan true)) ∧
      (moment.inRange = true ∧ moment.nanos < billion ∧ ∃ (raw : Int64) (t : Instant),
        ofValue (.date moment) = .timestamp .microsecond raw.toInt ∧
          (Cell.timestamp .microsecond raw.toInt).toValue = .date t ∧ t.nanos < billion ∧
          t.sinceEpoch = -1000) ∧
      (IsComposed (.list [.null, .bool true]) ∧
        (ofValue (.list [.null, .bool true])).toValue = .string "[null,true]") ∧
      (¬((-2 ^ 63 : Int) ≤ 2 ^ 63 ∧ (2 ^ 63 : Int) < 2 ^ 63) ∧
        (Cell.integer .uint64 (2 ^ 63)).toValue = .string "9223372036854775808") ∧
      ((95026236 : Int) ≤ 2146764484 ∧
        (Cell.timestamp .second (86400 * 95026236)).toValue = .date (.ofDayNumber 95026236)) := by
  intro moment
  obtain ⟨hkind, hdate, hcomposed, -, hdigits, -, hday⟩ := cells_faithful
  have hrange : moment.inRange = true := by decide
  have hlarge : ¬((-2 ^ 63 : Int) ≤ 2 ^ 63 ∧ (2 ^ 63 : Int) < 2 ^ 63) := by decide
  refine ⟨⟨trivial, hkind _ trivial⟩, ⟨hrange, by decide, hdate moment hrange (by decide)⟩,
    ⟨trivial, hcomposed (.list [.null, .bool true]) trivial⟩,
    ⟨hlarge, hdigits .uint64 _ hlarge⟩, ⟨by decide, (hday _ (by decide) _).mp rfl⟩⟩

end Relational.Cell

end Causeway
