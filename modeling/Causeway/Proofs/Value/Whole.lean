import Causeway.Proofs.Number.Digits
import Causeway.Proofs.Number.Rational
import Causeway.Proofs.Value.Conversion
import Causeway.Sprite.Basic
import Mathlib.Tactic.NormNum

/-!
# Whole numbers, into values and out of them

An integer of any machine type becomes a value that keeps it, except that a word of 64 bits is read
with a sign (`MachineInteger.keeps_iff`). An integer that is read out of a value is the number that
the value denotes, except that a float beyond the integers of 64 bits is drawn to the nearest of
them (`Value.exists_reads_of_asInt?`); what is read as an integer of 32 bits is always that number.
-/

namespace Causeway

open Number

/-- The integers that become values; a word is the size of a thing in memory. -/
inductive MachineInteger where
  | int8 (x : Int8)
  | int16 (x : Int16)
  | int32 (x : Int32)
  | int64 (x : Int64)
  | nat8 (x : UInt8)
  | nat16 (x : UInt16)
  | nat32 (x : UInt32)
  | nat64 (x : UInt64)
  | word (x : UInt64)

namespace MachineInteger

def toInt : MachineInteger → Int
  | int8 x => x.toInt
  | int16 x => x.toInt
  | int32 x => x.toInt
  | int64 x => x.toInt
  | nat8 x => x.toNat
  | nat16 x => x.toNat
  | nat32 x => x.toNat
  | nat64 x => x.toNat
  | word x => x.toNat

def toValue : MachineInteger → Value
  | word x => Value.ofWord x
  | m => Value.ofInteger m.toInt

end MachineInteger

namespace Value

variable {v : Value} {i : Int64} {x : Int}

theorem bounds_int64 : leastInt = -2 ^ 63 ∧ greatestInt = 2 ^ 63 - 1 := ⟨rfl, rfl⟩

/-- An integer if it fits, and otherwise the float of the JSON number. -/
structure Keeps (x : Int) (v : Value) : Prop where
  fits : leastInt ≤ x ∧ x ≤ greatestInt → ∃ n : Int64, v = .int n ∧ n.toInt = x
  exceeds : ¬(leastInt ≤ x ∧ x ≤ greatestInt) →
    ∃ d : Double, v = .float d ∧ ofJson (.integer x) = .float d

theorem keeps_ofInteger (x : Int) : Keeps x (ofInteger x) where
  fits hfits := by
    have hn : int64? x = some (Int64.ofInt x) := if_pos hfits
    exact ⟨Int64.ofInt x, by rw [ofInteger, hn], (int64?_eq_some_iff.mp hn).symm⟩
  exceeds hexceeds := by
    have hnone : int64? x = none := if_neg hexceeds
    exact ⟨Double.ofInt x, by rw [ofInteger, hnone], by rw [ofJson, ofInteger, hnone]⟩

/-- The number that an integer, a float or a text denotes. -/
def number? : Value → Option ℚ
  | .int i => some i.toInt
  | .float d => d.rational?
  | .string s => numeral? (Text.trim s.toList)
  | _ => none

/-- The value denotes `x`, and `i` is read: the same number, or for a float the nearest one of 64
bits. -/
structure Reads (v : Value) (i : Int64) (x : Int) : Prop where
  denotes : v.number? = some (x : ℚ)
  drawn : i.toInt = max leastInt (min greatestInt x)
  exact : (∀ d, v ≠ .float d) → i.toInt = x

/-- What is read is the number denoted unless that lies outside the integers of 64 bits. -/
theorem Reads.number?_eq_iff (h : v.Reads i x) :
    v.number? = some (i.toInt : ℚ) ↔ leastInt ≤ x ∧ x ≤ greatestInt := by
  obtain ⟨hleast, hgreatest⟩ := bounds_int64
  have hdrawn := h.drawn
  calc v.number? = some (i.toInt : ℚ)
      ↔ x = i.toInt := by rw [h.denotes, Option.some_inj, Int.cast_inj]
    _ ↔ leastInt ≤ x ∧ x ≤ greatestInt := by omega

theorem toInt_drawn (x : Int) :
    (Int64.ofInt (max leastInt (min greatestInt x))).toInt = max leastInt (min greatestInt x) := by
  obtain ⟨hleast, hgreatest⟩ := bounds_int64
  apply Int64.toInt_ofInt_of_le
  · exact hleast ▸ le_max_left leastInt _
  · omega

theorem exists_reads_of_asInt? (h : v.asInt? = some i) : ∃ x, v.Reads i x := by
  cases v with
  | int n =>
    obtain rfl := Option.some.inj h
    have hlow : leastInt ≤ n.toInt := n.minValue_le_toInt
    have hhigh : n.toInt ≤ greatestInt := n.toInt_le
    exact ⟨n.toInt, rfl, by rw [min_eq_right hhigh, max_eq_right hlow], fun _ => rfl⟩
  | float d =>
    rw [asInt?] at h
    split at h
    · rename_i hwhole
      obtain rfl := Option.some.inj h
      obtain ⟨x, hx, htruncate⟩ := Double.exists_truncateWithin_eq hwhole leastInt greatestInt
      exact ⟨x, hx, by rw [htruncate, toInt_drawn], fun hnot => absurd rfl (hnot d)⟩
    · cases h
  | string s =>
    obtain ⟨x, hx, rfl⟩ := Option.map_eq_some_iff.mp h
    obtain ⟨hread, hbounds⟩ := Option.filter_eq_some_iff.mp hx
    obtain ⟨hlow, hhigh⟩ := Bool.and_eq_true_iff.mp hbounds
    have hdrawn : max leastInt (min greatestInt x) = x := by
      rw [min_eq_right (of_decide_eq_true hhigh), max_eq_right (of_decide_eq_true hlow)]
    have hkept : (Int64.ofInt x).toInt = x := by
      rw [← hdrawn, toInt_drawn]
    exact ⟨x, numeral?_of_readInt hread, by rw [hkept, hdrawn], fun _ => hkept⟩
  | null | bool | date | list | map | raw => cases h

theorem asInt?_float {d : Double} (h : d.rational? = some (x : ℚ)) :
    (Value.float d).asInt? = some (Int64.ofInt (d.truncateWithin leastInt greatestInt)) :=
  if_pos (Double.isWhole_of_rational? h)

theorem asInt?_string {s : String} (h : Text.trim s.toList = (toString i.toInt).toList) :
    (Value.string s).asInt? = some i := by
  have hbounds : (leastInt ≤ i.toInt && i.toInt ≤ greatestInt) = true :=
    Bool.and_eq_true_iff.mpr
      ⟨decide_eq_true i.minValue_le_toInt, decide_eq_true i.toInt_le⟩
  have hwithin : readIntWithin leastInt greatestInt (Text.trim s.toList) = some i.toInt := by
    rw [readIntWithin, h, readInt_toString]
    exact Option.filter_eq_some_iff.mpr ⟨rfl, hbounds⟩
  rw [asInt?, hwithin, Option.map_some, Int64.ofInt_toInt]

/-- Every integer and every float without a fraction is read; a text is where it is the integer's
own, with white space around it. -/
theorem exists_asInt? (h : v.number? = some (x : ℚ))
    (htext : ∀ s, v = .string s → ∃ i : Int64, Text.trim s.toList = (toString i.toInt).toList) :
    ∃ i, v.asInt? = some i := by
  cases v with
  | int i => exact ⟨i, rfl⟩
  | float d => exact ⟨_, asInt?_float h⟩
  | string s =>
    obtain ⟨i, hi⟩ := htext s rfl
    exact ⟨i, asInt?_string hi⟩
  | null | bool | date | list | map | raw => cases h

/-- Integers of 32 bits lie inside those of 64, where nothing is drawn. -/
theorem number?_of_asInt32? {i : Int} (h : v.asInt32? = some i) : v.number? = some (i : ℚ) := by
  obtain ⟨n, hn, h⟩ := Option.bind_eq_some_iff.mp h
  split at h
  · rename_i hbounds
    obtain rfl := Option.some.inj h
    obtain ⟨x, hx, hdrawn, -⟩ := exists_reads_of_asInt? hn
    obtain ⟨hleast, hgreatest⟩ := bounds_int64
    have hlow : -2 ^ 31 ≤ n.toInt := hbounds.1
    have hhigh : n.toInt ≤ 2 ^ 31 - 1 := hbounds.2
    have heq : n.toInt = x := by omega
    rw [hx, heq]
  · cases h

end Value

namespace MachineInteger

/-- A word whose highest bit is set is read as a negative number. -/
theorem toInt_toInt64 (w : UInt64) :
    w.toInt64.toInt = if w.toNat < 2 ^ 63 then (w.toNat : Int) else w.toNat - 2 ^ 64 := by
  change w.toBitVec.toInt = _
  rw [BitVec.toInt_eq_toNat_cond]
  change (if 2 * w.toNat < 2 ^ 64 then (w.toNat : Int) else w.toNat - ((2 ^ 64 : Nat) : Int)) = _
  split <;> split <;> omega

theorem keeps_ofWord_iff (w : UInt64) :
    Value.Keeps w.toNat (Value.ofWord w) ↔ w.toNat < 2 ^ 63 := by
  obtain ⟨hleast, hgreatest⟩ := Value.bounds_int64
  have hread := toInt_toInt64 w
  constructor
  · intro hkeeps
    by_contra hlarge
    -- a word is never a float, which is all that could keep it
    obtain ⟨d, hd, -⟩ := hkeeps.exceeds (by omega)
    cases hd
  · intro hsmall
    rw [if_pos hsmall] at hread
    exact ⟨fun _ => ⟨w.toInt64, rfl, hread⟩, fun hexceeds => absurd ⟨by omega, by omega⟩ hexceeds⟩

/-- Only words are not kept, and only those whose highest bit is set. -/
theorem keeps_iff (m : MachineInteger) :
    Value.Keeps m.toInt m.toValue ↔ ∀ w, m = word w → w.toNat < 2 ^ 63 := by
  cases m with
  | word w =>
    rw [toInt, toValue, keeps_ofWord_iff]
    constructor
    · rintro hsmall _ ⟨⟩
      exact hsmall
    · exact fun h => h w rfl
  | _ =>
    refine ⟨fun _ w hword => ?_, fun _ => Value.keeps_ofInteger _⟩
    cases hword

theorem toValue_of_not_keeps {m : MachineInteger} (h : ¬Value.Keeps m.toInt m.toValue) :
    ∃ n : Int64, m.toValue = .int n ∧ n.toInt = m.toInt - 2 ^ 64 := by
  rw [keeps_iff, not_forall] at h
  obtain ⟨w, hword⟩ := h
  obtain ⟨rfl, hlarge⟩ := Classical.not_imp.mp hword
  exact ⟨w.toInt64, rfl, (toInt_toInt64 w).trans (if_neg hlarge)⟩

end MachineInteger

theorem Sprite.exists_extract_of_rawValueOf {α : Type} {s : Sprite} {x : Extractor α}
    {field : String} {a : α} (h : s.rawValueOf x field = .ok a) :
    ∃ v, s.first field = .ok v ∧ x.extract v = some a := by
  unfold rawValueOf at h
  cases hv : s.first field with
  | error e =>
    rw [hv] at h
    cases h
  | ok v =>
    rw [hv] at h
    change extractFrom x field v = .ok a at h
    unfold extractFrom at h
    split at h
    · rename_i hextract
      exact ⟨v, rfl, hextract.trans (congrArg some (Except.ok.inj h))⟩
    · cases h

/-- Integers become values that keep them, except for words whose highest bit is set, and the
integers that are read are the numbers denoted, except for floats beyond 64 bits. -/
theorem integers_converted (m : MachineInteger) (v : Value) (s : Sprite) (field : String) :
    (Value.Keeps m.toInt m.toValue ↔ ∀ w, m = .word w → w.toNat < 2 ^ 63) ∧
      (¬Value.Keeps m.toInt m.toValue →
        ∃ n : Int64, m.toValue = .int n ∧ n.toInt = m.toInt - 2 ^ 64) ∧
      (∀ i, v.asInt? = some i → ∃ x, v.Reads i x ∧
        (v.number? = some (i.toInt : ℚ) ↔ Value.leastInt ≤ x ∧ x ≤ Value.greatestInt)) ∧
      (∀ x : Int, v.number? = some (x : ℚ) →
        (∀ s, v = .string s → ∃ i : Int64, Text.trim s.toList = (toString i.toInt).toList) →
        ∃ i, v.asInt? = some i) ∧
      (∀ i, v.asInt32? = some i → v.number? = some (i : ℚ)) ∧
      (∀ i, s.rawValueOf Extractor.int64 field = .ok i →
        ∃ v x, s.first field = .ok v ∧ v.Reads i x) ∧
      ∀ i, s.rawValueOf Extractor.int32 field = .ok i →
        ∃ v, s.first field = .ok v ∧ v.number? = some (i : ℚ) := by
  refine ⟨m.keeps_iff, MachineInteger.toValue_of_not_keeps, fun i h => ?_,
    fun x => Value.exists_asInt?, fun i => Value.number?_of_asInt32?, fun i h => ?_, fun i h => ?_⟩
  · obtain ⟨x, hx⟩ := Value.exists_reads_of_asInt? h
    exact ⟨x, hx, hx.number?_eq_iff⟩
  · obtain ⟨v, hfirst, hv⟩ := Sprite.exists_extract_of_rawValueOf h
    obtain ⟨x, hx⟩ := Value.exists_reads_of_asInt? hv
    exact ⟨v, x, hfirst, hx⟩
  · obtain ⟨v, hfirst, hv⟩ := Sprite.exists_extract_of_rawValueOf h
    exact ⟨v, hfirst, Value.number?_of_asInt32? hv⟩

theorem integers_converted_bounds :
    Value.Keeps (2 ^ 63) (Value.ofInteger (2 ^ 63)) ∧
      (∃ n : Int64, Value.ofWord 18446744073709551615 = .int n ∧ n.toInt = -1) ∧
      (∃ x, Value.Reads (.string " -7 ") (-7) x) ∧
      (∃ i, Value.asInt? (.int 7) = some i) ∧
      Value.number? (.string "+7") = some ((7 : Int) : ℚ) ∧
      (∃ v x, (Sprite.empty.add "size" (.float (Double.ofInt (2 ^ 63)))).first "size" = .ok v ∧
        v.Reads Int64.maxValue x) ∧
      ∃ v, (Sprite.empty.add "size" (.int 7)).first "size" = .ok v ∧
        v.number? = some ((7 : Int) : ℚ) := by
  obtain ⟨hkeeps, -, hreads, -⟩ := integers_converted (.nat64 9223372036854775808)
    (.string " -7 ") .empty "size"
  obtain ⟨hkeepsWord, hlost, -, hread, -, hsprite, -⟩ :=
    integers_converted (.word 18446744073709551615) (.int 7)
      (Sprite.empty.add "size" (.float (Double.ofInt (2 ^ 63)))) "size"
  obtain ⟨-, -, -, -, hreads32, -, hsprite32⟩ := integers_converted (.int8 0) (.string "+7")
    (Sprite.empty.add "size" (.int 7)) "size"
  have hnotKept : ¬Value.Keeps (MachineInteger.word 18446744073709551615).toInt
      (MachineInteger.word 18446744073709551615).toValue := fun hkept =>
    absurd (hkeepsWord.mp hkept _ rfl) (by decide)
  obtain ⟨x, hx, -⟩ := hreads (-7) (by decide +kernel)
  exact ⟨hkeeps.mpr nofun, hlost hnotKept, ⟨x, hx⟩, hread 7 rfl nofun,
    hreads32 7 (by decide +kernel), hsprite _ (by decide +kernel), hsprite32 7 (by decide +kernel)⟩

/-- The word `2 ^ 63` becomes a negative number, and the float `2 ^ 63` is read as one less. -/
theorem word_and_float_not_kept :
    ¬Value.Keeps (2 ^ 63) (Value.ofWord 9223372036854775808) ∧
      Value.number? (.float (Double.ofInt (2 ^ 63))) = some ((2 ^ 63 : Int) : ℚ) ∧
      Value.asInt? (.float (Double.ofInt (2 ^ 63))) = some (Int64.ofInt (2 ^ 63 - 1)) := by
  refine ⟨fun hkeeps => ?_, ?_, by decide +kernel⟩
  · have hsmall := (MachineInteger.keeps_ofWord_iff 9223372036854775808).mp hkeeps
    exact absurd hsmall (by decide)
  · have hview : (Double.ofInt (2 ^ 63)).view = .finite false ⟨2 ^ 52, 11⟩ := by decide +kernel
    have hpow : (2 : ℚ) ^ (11 : Int) = 2048 := by norm_num
    rw [Value.number?, Double.rational?, hview]
    dsimp only
    rw [signed, if_neg Bool.false_ne_true, Magnitude.rational, hpow]
    norm_num

end Causeway
