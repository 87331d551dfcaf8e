import Causeway.Json.Reader
import Causeway.Json.Text
import Causeway.Proofs.Number.Digits
import Causeway.Proofs.Number.Shortest
import Causeway.Proofs.Text.Words

/-!
# Numbers in JSON texts

Integers and finite doubles are written as numbers of the JSON grammar (`exists_numeral_integer`,
`exists_numeral_real`). Such a number is taken from the front of a text as a whole, whatever follows it,
unless that would go on with it (`takeNumber_append`).
-/

namespace Causeway.Json

open Number

/-! ### The grammar -/

/-- A number of the grammar by its parts. -/
structure Numeral where
  negative : Bool
  whole : List Char
  /-- The digits behind the point; without any there is no point. -/
  fraction : List Char := []
  /-- Whether the exponent is negative, and its digits. -/
  exponent : Option (Bool × List Char) := none
  whole_ne_nil : whole ≠ []
  whole_digits : ∀ c ∈ whole, isDigit c = true
  /-- A zero in front stands alone. -/
  zero_alone : whole.head? = some '0' → whole = ['0']
  fraction_digits : ∀ c ∈ fraction, isDigit c = true
  exponent_digits : ∀ e ∈ exponent, e.2 ≠ [] ∧ ∀ c ∈ e.2, isDigit c = true

/-- What can stand behind a number without being part of it. -/
def EndsNumber (rest : List Char) : Prop :=
  ∀ c ∈ rest.head?, isDigit c = false ∧ c ≠ '.' ∧ c ≠ 'e' ∧ c ≠ 'E'

namespace Numeral

def fractionChars (ds : List Char) : List Char := if ds.isEmpty then [] else '.' :: ds

def exponentChars : Option (Bool × List Char) → List Char
  | none => []
  | some (negative, ds) => 'e' :: (if negative then '-' else '+') :: ds

def exponentValue : Option (Bool × List Char) → Int
  | none => 0
  | some (negative, ds) => if negative then -(ofDigits ds : Int) else ofDigits ds

def unsigned (n : Numeral) : List Char :=
  n.whole ++ (fractionChars n.fraction ++ exponentChars n.exponent)

theorem unsigned_ne_nil (n : Numeral) : n.unsigned ≠ [] :=
  List.append_ne_nil_of_left_ne_nil n.whole_ne_nil _

def chars (n : Numeral) : List Char := if n.negative then '-' :: n.unsigned else n.unsigned

/-- What a number is read as. -/
def written (n : Numeral) : Written :=
  let kept := keepDigits 0 n.whole
  let all := keepDigits kept.1 n.fraction
  let places : Int := (n.fraction.length - all.2.length : Nat)
  .number (n.fraction.isEmpty && !n.exponent.isSome && kept.2.isEmpty)
    ⟨n.negative, all.1, exponentValue n.exponent + kept.2.length - places⟩

end Numeral

variable {rest ds : List Char}

theorem takeWhole_append (hne : ds ≠ []) (hds : ∀ c ∈ ds, isDigit c = true)
    (hzero : ds.head? = some '0' → ds = ['0']) (hrest : ∀ c ∈ rest.head?, isDigit c = false) :
    takeWhole (ds ++ rest) = some (ds, rest) := by
  obtain ⟨htaken, hleft⟩ := Text.span_append hds hrest
  unfold takeWhole
  dsimp only
  rw [htaken, hleft]
  split
  · exact absurd rfl hne
  · exact absurd (hzero rfl) (by simp)
  · rfl

theorem takeFraction_append (hds : ∀ c ∈ ds, isDigit c = true)
    (hrest : ∀ c ∈ rest.head?, isDigit c = false ∧ c ≠ '.') :
    takeFraction (Numeral.fractionChars ds ++ rest) = some (ds, rest) := by
  unfold Numeral.fractionChars
  cases ds with
  | nil =>
    -- nothing is taken where no point comes
    change takeFraction rest = some ([], rest)
    unfold takeFraction
    split
    · exact absurd rfl (hrest '.' rfl).2
    · rfl
  | cons d ds =>
    obtain ⟨htaken, hleft⟩ := Text.span_append hds fun c hc => (hrest c hc).1
    have hpoint : (if (d :: ds).isEmpty = true then [] else '.' :: d :: ds) ++ rest =
        '.' :: (d :: ds ++ rest) := rfl
    rw [hpoint, takeFraction, htaken, hleft]
    rfl

theorem takeExponent_append {e : Option (Bool × List Char)}
    (he : ∀ x ∈ e, x.2 ≠ [] ∧ ∀ c ∈ x.2, isDigit c = true) (hrest : EndsNumber rest) :
    takeExponent (Numeral.exponentChars e ++ rest) =
      some (Numeral.exponentValue e, e.isSome, rest) := by
  cases e with
  | none =>
    cases rest with
    | nil => rfl
    | cons c rest =>
      obtain ⟨-, -, hlower, hupper⟩ := hrest c rfl
      exact if_neg (not_or.mpr ⟨hlower, hupper⟩)
  | some x =>
    obtain ⟨negative, ds⟩ := x
    obtain ⟨hne, hds⟩ := he _ rfl
    obtain ⟨htaken, hleft⟩ := Text.span_append hds fun c hc => (hrest c hc).1
    have hsign : readSign ((if negative = true then '-' else '+') :: (ds ++ rest)) =
        (negative, ds ++ rest) := by
      cases negative <;> rfl
    have hsome : ds.isEmpty = false := by simpa using hne
    change takeExponent ('e' :: (if negative = true then '-' else '+') :: (ds ++ rest)) = _
    rw [takeExponent, if_pos (.inl rfl), hsign]
    dsimp only
    rw [htaken, hleft, hsome]
    rfl

theorem takeUnsigned_append (n : Numeral) (hrest : EndsNumber rest) :
    takeUnsigned n.negative (n.unsigned ++ rest) = some (n.written, rest) := by
  have hexponent : ∀ c ∈ (Numeral.exponentChars n.exponent ++ rest).head?,
      isDigit c = false ∧ c ≠ '.' := by
    cases n.exponent with
    | none => exact fun c hc => ⟨(hrest c hc).1, (hrest c hc).2.1⟩
    | some x =>
      rintro c ⟨⟩
      decide
  have hfraction : ∀ c ∈ (Numeral.fractionChars n.fraction ++
      (Numeral.exponentChars n.exponent ++ rest)).head?, isDigit c = false := by
    cases n.fraction with
    | nil => exact fun c hc => (hexponent c hc).1
    | cons d ds =>
      rintro c ⟨⟩
      decide
  rw [takeUnsigned, Numeral.unsigned, List.append_assoc, List.append_assoc,
    takeWhole_append n.whole_ne_nil n.whole_digits n.zero_alone hfraction]
  dsimp only [Option.bind_eq_bind, Option.bind_some]
  rw [takeFraction_append n.fraction_digits hexponent]
  dsimp only [Option.bind_some]
  rw [takeExponent_append n.exponent_digits hrest]
  rfl

theorem head_unsigned (n : Numeral) : ∀ c ∈ n.unsigned.head?, isDigit c = true := by
  obtain ⟨d, ds, hwhole⟩ := List.exists_cons_of_ne_nil n.whole_ne_nil
  rw [Numeral.unsigned, hwhole]
  rintro c ⟨⟩
  exact n.whole_digits d (hwhole ▸ List.mem_cons_self)

/-- A number begins with a digit or a minus sign. -/
theorem Numeral.exists_chars_cons (n : Numeral) :
    ∃ c r, n.chars = c :: r ∧ (isDigit c = true ∨ c = '-') := by
  unfold Numeral.chars
  split
  · exact ⟨'-', _, rfl, .inr rfl⟩
  · obtain ⟨d, ds, hunsigned⟩ := List.exists_cons_of_ne_nil n.unsigned_ne_nil
    exact ⟨d, ds, hunsigned, .inl (head_unsigned n d (hunsigned ▸ rfl))⟩

theorem takeNumber_of_head {s : List Char} (h : ∀ c ∈ s.head?, c ≠ '-') :
    takeNumber s = takeUnsigned false s := by
  unfold takeNumber
  split
  · exact absurd rfl (h '-' rfl)
  · rfl

/-- A number is taken up to its end. -/
theorem takeNumber_append (n : Numeral) (hrest : EndsNumber rest) :
    takeNumber (n.chars ++ rest) = some (n.written, rest) := by
  have htaken := takeUnsigned_append n hrest
  unfold Numeral.chars
  cases hnegative : n.negative with
  | true =>
    rw [hnegative] at htaken
    exact htaken
  | false =>
    rw [hnegative] at htaken
    have hhead : ∀ c ∈ (n.unsigned ++ rest).head?, c ≠ '-' := by
      obtain ⟨d, ds, hunsigned⟩ := List.exists_cons_of_ne_nil (n.unsigned_ne_nil)
      rw [hunsigned]
      rintro c ⟨⟩ rfl
      exact absurd (head_unsigned n '-' (hunsigned ▸ rfl)) (by decide)
    exact (takeNumber_of_head hhead).trans htaken

/-! ### Digits that are kept -/

theorem keepDigits_of_lt {n : Nat} (ds : List Char)
    (h : ds.foldl (fun n c => 10 * n + digitValue c) n < UInt64.size) :
    keepDigits n ds = (ds.foldl (fun n c => 10 * n + digitValue c) n, []) := by
  induction ds generalizing n with
  | nil => rfl
  | cons c ds ih =>
    have hgrows : ∀ (ds : List Char) (m : Nat),
        m ≤ ds.foldl (fun n c => 10 * n + digitValue c) m := by
      intro ds
      induction ds with
      | nil => exact fun m => Nat.le_refl m
      | cons d ds ih =>
        intro m
        exact Nat.le_trans (by omega) (ih (10 * m + digitValue d))
    have hkept : 10 * n + digitValue c < UInt64.size := Nat.lt_of_le_of_lt (hgrows ds _) h
    rw [keepDigits, if_pos hkept, ih h]
    rfl

namespace Numeral

/-! ### Integers -/

def ofInteger (i : Int) : Numeral where
  negative := decide (i < 0)
  whole := decimalChars i.natAbs
  whole_ne_nil := Nat.toDigits_ne_nil
  whole_digits := isDigit_of_mem_decimalChars
  zero_alone := decimalChars_of_head
  fraction_digits := by simp
  exponent_digits := by simp

theorem chars_ofInteger (i : Int) : (ofInteger i).chars = (toString i).toList := by
  have hrepr : ∀ n : Nat, n.repr.toList = decimalChars n := by
    intro n
    rw [Nat.repr_eq_ofList_toDigits, String.toList_ofList]
    rfl
  have hunsigned : (ofInteger i).unsigned = decimalChars i.natAbs := List.append_nil _
  unfold chars
  rw [hunsigned]
  cases i with
  | ofNat n => exact (hrepr n).symm
  | negSucc n =>
    have hnegative : (ofInteger (Int.negSucc n)).negative = true :=
      decide_eq_true (Int.negSucc_lt_zero n)
    rw [if_pos hnegative]
    change '-' :: decimalChars (n + 1) = ("-" ++ (n + 1).repr).toList
    rw [String.toList_append, hrepr]
    rfl

theorem written_ofInteger {i : Int} (h : i.natAbs < UInt64.size) :
    (ofInteger i).written = .number true ⟨decide (i < 0), i.natAbs, 0⟩ := by
  have hvalue : ofDigits (decimalChars i.natAbs) = i.natAbs := Nat.ofDigitChars_ten_toDigits
  have hkept : keepDigits 0 (decimalChars i.natAbs) = (i.natAbs, []) := by
    rw [keepDigits_of_lt _ (Nat.lt_of_le_of_lt (Nat.le_of_eq hvalue) h)]
    exact congrArg (·, []) hvalue
  unfold written
  simp only [ofInteger, hkept]
  rfl

/-! ### Doubles -/

/-- Not an integer by its form. -/
def IsFractional (n : Numeral) : Prop := n.fraction ≠ [] ∨ n.exponent ≠ none

theorem written_of_isFractional {n : Numeral} (h : n.IsFractional) :
    ∃ d, n.written = .number false d := by
  refine ⟨_, congrArg (Written.number · _) ?_⟩
  rcases h with h | h <;> simp [h]

end Numeral

theorem isDigit_of_mem_zeros {k : Nat} : ∀ c ∈ List.replicate k '0', isDigit c = true := by
  intro c hc
  obtain rfl := List.eq_of_mem_replicate hc
  decide

/-- Zeros in front where digits are missing, and a point among them. -/
theorem exists_numeral_withPoint (n e : Nat) :
    ∃ m : Numeral, m.negative = false ∧ m.unsigned = withPoint (decimalChars n) (e + 1) ∧
      m.IsFractional := by
  generalize hpadded : List.replicate (e + 2 - (decimalChars n).length) '0' ++ decimalChars n = padded
  have hlength : padded.length = (e + 2 - (decimalChars n).length) + (decimalChars n).length := by
    rw [← hpadded, List.length_append, List.length_replicate]
  have hdigits : ∀ c ∈ padded, isDigit c = true := by
    rw [← hpadded]
    exact List.forall_mem_append.mpr ⟨isDigit_of_mem_zeros, isDigit_of_mem_decimalChars⟩
  have hfraction : (padded.drop (padded.length - (e + 1))).isEmpty = false := by
    rw [List.isEmpty_eq_false_iff, ne_eq, List.drop_eq_nil_iff]
    omega
  refine ⟨{
      negative := false
      whole := padded.take (padded.length - (e + 1))
      fraction := padded.drop (padded.length - (e + 1))
      whole_ne_nil := ?_
      whole_digits := fun c hc => hdigits c (List.mem_of_mem_take hc)
      zero_alone := ?_
      fraction_digits := fun c hc => hdigits c (List.mem_of_mem_drop hc)
      exponent_digits := by simp }, rfl, ?_, .inl (List.isEmpty_eq_false_iff.mp hfraction)⟩
  · refine List.ne_nil_of_length_pos ?_
    rw [List.length_take]
    omega
  · intro hhead
    rw [List.head?_take, if_neg (by omega)] at hhead
    by_cases hshort : (decimalChars n).length ≤ e + 1
    · have hcut : padded.length - (e + 1) = 1 := by omega
      obtain ⟨rest, hrest⟩ := List.head?_eq_some_iff.mp hhead
      rw [hcut, hrest]
      rfl
    · -- all digits are there, and the first of them is no zero
      have hnone : e + 2 - (decimalChars n).length = 0 := by omega
      rw [hnone, List.replicate_zero, List.nil_append] at hpadded
      rw [← hpadded] at hhead
      rw [decimalChars_of_head hhead] at hshort
      simp at hshort
  · have hpoint : Numeral.fractionChars (padded.drop (padded.length - (e + 1))) =
        '.' :: padded.drop (padded.length - (e + 1)) := by
      rw [Numeral.fractionChars, hfraction]
      rfl
    unfold Numeral.unsigned withPoint
    dsimp only [Numeral.exponentChars]
    rw [hpoint, List.append_nil, hpadded]

theorem exists_numeral_positional {d : Digits} (hd : d.digits = 0 → d.exponent = 0) :
    ∃ n : Numeral, n.negative = false ∧ n.unsigned = jsonNotation.positionalText d ∧
      n.IsFractional := by
  obtain ⟨digits, exponent⟩ := d
  cases exponent with
  | ofNat e =>
    refine ⟨{
        negative := false
        whole := decimalChars digits ++ List.replicate e '0'
        fraction := ['0']
        whole_ne_nil := List.append_ne_nil_of_left_ne_nil Nat.toDigits_ne_nil _
        whole_digits :=
          List.forall_mem_append.mpr ⟨isDigit_of_mem_decimalChars, isDigit_of_mem_zeros⟩
        zero_alone := ?_
        fraction_digits := List.forall_mem_singleton.mpr rfl
        exponent_digits := by simp }, rfl, rfl, .inl (by simp)⟩
    intro hhead
    rw [List.head?_append, Option.or_of_isSome (by simp [decimalChars, Nat.toDigits_ne_nil])] at hhead
    have hzero : e = 0 := Int.ofNat.inj (hd (eq_zero_of_head_decimalChars hhead))
    rw [decimalChars_of_head hhead, hzero]
    rfl
  | negSucc e => exact exists_numeral_withPoint digits e

theorem exists_numeral_scientific (d : Digits) :
    ∃ n : Numeral, n.negative = false ∧ n.unsigned = jsonNotation.scientificText d ∧
      n.IsFractional := by
  obtain ⟨c, r, hdigits⟩ : ∃ c r, decimalChars d.digits = c :: r :=
    List.exists_cons_of_ne_nil Nat.toDigits_ne_nil
  have hall : ∀ x ∈ c :: r, isDigit x = true := hdigits ▸ isDigit_of_mem_decimalChars
  generalize hlead : d.exponent + ((decimalChars d.digits).length - 1 : Nat) = lead
  refine ⟨{
      negative := false
      whole := [c]
      fraction := r
      exponent := some (decide (lead < 0), decimalChars lead.natAbs)
      whole_ne_nil := List.cons_ne_nil c []
      whole_digits := fun x hx => hall x (List.mem_cons.mpr (.inl (List.mem_singleton.mp hx)))
      zero_alone := fun hhead => congrArg ([·]) (Option.some.inj hhead)
      fraction_digits := fun x hx => hall x (List.mem_cons_of_mem c hx)
      exponent_digits := ?_ }, rfl, ?_, .inr (by simp)⟩
  · rintro e ⟨⟩
    exact ⟨Nat.toDigits_ne_nil, isDigit_of_mem_decimalChars⟩
  · have hsign : (if lead < 0 then "-".toList else jsonNotation.plus.toList) =
        [if lead < 0 then '-' else '+'] := by
      split <;> rfl
    unfold Numeral.unsigned Layout.scientificText
    dsimp only
    rw [hlead, hsign, hdigits]
    cases r <;> simp [Numeral.fractionChars, Numeral.exponentChars]

theorem exists_numeral_magnitude (v : Magnitude) :
    ∃ n : Numeral, n.negative = false ∧ n.unsigned = jsonNotation.magnitudeText binary64 v ∧
      n.IsFractional := by
  unfold Layout.magnitudeText
  split
  · exact ⟨{
      negative := false
      whole := ['0']
      fraction := ['0']
      whole_ne_nil := by simp
      whole_digits := List.forall_mem_singleton.mpr rfl
      zero_alone := fun _ => rfl
      fraction_digits := List.forall_mem_singleton.mpr rfl
      exponent_digits := by simp }, rfl, rfl, .inl (by simp)⟩
  · rename_i hv
    dsimp only
    split
    · exact exists_numeral_positional (exponent_shortest_of_digits binary64 false hv)
    · exact exists_numeral_scientific _

theorem exists_numeral_real {d : Double} (h : d.isFinite = true) :
    ∃ n : Numeral, n.chars = d.jsonText.toList ∧ n.IsFractional := by
  unfold Double.isFinite at h
  split at h
  · rename_i negative v hview
    obtain ⟨n, hsign, hunsigned, hfractional⟩ := exists_numeral_magnitude v
    refine ⟨{ n with negative }, ?_, hfractional⟩
    unfold Double.jsonText
    rw [String.toList_ofList, hview, Double.text, ← hunsigned]
    cases negative <;> rfl
  · cases h

/-- What the text of a double is read as. -/
def writtenReal (d : Double) : Written := ((takeNumber d.jsonText.toList).map Prod.fst).getD .null

theorem takeNumber_real {d : Double} (h : d.isFinite = true) (hrest : EndsNumber rest) :
    takeNumber (d.jsonText.toList ++ rest) = some (writtenReal d, rest) ∧
      ∃ n, writtenReal d = .number false n := by
  obtain ⟨n, hchars, hfractional⟩ := exists_numeral_real h
  have hend : EndsNumber [] := fun c hc => nomatch hc
  have halone := takeNumber_append n hend
  rw [List.append_nil, hchars] at halone
  have hwritten : writtenReal d = n.written := by
    rw [writtenReal, halone]
    rfl
  rw [← hchars, hwritten]
  exact ⟨takeNumber_append n hrest, Numeral.written_of_isFractional hfractional⟩

end Causeway.Json
