import Causeway.Proofs.Number.Digits
import Causeway.Proofs.Text.Words
import Causeway.Relational.Engine
import Causeway.Relational.Statement

/-!
# Tokens of a statement

The tokens that a text begins with: words, digits, and quoted names, which are read back whatever is in
them (`lex_quoteName`).
-/

namespace Causeway.Relational

open Number

namespace SqlToken

variable {c : Char} {r : List Char}

/-! ### Characters -/

theorem bounds_of_isAlpha (hc : c.isAlpha = true) :
    (65 ≤ c.toNat ∧ c.toNat ≤ 90) ∨ (97 ≤ c.toNat ∧ c.toNat ≤ 122) := by
  have hcases : c.isUpper = true ∨ c.isLower = true := Bool.or_eq_true_iff.mp hc
  rcases hcases with hupper | hlower
  · exact .inl (of_decide_eq_true hupper)
  · obtain ⟨hlow, hhigh⟩ := Bool.and_eq_true_iff.mp hlower
    exact .inr ⟨of_decide_eq_true hlow, of_decide_eq_true hhigh⟩

theorem isBlank_of_bounds (hlow : 0x20 < c.toNat) (hhigh : c.toNat < 0x85) :
    Text.isBlank c = false := by
  simp [Text.isBlank]
  omega

/-! ### Tokens at the beginning of a text -/

theorem takeEnclosed_cons_of_ne {mark : Char} (hc : c ≠ mark) (s : List Char) :
    takeEnclosed mark (c :: s) = (takeEnclosed mark s).map fun x => (c :: x.1, x.2) := by
  cases s with
  | nil =>
    rw [takeEnclosed, takeEnclosed, if_neg hc]
    rfl
  | cons d s => rw [takeEnclosed, if_neg hc]

/-- What is put between marks is taken back out. -/
theorem takeEnclosed_replaceChar (mark : Char) (s : List Char) (hr : r.head? ≠ some mark) :
    takeEnclosed mark (Text.replaceChar mark [mark, mark] s ++ mark :: r) = some (s, r) := by
  unfold Text.replaceChar
  induction s with
  | nil =>
    rw [List.flatMap_nil, List.nil_append]
    cases r with
    | nil => rw [takeEnclosed, if_pos rfl]
    | cons d r =>
      have hd : d ≠ mark := fun h => hr (congrArg some h)
      rw [takeEnclosed, if_pos rfl, if_neg hd]
  | cons c s ih =>
    rw [List.flatMap_cons, List.append_assoc]
    by_cases hc : c = mark
    · subst hc
      rw [if_pos rfl, List.cons_append, List.cons_append, List.nil_append, takeEnclosed, if_pos rfl,
        if_pos rfl, ih, Option.map_some]
    · rw [if_neg hc, List.singleton_append, takeEnclosed_cons_of_ne hc, ih, Option.map_some]

theorem lex_quoteName (s : String) (hr : r.head? ≠ some '"') :
    lex (quoteName s ++ r) = (lex r).map (.quoted s :: ·) := by
  have hfirst : first '"' (Text.replaceChar '"' ['"', '"'] s.toList ++ '"' :: r) =
      some (some (.quoted s), r) := by
    rw [first, if_pos rfl, takeEnclosed_replaceChar '"' s.toList hr, Option.map_some]
    dsimp only
    rw [String.ofList_toList]
  unfold quoteName enclosed
  rw [List.cons_append, List.append_assoc, List.singleton_append, lex_cons, hfirst]
  rfl

theorem lex_space (r : List Char) : lex (' ' :: r) = lex r := by
  have hfirst : first ' ' r = some (none, r) := rfl
  rw [lex_cons, hfirst]
  exact Option.map_id'

theorem lex_symbol (hfirst : first c r = some (some (.symbol (String.singleton c)), r)) :
    lex (c :: r) = (lex r).map (.symbol (String.singleton c) :: ·) := by
  rw [lex_cons, hfirst]
  rfl

/-- What is neither a mark nor blank begins digits, a word or a symbol. -/
theorem first_of_plain
    (hmark : c.toNat ≠ 34 ∧ c.toNat ≠ 39 ∧ c.toNat ≠ 45 ∧ c.toNat ≠ 62)
    (hblank : Text.isBlank c = false) (r : List Char) :
    first c r =
      if isDigit c then
        some (some (.number (ofDigits (c :: r.takeWhile isDigit))), r.dropWhile isDigit)
      else if startsWord c then
        some (some (.word (String.ofList (c :: r.takeWhile isWordChar))), r.dropWhile isWordChar)
      else some (some (.symbol (String.singleton c)), r) := by
  have hdouble : c ≠ '"' := fun h => hmark.1 (h ▸ rfl)
  have hsingle : c ≠ '\'' := fun h => hmark.2.1 (h ▸ rfl)
  have hdash : ¬(c = '-' ∧ r.head? = some '-') := fun h => hmark.2.2.1 (h.1 ▸ rfl)
  have hgreater : ¬(c = '>' ∧ r.head? = some '=') := fun h => hmark.2.2.2 (h.1 ▸ rfl)
  rw [first, if_neg hdouble, if_neg hsingle, if_neg hdash, if_neg hgreater, hblank]
  rfl

theorem lex_word {w : List Char} (hc : c.isAlpha = true) (hw : ∀ d ∈ w, isWordChar d = true)
    (hr : ∀ d ∈ r.head?, isWordChar d = false) :
    lex (c :: w ++ r) = (lex r).map (.word (String.ofList (c :: w)) :: ·) := by
  have hbounds := bounds_of_isAlpha hc
  have hdigit : isDigit c = false := by
    refine Bool.eq_false_iff.mpr fun h => ?_
    have := bounds_of_isDigit h
    omega
  have hstart : startsWord c = true := by
    rw [startsWord, hc]
    rfl
  obtain ⟨htake, hdrop⟩ := Text.span_append hw hr
  have hfirst : first c (w ++ r) = some (some (.word (String.ofList (c :: w))), r) := by
    rw [first_of_plain (by omega) (isBlank_of_bounds (by omega) (by omega)), hdigit, hstart, htake,
      hdrop]
    rfl
  rw [List.cons_append, lex_cons, hfirst]
  rfl

theorem lex_digits {ds : List Char} (hds : ∀ d ∈ ds, isDigit d = true) (hne : ds ≠ [])
    (hr : ∀ d ∈ r.head?, isDigit d = false) :
    lex (ds ++ r) = (lex r).map (.number (ofDigits ds) :: ·) := by
  obtain ⟨c, ds, rfl⟩ := List.exists_cons_of_ne_nil hne
  have hdigit := hds c List.mem_cons_self
  have hbounds := bounds_of_isDigit hdigit
  obtain ⟨htake, hdrop⟩ := Text.span_append (fun d hd => hds d (List.mem_cons_of_mem c hd)) hr
  have hfirst : first c (ds ++ r) = some (some (.number (ofDigits (c :: ds))), r) := by
    rw [first_of_plain (by omega) (isBlank_of_bounds (by omega) (by omega)), hdigit, htake, hdrop]
    rfl
  rw [List.cons_append, lex_cons, hfirst]
  rfl

theorem lex_toDigits (n : Nat) (hr : ∀ d ∈ r.head?, isDigit d = false) :
    lex (Nat.toDigits 10 n ++ r) = (lex r).map (.number n :: ·) := by
  have hvalue : ofDigits (Nat.toDigits 10 n) = n := Nat.ofDigitChars_ten_toDigits
  rw [lex_digits (fun _ => isDigit_of_mem_toDigits) Nat.toDigits_ne_nil hr, hvalue]

/-- A word with a space behind it. -/
theorem lex_word_space {w : List Char} (hc : c.isAlpha = true) (hw : w.all isWordChar = true)
    (r : List Char) :
    lex (c :: w ++ ' ' :: r) = (lex r).map (.word (String.ofList (c :: w)) :: ·) := by
  have hspace : ∀ d ∈ (' ' :: r).head?, isWordChar d = false := by
    rintro d ⟨⟩
    rfl
  rw [lex_word hc (List.all_eq_true.mp hw) hspace, lex_space]

/-- Quoted names with commas between them. -/
def ofNames (names : List String) : List SqlToken := (names.map quoted).intersperse (.symbol ",")

/-- The name that a token stands for. -/
def name? : SqlToken → Option String
  | .quoted s => some s
  | _ => none

theorem filterMap_ofNames (names : List String) : (ofNames names).filterMap name? = names := by
  induction names with
  | nil => rfl
  | cons n names ih =>
    cases names with
    | nil => rfl
    | cons m names =>
      change n :: (ofNames (m :: names)).filterMap name? = n :: m :: names
      rw [ih]

theorem ofNames_injective : Function.Injective ofNames := by
  intro names others h
  calc names = (ofNames names).filterMap name? := (filterMap_ofNames names).symm
    _ = (ofNames others).filterMap name? := by rw [h]
    _ = others := filterMap_ofNames others

theorem lex_names (names : List String) (hr : r.head? ≠ some '"') :
    lex (Text.joinWith ", ".toList (names.map quoteName) ++ r) = (lex r).map (ofNames names ++ ·) := by
  induction names with
  | nil => exact Option.map_id'.symm
  | cons n names ih =>
    cases names with
    | nil => exact lex_quoteName n hr
    | cons m names =>
      have hcomma (r : List Char) : lex (',' :: r) = (lex r).map (.symbol "," :: ·) := lex_symbol rfl
      let rest := Text.joinWith ", ".toList ((m :: names).map quoteName) ++ r
      have htext : Text.joinWith ", ".toList ((n :: m :: names).map quoteName) ++ r =
          quoteName n ++ ',' :: ' ' :: rest := by
        simp [rest, Text.joinWith]
      rw [htext, lex_quoteName n (by simp), hcomma, lex_space, ih, Option.map_map, Option.map_map]
      rfl

end SqlToken

end Causeway.Relational
