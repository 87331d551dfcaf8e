import Causeway.Text.Blank
import Causeway.Text.Case

/-!
# Lower case is settled at once

No range of the case table covers an image of one (`CaseRange.passes`), so the characters of a text in
lower case are their own lower case (`isLower_of_mem_lower`) and lowering a text again changes nothing.
White space neither comes nor goes.
-/

namespace Causeway.Text

/-! ### The table -/

namespace CaseRange

variable {r s : CaseRange} {n : Nat}

/-- A quick test that the images of `r` are not covered by `s`: they lie to one side of it, or both
step by two and out of phase. -/
def passes (s r : CaseRange) : Bool :=
  (r.image + (r.last - r.first)).blt s.first || s.last.blt r.image ||
    (s.step.beq 2 && (r.step.beq 2 || r.first.beq r.last) && ((r.image + s.first) % 2).beq 1)

/-- Whether no image of the range is a given code point. -/
def avoids (n : Nat) (r : CaseRange) : Bool :=
  (r.image + (r.last - r.first)).blt n || n.blt r.image

theorem covers_iff : r.covers n = true ↔ r.first ≤ n ∧ n ≤ r.last ∧ (n - r.first) % r.step = 0 := by
  simp [covers, and_assoc]

theorem le_apply (r : CaseRange) (n : Nat) : r.image ≤ r.apply n := Nat.le_add_right _ _

theorem apply_le (h : r.covers n = true) : r.apply n ≤ r.image + (r.last - r.first) := by
  obtain ⟨-, hlast, -⟩ := covers_iff.mp h
  exact Nat.add_le_add_left (Nat.sub_le_sub_right hlast _) _

theorem apply_ne (h : r.avoids n = true) {m : Nat} (hm : r.covers m = true) : r.apply m ≠ n := by
  have hlow := le_apply r m
  have hhigh := apply_le hm
  rcases Bool.or_eq_true_iff.mp h with hbelow | habove
  · have := Nat.blt_eq.mp hbelow
    omega
  · have := Nat.blt_eq.mp habove
    omega

theorem not_covers_apply (h : s.passes r = true) (hn : r.covers n = true) :
    s.covers (r.apply n) = false := by
  refine Bool.eq_false_iff.mpr fun hcovers => ?_
  obtain ⟨hfirst, hlast, hphase⟩ := covers_iff.mp hcovers
  have hlow := le_apply r n
  have hhigh := apply_le hn
  simp only [passes, Bool.or_eq_true, Bool.and_eq_true, Nat.blt_eq, Nat.beq_eq] at h
  rcases h with (hbelow | habove) | ⟨⟨hstep, hsingle⟩, hodd⟩
  · omega
  · omega
  · -- an even distance from an image that is out of phase
    obtain ⟨hrfirst, hrlast, hrphase⟩ := covers_iff.mp hn
    have heven : (n - r.first) % 2 = 0 := by
      rcases hsingle with hrstep | hrone
      · rwa [hrstep] at hrphase
      · omega
    rw [hstep] at hphase
    unfold apply at hphase hfirst
    omega

end CaseRange

/-- Code points that no mapping to lower case changes. -/
def Unmapped (n : Nat) : Prop :=
  CaseTable.lowerSeveral.lookup n = none ∧ ∀ s ∈ CaseTable.lower, s.covers n = false

instance (n : Nat) : Decidable (Unmapped n) := instDecidableAnd

theorem passes_lower :
    (CaseTable.lower.all fun r => CaseTable.lower.all fun s => s.passes r) = true := by
  decide +kernel

/-- A dotted capital is the only one with several characters. -/
theorem lookup_lowerSeveral {n : Nat} (hn : n ≠ 0x130) : CaseTable.lowerSeveral.lookup n = none := by
  rw [CaseTable.lowerSeveral, List.lookup_cons, beq_eq_false_iff_ne.mpr hn]
  rfl

theorem unmapped_of_not_covered {n : Nat} (hn : n ≠ 0x130)
    (h : ∀ s ∈ CaseTable.lower, s.covers n = false) : Unmapped n :=
  ⟨lookup_lowerSeveral hn, h⟩

/-- What a range gives is given by no range. -/
theorem unmapped_apply {r : CaseRange} {n : Nat} (hr : r ∈ CaseTable.lower)
    (hn : r.covers n = true) : Unmapped (r.apply n) := by
  have havoids : ∀ r ∈ CaseTable.lower, r.avoids 0x130 = true := by decide +kernel
  refine unmapped_of_not_covered (CaseRange.apply_ne (havoids r hr) hn) fun s hs => ?_
  have hpasses := List.all_eq_true.mp (List.all_eq_true.mp passes_lower r hr) s hs
  exact CaseRange.not_covers_apply hpasses hn

theorem toNat_apply {r : CaseRange} {n : Nat} (hr : r ∈ CaseTable.lower)
    (hn : r.covers n = true) : (Char.ofNat (r.apply n)).toNat = r.apply n := by
  have hvalid : ∀ r ∈ CaseTable.lower, r.image + (r.last - r.first) < 0xD800 ∨
      0xDFFF < r.image ∧ r.image + (r.last - r.first) < 0x110000 := by
    decide +kernel
  have hlow := CaseRange.le_apply r n
  have hhigh := CaseRange.apply_le hn
  have hscalar : (r.apply n).isValidChar := by
    unfold Nat.isValidChar
    have := hvalid r hr
    omega
  rw [Char.ofNat, dif_pos hscalar]
  rfl

/-! ### Characters -/

/-- A character that is its own lower case wherever it stands. -/
def IsLower (c : Char) : Prop := Unmapped c.toNat

instance (c : Char) : Decidable (IsLower c) := inferInstanceAs (Decidable (Unmapped _))

theorem isLower_ne_sigma {c : Char} (h : IsLower c) : c ≠ 'Σ' := by
  rintro rfl
  exact absurd h (by decide +kernel)

theorem lowerChar_of_isLower {c : Char} (h : IsLower c) : lowerChar c = [c] := by
  have hfind : CaseTable.lower.find? (·.covers c.toNat) = none :=
    List.find?_eq_none.mpr fun s hs => by simp [h.2 s hs]
  rw [lowerChar, caseOf, h.1, mapCase, hfind]
  exact congrArg (fun d => [d]) c.ofNat_toNat

/-- A character that is not its own lower case has one of several characters, or one by a range. -/
theorem lowerChar_cases (c : Char) :
    IsLower c ∨ lowerChar c = ['i', '\u0307'] ∨
      ∃ r ∈ CaseTable.lower, r.covers c.toNat = true ∧ lowerChar c = [Char.ofNat (r.apply c.toNat)] := by
  by_cases hdot : c.toNat = 0x130
  · refine .inr (.inl ?_)
    rw [lowerChar, caseOf, hdot]
    rfl
  · cases hfind : CaseTable.lower.find? (·.covers c.toNat) with
    | none =>
      refine .inl (unmapped_of_not_covered hdot fun s hs => ?_)
      simpa using List.find?_eq_none.mp hfind s hs
    | some r =>
      have hcovers : r.covers c.toNat = true := by simpa using List.find?_some hfind
      refine .inr (.inr ⟨r, List.mem_of_find?_eq_some hfind, hcovers, ?_⟩)
      rw [lowerChar, caseOf, lookup_lowerSeveral hdot, mapCase, hfind]

theorem isLower_of_mem_lowerChar {c d : Char} (h : d ∈ lowerChar c) : IsLower d := by
  rcases lowerChar_cases c with hlower | hdotted | ⟨r, hr, hcovers, himage⟩
  · rw [lowerChar_of_isLower hlower, List.mem_singleton] at h
    exact h ▸ hlower
  · have hboth : ∀ d ∈ ['i', '\u0307'], IsLower d :=
      List.forall_mem_cons.mpr ⟨by decide +kernel, List.forall_mem_singleton.mpr (by decide +kernel)⟩
    exact hboth d (hdotted ▸ h)
  · rw [himage, List.mem_singleton] at h
    rw [h, IsLower, toNat_apply hr hcovers]
    exact unmapped_apply hr hcovers

/-- The white space of the character database, by code points. -/
def blankCodes : List Nat := [
  0x9, 0xA, 0xB, 0xC, 0xD, 0x20, 0x85, 0xA0, 0x1680, 0x2000, 0x2001, 0x2002, 0x2003, 0x2004, 0x2005,
  0x2006, 0x2007, 0x2008, 0x2009, 0x200A, 0x2028, 0x2029, 0x202F, 0x205F, 0x3000]

theorem mem_blankCodes {c : Char} (h : isBlank c = true) : c.toNat ∈ blankCodes := by
  simp only [isBlank, Bool.or_eq_true, Bool.and_eq_true, decide_eq_true_eq, beq_iff_eq] at h
  simp only [blankCodes, List.mem_cons, List.not_mem_nil, or_false]
  omega

theorem isBlank_lowerChar {c d : Char} (hc : isBlank c = false) (hd : d ∈ lowerChar c) :
    isBlank d = false := by
  rcases lowerChar_cases c with hlower | hdotted | ⟨r, hr, hcovers, himage⟩
  · rw [lowerChar_of_isLower hlower, List.mem_singleton] at hd
    rwa [hd]
  · have hboth : ∀ d ∈ ['i', '\u0307'], isBlank d = false :=
      List.forall_mem_cons.mpr ⟨rfl, List.forall_mem_singleton.mpr rfl⟩
    exact hboth d (hdotted ▸ hd)
  · rw [himage, List.mem_singleton] at hd
    have havoids : ∀ r ∈ CaseTable.lower, ∀ n ∈ blankCodes, r.avoids n = true := by decide +kernel
    refine Bool.eq_false_iff.mpr fun hblank => ?_
    have hmem := mem_blankCodes hblank
    rw [hd, toNat_apply hr hcovers] at hmem
    exact CaseRange.apply_ne (havoids r hr _ hmem) hcovers rfl

/-! ### Texts -/

/-- What a character becomes in a text. -/
theorem lowerFrom_cons (before : List Char) (c : Char) (r : List Char) :
    ∃ image, lowerFrom before (c :: r) = image ++ lowerFrom (c :: before) r ∧
      (image = lowerChar c ∨ c = 'Σ' ∧ (image = ['ς'] ∨ image = ['σ'])) := by
  rw [lowerFrom]
  refine ⟨_, rfl, ?_⟩
  by_cases hc : c = 'Σ'
  · rw [if_pos hc]
    refine .inr ⟨hc, ?_⟩
    split
    · exact .inl rfl
    · exact .inr rfl
  · exact .inl (if_neg hc)

theorem isLower_of_mem_lowerFrom {before s : List Char} {d : Char} (h : d ∈ lowerFrom before s) :
    IsLower d := by
  induction s generalizing before with
  | nil => exact absurd h List.not_mem_nil
  | cons c r ih =>
    obtain ⟨image, hcons, himage⟩ := lowerFrom_cons before c r
    rw [hcons, List.mem_append] at h
    rcases h with h | h
    · rcases himage with rfl | ⟨-, rfl | rfl⟩
      · exact isLower_of_mem_lowerChar h
      · have hfinal : IsLower 'ς' := by decide +kernel
        exact List.mem_singleton.mp h ▸ hfinal
      · have hinner : IsLower 'σ' := by decide +kernel
        exact List.mem_singleton.mp h ▸ hinner
    · exact ih h

theorem isLower_of_mem_lower {s : List Char} {d : Char} (h : d ∈ lower s) : IsLower d :=
  isLower_of_mem_lowerFrom h

theorem lower_eq_self {s : List Char} (h : ∀ c ∈ s, IsLower c) : lower s = s := by
  suffices hfrom : ∀ before, lowerFrom before s = s from hfrom []
  induction s with
  | nil => exact fun before => rfl
  | cons c r ih =>
    intro before
    have hc := h c List.mem_cons_self
    rw [lowerFrom, if_neg (isLower_ne_sigma hc), lowerChar_of_isLower hc,
      ih (fun d hd => h d (List.mem_cons_of_mem c hd))]
    rfl

end Causeway.Text
