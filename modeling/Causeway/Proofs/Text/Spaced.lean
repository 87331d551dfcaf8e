import Causeway.Proofs.Text.Lower
import Causeway.Proofs.Text.Words
import Causeway.Text.Search
import Mathlib.Data.List.Chain
import Mathlib.Data.List.DropRight

/-!
# Texts with single blanks

A text is spaced when its white space is single blanks. The words of any text joined by a blank are
spaced (`spaced_joinWords`), pieces of spaced texts are, and so is their lower case; joining the words
of a spaced text again only trims it (`joinWords_of_spaced`). What follows the last occurrence of a
marker holds it no more (`not_infix_afterLast?`).
-/

namespace Causeway.Text

/-- The words with one blank between neighbours. -/
def joinWords (s : List Char) : List Char := joinWith [' '] (words s)

/-- No white space but blanks, and no two of them in a row. -/
structure Spaced (s : List Char) : Prop where
  apart : s.IsChain fun a b => ¬(isBlank a = true ∧ isBlank b = true)
  blanks : ∀ c ∈ s, isBlank c = true → c = ' '

namespace Spaced

variable {s t : List Char} {c : Char}

theorem nil : Spaced [] := ⟨List.isChain_nil, fun _ h => absurd h List.not_mem_nil⟩

theorem cons_iff : Spaced (c :: s) ↔
    (isBlank c = true → c = ' ' ∧ ∀ d ∈ s.head?, isBlank d = false) ∧ Spaced s := by
  constructor
  · rintro ⟨hchain, hblanks⟩
    obtain ⟨hhead, hchain⟩ := List.isChain_cons.mp hchain
    refine ⟨fun hc => ⟨hblanks c List.mem_cons_self hc, fun d hd => ?_⟩, hchain,
      fun d hd => hblanks d (List.mem_cons_of_mem c hd)⟩
    exact Bool.eq_false_iff.mpr fun hblank => hhead d hd ⟨hc, hblank⟩
  · rintro ⟨hc, hchain, hblanks⟩
    refine ⟨List.isChain_cons.mpr ⟨fun d hd hboth => ?_, hchain⟩, fun d hd hblank => ?_⟩
    · rw [(hc hboth.1).2 d hd] at hboth
      cases hboth.2
    · rcases List.mem_cons.mp hd with rfl | hd
      · exact (hc hblank).1
      · exact hblanks d hd hblank

theorem of_part (h : Spaced s) (ht : t <:+: s) : Spaced t where
  apart := List.IsChain.infix h.apart ht
  blanks c hc := h.blanks c (ht.subset hc)

/-- A word in front of a text that does not go on with one. -/
theorem append_of_word (hs : ∀ c ∈ s, isBlank c = false) (ht : Spaced t) : Spaced (s ++ t) := by
  induction s with
  | nil => exact ht
  | cons c s ih =>
    refine cons_iff.mpr ⟨fun hc => ?_, ih fun d hd => hs d (List.mem_cons_of_mem c hd)⟩
    rw [hs c List.mem_cons_self] at hc
    cases hc

end Spaced

/-! ### Words joined -/

theorem not_blank_of_mem_words {s w : List Char} (hw : w ∈ words s) :
    w ≠ [] ∧ ∀ c ∈ w, isBlank c = false := by
  obtain ⟨hpiece, hne⟩ := List.mem_filter.mp hw
  exact ⟨by simpa using hne, fun c hc => (mem_of_mem_splitWhen hpiece hc).2⟩

/-- The first and the last character of words that are joined belong to words. -/
theorem spaced_joinWith {l : List (List Char)}
    (h : ∀ w ∈ l, w ≠ [] ∧ ∀ c ∈ w, isBlank c = false) :
    Spaced (joinWith [' '] l) ∧ ∀ c ∈ (joinWith [' '] l).head?, isBlank c = false := by
  induction l with
  | nil => exact ⟨Spaced.nil, fun c hc => by cases hc⟩
  | cons w l ih =>
    obtain ⟨hne, hword⟩ := h w List.mem_cons_self
    obtain ⟨a, v, rfl⟩ := List.exists_cons_of_ne_nil hne
    cases l with
    | nil =>
      refine ⟨?_, fun c hc => ?_⟩
      · have hspaced := Spaced.append_of_word hword Spaced.nil
        rwa [List.append_nil] at hspaced
      · obtain rfl : a = c := by simpa [joinWith] using hc
        exact hword a List.mem_cons_self
    | cons x l =>
      obtain ⟨hrest, hhead⟩ := ih fun y hy => h y (List.mem_cons_of_mem _ hy)
      have htail : Spaced (' ' :: joinWith [' '] (x :: l)) :=
        Spaced.cons_iff.mpr ⟨fun _ => ⟨rfl, hhead⟩, hrest⟩
      refine ⟨?_, fun c hc => ?_⟩
      · rw [joinWith_cons_cons, List.append_assoc]
        exact Spaced.append_of_word hword htail
      · obtain rfl : a = c := by simpa [joinWith] using hc
        exact hword a List.mem_cons_self

theorem spaced_joinWords (s : List Char) : Spaced (joinWords s) :=
  (spaced_joinWith fun _ => not_blank_of_mem_words).1

theorem head_joinWords {s : List Char} : ∀ c ∈ (joinWords s).head?, isBlank c = false :=
  (spaced_joinWith fun _ => not_blank_of_mem_words).2

/-! ### Spaced texts come back -/

theorem words_cons_of_blank {c : Char} (hc : isBlank c = true) (s : List Char) :
    words (c :: s) = words s := by
  rw [words, splitWhen_cons_of_pos hc]
  rfl

/-- Blanks between the pieces give the text again, if blanks are what it was cut at. -/
theorem joinWith_splitWhen {s : List Char} (h : ∀ c ∈ s, isBlank c = true → c = ' ') :
    joinWith [' '] (splitWhen isBlank s) = s := by
  induction s with
  | nil => rfl
  | cons c s ih =>
    specialize ih fun d hd => h d (List.mem_cons_of_mem c hd)
    cases hc : isBlank c with
    | true =>
      obtain rfl : c = ' ' := h c List.mem_cons_self hc
      obtain ⟨w, ws, hs⟩ := List.exists_cons_of_ne_nil (splitWhen_ne_nil isBlank s)
      rw [splitWhen_cons_of_pos hc, hs, joinWith_cons_cons, ← hs, ih]
      rfl
    | false =>
      obtain ⟨w, ws, hs, hcons⟩ := splitWhen_cons_of_neg (l := s) hc
      rw [hcons]
      rw [hs] at ih
      cases ws with
      | nil => exact congrArg (c :: ·) ih
      | cons v ws => exact congrArg (c :: ·) ih

/-- A spaced text with a word at its end has nothing between its blanks only in front. -/
theorem exists_splitWhen_of_spaced {s : List Char} (h : Spaced s) (hne : s ≠ [])
    (hlast : isBlank (s.getLast hne) = false) :
    ∃ w ws, splitWhen isBlank s = w :: ws ∧ (∀ v ∈ ws, v ≠ []) ∧
      ((∀ c ∈ s.head?, isBlank c = false) → w ≠ []) := by
  induction s with
  | nil => exact absurd rfl hne
  | cons c s ih =>
    obtain ⟨hhead, hs⟩ := Spaced.cons_iff.mp h
    cases hc : isBlank c with
    | false =>
      obtain ⟨w, ws, hsplit, hcons⟩ := splitWhen_cons_of_neg (l := s) hc
      refine ⟨c :: w, ws, hcons, ?_, fun _ => List.cons_ne_nil c w⟩
      by_cases hnil : s = []
      · subst hnil
        obtain ⟨-, rfl⟩ := List.cons.inj hsplit
        exact fun v hv => absurd hv List.not_mem_nil
      · obtain ⟨w', ws', hsplit', hrest, -⟩ := ih hs hnil (by rwa [List.getLast_cons hnil] at hlast)
        rw [hsplit] at hsplit'
        obtain ⟨-, rfl⟩ := List.cons.inj hsplit'
        exact hrest
    | true =>
      have hnil : s ≠ [] := by
        rintro rfl
        rw [List.getLast_singleton, hc] at hlast
        cases hlast
      obtain ⟨w, ws, hsplit, hrest, hfirst⟩ := ih hs hnil (by rwa [List.getLast_cons hnil] at hlast)
      refine ⟨[], w :: ws, ?_, ?_, ?_⟩
      · rw [splitWhen_cons_of_pos hc, hsplit]
      · exact List.forall_mem_cons.mpr ⟨hfirst (hhead hc).2, hrest⟩
      · intro hhead'
        rw [hhead' c rfl] at hc
        cases hc

/-- Joining the words of a spaced text that ends in one takes off a blank in front. -/
theorem joinWords_of_spaced {s : List Char} (h : Spaced s)
    (hlast : ∀ hne : s ≠ [], isBlank (s.getLast hne) = false) : joinWords s = trimStart s := by
  -- a text that begins with a word is its words joined
  have hword : ∀ t, Spaced t → (∀ hne : t ≠ [], isBlank (t.getLast hne) = false) →
      (∀ c ∈ t.head?, isBlank c = false) → joinWords t = t := by
    intro t ht htlast hhead
    by_cases hne : t = []
    · subst hne
      rfl
    · obtain ⟨w, ws, hsplit, hrest, hfirst⟩ := exists_splitWhen_of_spaced ht hne (htlast hne)
      have hkeep : words t = splitWhen isBlank t := by
        refine List.filter_eq_self.mpr ?_
        rw [hsplit, List.forall_mem_cons]
        exact ⟨by simpa using hfirst hhead, fun v hv => by simpa using hrest v hv⟩
      rw [joinWords, hkeep, joinWith_splitWhen ht.blanks]
  cases s with
  | nil => rfl
  | cons c s =>
    obtain ⟨hhead, hs⟩ := Spaced.cons_iff.mp h
    cases hc : isBlank c with
    | false =>
      rw [trimStart, List.dropWhile_cons_of_neg (by simp [hc])]
      refine hword _ h hlast fun d hd => ?_
      obtain rfl := Option.some.inj hd
      exact hc
    | true =>
      have hslast : ∀ hne : s ≠ [], isBlank (s.getLast hne) = false := by
        intro hne
        have := hlast (List.cons_ne_nil c s)
        rwa [List.getLast_cons hne] at this
      rw [joinWords, words_cons_of_blank hc, ← joinWords, hword s hs hslast (hhead hc).2, trimStart,
        List.dropWhile_cons_of_pos hc]
      cases s with
      | nil => rfl
      | cons d s =>
        rw [List.dropWhile_cons_of_neg]
        simp [(hhead hc).2 d rfl]

/-! ### Lower case -/

theorem spaced_lowerFrom {b s : List Char} (h : Spaced s) :
    Spaced (lowerFrom b s) ∧
      ((∀ c ∈ s.head?, isBlank c = false) → ∀ d ∈ (lowerFrom b s).head?, isBlank d = false) := by
  induction s generalizing b with
  | nil => exact ⟨Spaced.nil, fun _ d hd => by cases hd⟩
  | cons c s ih =>
    obtain ⟨hhead, hs⟩ := Spaced.cons_iff.mp h
    obtain ⟨hrest, hfirst⟩ := ih (b := c :: b) hs
    obtain ⟨image, hcons, himage⟩ := lowerFrom_cons b c s
    rw [hcons]
    cases hc : isBlank c with
    | true =>
      -- a blank is its own lower case
      obtain ⟨rfl, hnext⟩ := hhead hc
      have hblank : lowerChar ' ' = [' '] := lowerChar_of_isLower (by decide +kernel)
      obtain rfl : image = [' '] := by
        rcases himage with rfl | ⟨hsigma, -⟩
        · exact hblank
        · exact absurd hsigma (by decide)
      refine ⟨Spaced.cons_iff.mpr ⟨fun _ => ⟨rfl, hfirst hnext⟩, hrest⟩, fun hnot => ?_⟩
      rw [hnot _ rfl] at hc
      cases hc
    | false =>
      have hword : image ≠ [] ∧ ∀ d ∈ image, isBlank d = false := by
        rcases himage with rfl | ⟨-, rfl | rfl⟩
        · refine ⟨fun hnil => ?_, fun d hd => isBlank_lowerChar hc hd⟩
          rcases lowerChar_cases c with hlower | hdotted | ⟨r, -, -, hone⟩
          · rw [lowerChar_of_isLower hlower] at hnil
            cases hnil
          · rw [hdotted] at hnil
            cases hnil
          · rw [hone] at hnil
            cases hnil
        · exact ⟨List.cons_ne_nil _ _, List.forall_mem_singleton.mpr rfl⟩
        · exact ⟨List.cons_ne_nil _ _, List.forall_mem_singleton.mpr rfl⟩
      obtain ⟨hne, hword⟩ := hword
      refine ⟨Spaced.append_of_word hword hrest, fun _ d hd => ?_⟩
      obtain ⟨a, v, rfl⟩ := List.exists_cons_of_ne_nil hne
      obtain rfl := Option.some.inj hd
      exact hword a List.mem_cons_self

theorem spaced_lower {s : List Char} (h : Spaced s) : Spaced (lower s) := (spaced_lowerFrom h).1

theorem head_lower {s : List Char} (h : Spaced s) (hhead : ∀ c ∈ s.head?, isBlank c = false) :
    ∀ d ∈ (lower s).head?, isBlank d = false :=
  (spaced_lowerFrom h).2 hhead

/-! ### Trimming at the end -/

theorem trimEnd_eq_rdropWhile (s : List Char) : trimEnd s = s.rdropWhile isBlank := rfl

theorem trimEnd_prefix (s : List Char) : trimEnd s <+: s := List.rdropWhile_prefix isBlank s

theorem trimEnd_eq_self_iff {s : List Char} :
    trimEnd s = s ↔ ∀ hne : s ≠ [], isBlank (s.getLast hne) = false := by
  rw [trimEnd_eq_rdropWhile, List.rdropWhile_eq_self_iff]
  simp only [Bool.not_eq_true]

theorem last_trimEnd (s : List Char) :
    ∀ hne : trimEnd s ≠ [], isBlank ((trimEnd s).getLast hne) = false :=
  fun hne => Bool.eq_false_iff.mpr (List.rdropWhile_last_not isBlank s hne)

theorem trimEnd_eq_nil_iff {s : List Char} : trimEnd s = [] ↔ ∀ c ∈ s, isBlank c = true :=
  List.rdropWhile_eq_nil_iff

/-! ### After the last occurrence -/

section Marker

variable {marker s t : List Char}

theorem afterLast?_eq_none_iff (hm : marker ≠ []) :
    afterLast? marker s = none ↔ ¬marker <:+: s := by
  induction s with
  | nil =>
    obtain ⟨a, m, rfl⟩ := List.exists_cons_of_ne_nil hm
    simp [afterLast?]
  | cons c s ih =>
    rw [afterLast?, List.infix_cons_iff]
    cases hs : afterLast? marker s with
    | some t =>
      have hpart : marker <:+: s := by
        refine Classical.not_not.mp fun hnot => ?_
        rw [ih.mpr hnot] at hs
        cases hs
      simp [hpart]
    | none =>
      have hnot : ¬marker <:+: s := ih.mp hs
      by_cases hprefix : marker <+: c :: s
      · simp [List.isPrefixOf_iff_prefix.mpr hprefix, hprefix]
      · simp [List.isPrefixOf_iff_prefix, hprefix, hnot]

theorem afterLast?_eq_some (h : afterLast? marker s = some t) : marker ++ t <:+ s := by
  induction s with
  | nil =>
    cases marker with
    | nil =>
      obtain rfl : [] = t := by simpa [afterLast?] using h
      exact List.suffix_refl _
    | cons a m => cases h
  | cons c s ih =>
    rw [afterLast?] at h
    split at h
    · rename_i u hu
      obtain rfl := Option.some.inj h
      exact (ih hu).trans (List.suffix_cons c s)
    · split at h
      · rename_i hprefix
        obtain ⟨u, hu⟩ := List.isPrefixOf_iff_prefix.mp hprefix
        obtain rfl := Option.some.inj h
        have hdrop : (c :: s).drop marker.length = u := by rw [← hu, List.drop_left]
        exact ⟨[], by rw [hdrop, List.nil_append, hu]⟩
      · cases h

/-- What follows the last occurrence of a marker holds the marker no more, if this cannot overlap
itself. -/
theorem not_infix_afterLast? (hm : marker ≠ []) (h : afterLast? marker s = some t) :
    ¬marker <:+: t := by
  induction s with
  | nil =>
    cases marker with
    | nil => exact absurd rfl hm
    | cons a m => cases h
  | cons c s ih =>
    rw [afterLast?] at h
    split at h
    · rename_i u hu
      obtain rfl := Option.some.inj h
      exact ih hu
    · rename_i hnone
      split at h
      · obtain rfl := Option.some.inj h
        obtain ⟨a, m, rfl⟩ := List.exists_cons_of_ne_nil hm
        have hsuffix : (c :: s).drop (a :: m).length <:+ s := by
          rw [List.length_cons, List.drop_succ_cons]
          exact List.drop_suffix _ _
        intro hpart
        exact (afterLast?_eq_none_iff hm).mp hnone (hpart.trans hsuffix.isInfix)
      · cases h

end Marker

end Causeway.Text
