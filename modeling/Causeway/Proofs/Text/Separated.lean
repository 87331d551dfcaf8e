import Causeway.Proofs.Text.Spaced

/-!
# Texts between separators

A piece between separators does not hold the separator, and neither does any part of it, so cutting what
is left of a piece after trimming does nothing more (`parts_of_mem_parts`). Trimmed texts that share no
character with the separator are the parts of what they are joined to (`parts_joinWith`). Without the
second condition a separator may be found across the end of a text.
-/

namespace Causeway.Text

variable {sep s t w : List Char} {c : Char} {l : List (List Char)}

/-! ### Trimming at both ends -/

/-- No white space at the two ends. -/
structure Trimmed (s : List Char) : Prop where
  head : ∀ c ∈ s.head?, isBlank c = false
  last : ∀ c ∈ s.getLast?, isBlank c = false

theorem trimmed_of_all (h : s.all (fun c => !isBlank c) = true) : Trimmed s := by
  have hnot : ∀ c ∈ s, isBlank c = false := by simpa using h
  exact ⟨fun c hc => hnot c (List.mem_of_mem_head? hc),
    fun c hc => hnot c (List.mem_of_mem_getLast? hc)⟩

theorem trimmed_trim (s : List Char) : Trimmed (trim s) := by
  constructor
  · intro c hc
    obtain ⟨r, hr⟩ := trimEnd_prefix (trimStart s)
    have hstart : c ∈ (trimStart s).head? := by
      rw [← hr]
      exact List.mem_head?_append_of_mem_head? hc
    have hhead := List.head?_dropWhile_not isBlank s
    rw [← trimStart, Option.mem_def.mp hstart] at hhead
    simpa using hhead
  · intro c hc
    obtain ⟨hne, rfl⟩ := List.mem_getLast?_eq_getLast hc
    exact last_trimEnd (trimStart s) hne

theorem Trimmed.trim_eq (h : Trimmed s) : trim s = s := by
  have hstart : trimStart s = s := by
    cases s with
    | nil => rfl
    | cons c s => exact List.dropWhile_cons_of_neg (by simp [h.head c rfl])
  rw [trim, hstart, trimEnd_eq_self_iff]
  intro hne
  exact h.last _ (List.getLast?_eq_some_getLast hne)

theorem Trimmed.allBlank_eq (h : Trimmed s) : allBlank s = s.isEmpty := by
  cases s with
  | nil => rfl
  | cons c s =>
    rw [allBlank, List.all_cons, h.head c rfl]
    rfl

theorem infix_trim (s : List Char) : trim s <:+: s := by
  have hend : trim s <+: trimStart s := trimEnd_prefix (trimStart s)
  exact hend.isInfix.trans (List.dropWhile_suffix isBlank).isInfix

/-! ### Pieces -/

theorem splitAtFrom_ne_nil (sep : List Char) (skip : Nat) (s : List Char) :
    splitAtFrom sep skip s ≠ [] := by
  induction s generalizing skip with
  | nil => cases skip <;> exact List.cons_ne_nil _ _
  | cons c s ih =>
    cases skip with
    | succ skip => exact ih skip
    | zero =>
      rw [splitAtFrom]
      split
      · exact List.cons_ne_nil _ _
      · split <;> exact List.cons_ne_nil _ _

theorem splitAtFrom_eq_drop (sep : List Char) (skip : Nat) (s : List Char) :
    splitAtFrom sep skip s = splitAtFrom sep 0 (s.drop skip) := by
  induction skip generalizing s with
  | zero => rfl
  | succ skip ih =>
    cases s with
    | nil => rfl
    | cons c s => exact ih s

/-- A separator in front ends a first piece that is empty. -/
theorem splitAtFrom_append (hsep : sep ≠ []) (s : List Char) :
    splitAtFrom sep 0 (sep ++ s) = [] :: splitAtFrom sep 0 s := by
  obtain ⟨a, m, rfl⟩ := List.exists_cons_of_ne_nil hsep
  have hbegins : (a :: m).isPrefixOf (a :: (m ++ s)) = true :=
    List.isPrefixOf_iff_prefix.mpr (List.prefix_append (a :: m) s)
  rw [List.cons_append, splitAtFrom, if_pos hbegins, splitAtFrom_eq_drop, List.length_cons,
    Nat.add_sub_cancel, List.drop_left]

/-- A character at which no separator begins belongs to the piece behind it. -/
theorem splitAtFrom_cons_of_not_prefix (h : ¬sep <+: c :: s) :
    ∃ w ws, splitAtFrom sep 0 s = w :: ws ∧ splitAtFrom sep 0 (c :: s) = (c :: w) :: ws := by
  obtain ⟨w, ws, hs⟩ := List.exists_cons_of_ne_nil (splitAtFrom_ne_nil sep 0 s)
  refine ⟨w, ws, hs, ?_⟩
  rw [splitAtFrom, if_neg fun hbegins => h (List.isPrefixOf_iff_prefix.mp hbegins), hs]

theorem not_prefix_of_notMem (hsep : sep ≠ []) (hc : c ∉ sep) : ¬sep <+: c :: s := by
  obtain ⟨a, m, rfl⟩ := List.exists_cons_of_ne_nil hsep
  rintro ⟨r, hr⟩
  obtain ⟨rfl, -⟩ := List.cons.inj hr
  exact hc List.mem_cons_self

theorem splitAtFrom_of_not_infix (h : ¬sep <:+: s) : splitAtFrom sep 0 s = [s] := by
  induction s with
  | nil => rfl
  | cons c s ih =>
    obtain ⟨hbegins, hpart⟩ := not_or.mp fun hor => h (List.infix_cons_iff.mpr hor)
    obtain ⟨w, ws, hs, hcons⟩ := splitAtFrom_cons_of_not_prefix hbegins
    rw [ih hpart] at hs
    obtain ⟨rfl, rfl⟩ := List.cons.inj hs
    exact hcons

/-- A text that shares no character with the separator goes up to it. -/
theorem splitAtFrom_append_append (hsep : sep ≠ []) (hw : ∀ c ∈ w, c ∉ sep) (s : List Char) :
    splitAtFrom sep 0 (w ++ sep ++ s) = w :: splitAtFrom sep 0 s := by
  induction w with
  | nil => exact splitAtFrom_append hsep s
  | cons c w ih =>
    specialize ih fun d hd => hw d (List.mem_cons_of_mem c hd)
    obtain ⟨v, vs, hs, hcons⟩ := splitAtFrom_cons_of_not_prefix (s := w ++ sep ++ s)
      (not_prefix_of_notMem hsep (hw c List.mem_cons_self))
    rw [ih] at hs
    obtain ⟨rfl, rfl⟩ := List.cons.inj hs
    exact hcons

theorem prefix_of_splitAtFrom_eq_cons (h : splitAtFrom sep 0 s = w :: l) : w <+: s := by
  induction s generalizing w l with
  | nil =>
    obtain ⟨rfl, -⟩ := List.cons.inj h
    exact List.prefix_refl _
  | cons c s ih =>
    by_cases hbegins : sep <+: c :: s
    · rw [splitAtFrom, if_pos (List.isPrefixOf_iff_prefix.mpr hbegins)] at h
      obtain ⟨rfl, -⟩ := List.cons.inj h
      exact List.nil_prefix
    · obtain ⟨v, vs, hs, hcons⟩ := splitAtFrom_cons_of_not_prefix hbegins
      rw [hcons] at h
      obtain ⟨rfl, -⟩ := List.cons.inj h
      exact List.cons_prefix_cons.mpr ⟨rfl, ih hs⟩

/-- A separator that is found in a piece would have been found in the text. -/
theorem not_infix_of_mem_splitAtFrom {skip : Nat} (hsep : sep ≠ [])
    (hw : w ∈ splitAtFrom sep skip s) : ¬sep <:+: w := by
  have hnil : ¬sep <:+: [] := fun h => hsep (List.infix_nil.mp h)
  induction s generalizing skip w with
  | nil =>
    obtain rfl : w = [] := by cases skip <;> exact List.mem_singleton.mp hw
    exact hnil
  | cons c s ih =>
    cases skip with
    | succ skip => exact ih hw
    | zero =>
      by_cases hbegins : sep <+: c :: s
      · rw [splitAtFrom, if_pos (List.isPrefixOf_iff_prefix.mpr hbegins)] at hw
        rcases List.mem_cons.mp hw with rfl | hw
        · exact hnil
        · exact ih hw
      · obtain ⟨v, vs, hs, hcons⟩ := splitAtFrom_cons_of_not_prefix hbegins
        rw [hcons] at hw
        rcases List.mem_cons.mp hw with rfl | hw
        · -- the piece begins the text, so a separator that begins the piece begins the text
          rw [List.infix_cons_iff, not_or]
          have hv : c :: v <+: c :: s :=
            List.cons_prefix_cons.mpr ⟨rfl, prefix_of_splitAtFrom_eq_cons hs⟩
          exact ⟨fun h => hbegins (h.trans hv), ih (hs ▸ List.mem_cons_self)⟩
        · exact ih (hs ▸ List.mem_cons_of_mem v hw)

theorem splitAt_of_ne_nil (hsep : sep ≠ []) (s : List Char) :
    splitAt sep s = splitAtFrom sep 0 s :=
  if_neg (by simpa using hsep)

theorem subset_joinWith (sep : List Char) (hw : w ∈ l) : w ⊆ joinWith sep l := by
  induction l with
  | nil => exact absurd hw List.not_mem_nil
  | cons v l ih =>
    cases l with
    | nil =>
      obtain rfl := List.mem_singleton.mp hw
      exact List.Subset.refl _
    | cons u l =>
      rw [joinWith_cons_cons]
      rcases List.mem_cons.mp hw with rfl | hw
      · rw [List.append_assoc]
        exact List.subset_append_left _ _
      · exact List.Subset.trans (ih hw) (List.subset_append_right _ _)

theorem length_le_one_of_mem_splitAt_nil (hw : w ∈ splitAt [] s) : w.length ≤ 1 := by
  have hcases : w = [] ∨ ∃ c ∈ s, [c] = w := by simpa [splitAt, or_comm] using hw
  rcases hcases with rfl | ⟨c, -, rfl⟩ <;> simp

theorem splitAt_joinWith (hsep : sep ≠ []) (hl : l ≠ []) (h : ∀ w ∈ l, ∀ c ∈ w, c ∉ sep) :
    splitAt sep (joinWith sep l) = l := by
  rw [splitAt_of_ne_nil hsep]
  induction l with
  | nil => exact absurd rfl hl
  | cons w l ih =>
    obtain ⟨hw, h⟩ := List.forall_mem_cons.mp h
    cases l with
    | nil =>
      refine splitAtFrom_of_not_infix fun hpart => ?_
      obtain ⟨a, m, rfl⟩ := List.exists_cons_of_ne_nil hsep
      exact hw a (hpart.subset List.mem_cons_self) List.mem_cons_self
    | cons v l =>
      rw [joinWith_cons_cons, splitAtFrom_append_append hsep hw, ih (List.cons_ne_nil v l) h]

/-! ### Trimmed pieces -/

/-- What is left of the pieces after trimming, where anything is. -/
def parts (sep s : List Char) : List (List Char) :=
  ((splitAt sep s).map trim).filter fun w => !w.isEmpty

theorem mem_parts_iff : w ∈ parts sep s ↔ w ≠ [] ∧ ∃ v ∈ splitAt sep s, trim v = w := by
  simp [parts, and_comm]

theorem trimmed_of_mem_parts (h : w ∈ parts sep s) : Trimmed w := by
  obtain ⟨-, v, -, rfl⟩ := mem_parts_iff.mp h
  exact trimmed_trim v

/-- Trimming makes no separator. -/
theorem parts_of_mem_parts (h : w ∈ parts sep s) : parts sep w = [w] := by
  have htrim := (trimmed_of_mem_parts h).trim_eq
  obtain ⟨hne, v, hv, rfl⟩ := mem_parts_iff.mp h
  by_cases hsep : sep = []
  · -- without a separator the pieces are single characters
    subst hsep
    obtain ⟨c, hc⟩ : ∃ c, trim v = [c] := by
      have hlength := (infix_trim v).length_le.trans (length_le_one_of_mem_splitAt_nil hv)
      exact List.length_eq_one_iff.mp
        (le_antisymm hlength (List.length_pos_iff.mpr hne))
    rw [hc] at htrim ⊢
    change ([trim [], trim [c], trim []]).filter _ = [[c]]
    rw [htrim]
    rfl
  · have hnot : ¬sep <:+: trim v := by
      rw [splitAt_of_ne_nil hsep] at hv
      exact fun hpart => not_infix_of_mem_splitAtFrom hsep hv (hpart.trans (infix_trim v))
    rw [parts, splitAt_of_ne_nil hsep, splitAtFrom_of_not_infix hnot, List.map_singleton, htrim]
    simpa using hne

theorem parts_joinWith (hsep : sep ≠ [])
    (h : ∀ w ∈ l, w ≠ [] ∧ Trimmed w ∧ ∀ c ∈ w, c ∉ sep) : parts sep (joinWith sep l) = l := by
  by_cases hl : l = []
  · subst hl
    rw [joinWith, parts, splitAt_of_ne_nil hsep]
    rfl
  · have htrim : l.map trim = l :=
      (List.map_congr_left fun w hw => (h w hw).2.1.trim_eq).trans (List.map_id l)
    rw [parts, splitAt_joinWith hsep hl fun w hw => (h w hw).2.2, htrim]
    exact List.filter_eq_self.mpr fun w hw => by simpa using (h w hw).1

end Causeway.Text
