import Causeway.Text.Blank

/-!
# When a text is its only word

The pieces between separators hold the elements that are none, each of them in some piece. So the
words of a text are the text itself exactly if it has no white space, or nothing else
(`wordsOf_eq_self_iff`), and texts without white space are the words of what they are joined to
(`mem_of_mem_wordsOf_joined`).
-/

namespace Causeway.Text

section Pieces

variable {α : Type} {p : α → Bool} {x : α} {l w : List α}

/-- What passes goes on up to what does not. -/
theorem span_append (hw : ∀ x ∈ w, p x = true) (hl : ∀ x ∈ l.head?, p x = false) :
    (w ++ l).takeWhile p = w ∧ (w ++ l).dropWhile p = l := by
  have hstop : l.takeWhile p = [] ∧ l.dropWhile p = l := by
    cases l with
    | nil => exact ⟨rfl, rfl⟩
    | cons x l =>
      rw [List.takeWhile_cons, List.dropWhile_cons, hl x rfl]
      exact ⟨rfl, rfl⟩
  constructor
  · rw [List.takeWhile_append_of_pos hw, hstop.1, List.append_nil]
  · rw [List.dropWhile_append_of_pos hw, hstop.2]

theorem splitWhen_ne_nil (p : α → Bool) (l : List α) : splitWhen p l ≠ [] := by
  cases l with
  | nil => exact List.cons_ne_nil _ _
  | cons x l =>
    rw [splitWhen]
    split
    · exact List.cons_ne_nil _ _
    · split <;> exact List.cons_ne_nil _ _

theorem splitWhen_cons_of_pos (hx : p x = true) : splitWhen p (x :: l) = [] :: splitWhen p l := by
  rw [splitWhen, if_pos hx]

/-- An element that is no separator belongs to the piece behind it. -/
theorem splitWhen_cons_of_neg (hx : p x = false) :
    ∃ w ws, splitWhen p l = w :: ws ∧ splitWhen p (x :: l) = (x :: w) :: ws := by
  obtain ⟨w, ws, hl⟩ := List.exists_cons_of_ne_nil (splitWhen_ne_nil p l)
  refine ⟨w, ws, hl, ?_⟩
  rw [splitWhen, if_neg (by simp [hx]), hl]

theorem mem_of_mem_splitWhen (hw : w ∈ splitWhen p l) (hx : x ∈ w) : x ∈ l ∧ p x = false := by
  induction l generalizing w with
  | nil =>
    obtain rfl := List.mem_singleton.mp hw
    exact absurd hx List.not_mem_nil
  | cons y l ih =>
    cases hy : p y with
    | true =>
      rw [splitWhen_cons_of_pos hy] at hw
      rcases List.mem_cons.mp hw with rfl | hw
      · exact absurd hx List.not_mem_nil
      · exact (ih hw hx).imp_left (List.mem_cons_of_mem y)
    | false =>
      obtain ⟨v, vs, hl, hcons⟩ := splitWhen_cons_of_neg (l := l) hy
      rw [hl] at ih
      rw [hcons] at hw
      rcases List.mem_cons.mp hw with rfl | hw
      · rcases List.mem_cons.mp hx with rfl | hx
        · exact ⟨List.mem_cons_self, hy⟩
        · exact (ih List.mem_cons_self hx).imp_left (List.mem_cons_of_mem y)
      · exact (ih (List.mem_cons_of_mem v hw) hx).imp_left (List.mem_cons_of_mem y)

theorem exists_mem_splitWhen (hx : x ∈ l) (hp : p x = false) : ∃ w ∈ splitWhen p l, x ∈ w := by
  induction l with
  | nil => exact absurd hx List.not_mem_nil
  | cons y l ih =>
    cases hy : p y with
    | true =>
      have hne : x ≠ y := by
        rintro rfl
        rw [hp] at hy
        cases hy
      obtain ⟨w, hw, hmem⟩ := ih ((List.mem_cons.mp hx).resolve_left hne)
      rw [splitWhen_cons_of_pos hy]
      exact ⟨w, List.mem_cons_of_mem _ hw, hmem⟩
    | false =>
      obtain ⟨v, vs, hl, hcons⟩ := splitWhen_cons_of_neg (l := l) hy
      rw [hcons]
      rcases List.mem_cons.mp hx with rfl | hx
      · exact ⟨x :: v, List.mem_cons_self, List.mem_cons_self⟩
      · obtain ⟨w, hw, hmem⟩ := ih hx
        rw [hl] at hw
        rcases List.mem_cons.mp hw with rfl | hw
        · exact ⟨y :: w, List.mem_cons_self, List.mem_cons_of_mem y hmem⟩
        · exact ⟨w, List.mem_cons_of_mem _ hw, hmem⟩

/-- The first separator ends the first piece. -/
theorem splitWhen_append_cons (hw : ∀ y ∈ w, p y = false) (hx : p x = true) :
    splitWhen p (w ++ x :: l) = w :: splitWhen p l := by
  induction w with
  | nil => exact splitWhen_cons_of_pos hx
  | cons y w ih =>
    obtain ⟨v, vs, hl, hcons⟩ := splitWhen_cons_of_neg (l := w ++ x :: l) (hw y List.mem_cons_self)
    rw [ih fun z hz => hw z (List.mem_cons_of_mem y hz)] at hl
    cases hl
    exact hcons

/-- The first piece is everything, or goes up to a separator. -/
theorem cases_of_splitWhen_eq_cons {ws : List (List α)} (h : splitWhen p l = w :: ws) :
    l = w ∨ ∃ y r, l = w ++ y :: r ∧ p y = true := by
  induction l generalizing w ws with
  | nil => exact .inl (List.cons.inj h).1
  | cons x l ih =>
    cases hx : p x with
    | true =>
      rw [splitWhen_cons_of_pos hx] at h
      obtain ⟨rfl, -⟩ := List.cons.inj h
      exact .inr ⟨x, l, rfl, hx⟩
    | false =>
      obtain ⟨v, vs, hl, hcons⟩ := splitWhen_cons_of_neg (l := l) hx
      rw [hcons] at h
      obtain ⟨rfl, rfl⟩ := List.cons.inj h
      rcases ih hl with rfl | ⟨y, r, rfl, hy⟩
      · exact .inl rfl
      · exact .inr ⟨y, r, rfl, hy⟩

theorem splitWhen_of_forall_not (h : ∀ x ∈ l, p x = false) : splitWhen p l = [l] := by
  induction l with
  | nil => rfl
  | cons x l ih =>
    obtain ⟨w, ws, hl, hcons⟩ := splitWhen_cons_of_neg (l := l) (h x List.mem_cons_self)
    rw [ih fun y hy => h y (List.mem_cons_of_mem x hy)] at hl
    cases hl
    exact hcons

theorem joinWith_cons_cons (sep w v : List Char) (l : List (List Char)) :
    joinWith sep (w :: v :: l) = w ++ sep ++ joinWith sep (v :: l) := rfl

/-- Pieces without a separator are what their join is cut into. -/
theorem splitWhen_joinWith {p : Char → Bool} {c : Char} {l : List (List Char)} (hc : p c = true)
    (hl : ∀ w ∈ l, ∀ d ∈ w, p d = false) (hne : l ≠ []) : splitWhen p (joinWith [c] l) = l := by
  induction l with
  | nil => exact absurd rfl hne
  | cons w l ih =>
    have hw : ∀ d ∈ w, p d = false := hl w List.mem_cons_self
    cases l with
    | nil => exact splitWhen_of_forall_not hw
    | cons v l =>
      have hrest : splitWhen p (joinWith [c] (v :: l)) = v :: l :=
        ih (fun u hu => hl u (List.mem_cons_of_mem w hu)) (List.cons_ne_nil v l)
      rw [joinWith_cons_cons, List.append_assoc, List.singleton_append, splitWhen_append_cons hw hc,
        hrest]

end Pieces

/-- A text without white space, or with nothing else. -/
def Unbroken (s : String) : Prop :=
  (∀ c ∈ s.toList, isBlank c = false) ∨ ∀ c ∈ s.toList, isBlank c = true

theorem mem_wordsOf_iff {s w : String} :
    w ∈ wordsOf s ↔ w.toList ∈ splitWhen isBlank s.toList ∧ w.toList ≠ [] := by
  unfold wordsOf words
  rw [List.mem_map]
  constructor
  · rintro ⟨l, hl, rfl⟩
    rw [String.toList_ofList]
    simpa using List.mem_filter.mp hl
  · rintro ⟨hpiece, hne⟩
    exact ⟨w.toList, List.mem_filter.mpr ⟨hpiece, by simpa using hne⟩, String.ofList_toList⟩

/-- Labels without white space have no words but themselves. -/
theorem mem_of_mem_wordsOf_joined {labels : List String} {w : String}
    (h : ∀ s ∈ labels, ∀ c ∈ s.toList, isBlank c = false) (hw : w ∈ wordsOf (joined " " labels)) :
    w ∈ labels := by
  obtain ⟨hpiece, hne⟩ := mem_wordsOf_iff.mp hw
  rw [joined, String.toList_ofList] at hpiece
  by_cases hlabels : labels.map String.toList = []
  · rw [hlabels] at hpiece
    exact absurd (List.mem_singleton.mp hpiece) hne
  · have hpieces : splitWhen isBlank (joinWith [' '] (labels.map String.toList)) =
        labels.map String.toList := by
      refine splitWhen_joinWith rfl ?_ hlabels
      intro l hl
      obtain ⟨s, hs, rfl⟩ := List.mem_map.mp hl
      exact h s hs
    have hmem : w.toList ∈ labels.map String.toList := hpieces ▸ hpiece
    obtain ⟨s, hs, heq⟩ := List.mem_map.mp hmem
    rwa [← String.toList_inj.mp heq]

/-- What is cut into words stays whole, or vanishes. -/
theorem wordsOf_eq_self_iff {s : String} : (∀ w ∈ wordsOf s, w = s) ↔ Unbroken s := by
  constructor
  · intro h
    by_cases hblank : ∀ c ∈ s.toList, isBlank c = true
    · exact .inr hblank
    · -- the word of a character that is not blank is the text
      obtain ⟨c, hc⟩ := Classical.not_forall.mp hblank
      obtain ⟨hc, hnot⟩ := Classical.not_imp.mp hc
      obtain ⟨l, hl, hmem⟩ := exists_mem_splitWhen hc (Bool.eq_false_iff.mpr hnot)
      have hword : String.ofList l ∈ wordsOf s := by
        rw [mem_wordsOf_iff, String.toList_ofList]
        exact ⟨hl, List.ne_nil_of_mem hmem⟩
      have hs : l = s.toList := by rw [← h _ hword, String.toList_ofList]
      rw [hs] at hl
      exact .inl fun c hc => (mem_of_mem_splitWhen hl hc).2
  · rintro (hnone | hall) w hw
    · obtain ⟨hpiece, -⟩ := mem_wordsOf_iff.mp hw
      rw [splitWhen_of_forall_not hnone, List.mem_singleton] at hpiece
      exact String.toList_inj.mp hpiece
    · obtain ⟨hpiece, hne⟩ := mem_wordsOf_iff.mp hw
      obtain ⟨c, hc⟩ := List.exists_mem_of_ne_nil _ hne
      obtain ⟨hmem, hnot⟩ := mem_of_mem_splitWhen hpiece hc
      rw [hall c hmem] at hnot
      cases hnot

end Causeway.Text
