import Mathlib.Data.List.Induction

/-!
# The last candidate, told by its place

The last of some candidates is the one behind which there is no other. In a list that is put
together from what names in increasing order give, a place is a name and a place in what it gives.
-/

namespace Causeway

variable {β : Type} {p : β → Bool} {x : β}

theorem getLast?_filter_eq_some_iff {l : List β} :
    (l.filter p).getLast? = some x ↔
      ∃ j, l[j]? = some x ∧ p x = true ∧
        ∀ (i : Nat) (y : β), l[i]? = some y → p y = true → i ≤ j := by
  induction l using List.reverseRecOn with
  | nil => simp
  | append_singleton l a ih =>
    rw [List.filter_append]
    by_cases ha : p a = true
    · rw [List.filter_cons_of_pos ha, List.filter_nil, List.getLast?_concat]
      constructor
      · rintro ⟨rfl⟩
        refine ⟨l.length, by simp, ha, fun i y hi _ => ?_⟩
        have hlt := (List.getElem?_eq_some_iff.mp hi).1
        simp at hlt
        omega
      · rintro ⟨j, hj, hx, hlast⟩
        have hlt := (List.getElem?_eq_some_iff.mp hj).1
        have hle := hlast l.length a (by simp) ha
        obtain rfl : j = l.length := by
          simp at hlt
          omega
        simpa using hj
    · rw [List.filter_cons_of_neg ha, List.filter_nil, List.append_nil, ih]
      -- what is added at the end is no candidate, so the places that count are those in `l`
      have hplace : ∀ (i : Nat) (y : β), p y = true →
          ((l ++ [a])[i]? = some y ↔ l[i]? = some y) := by
        intro i y hy
        by_cases hi : i < l.length
        · rw [List.getElem?_append_left hi]
        · have hnone : l[i]? = none := List.getElem?_eq_none (by omega)
          rw [List.getElem?_append_right (by omega), hnone]
          constructor
          · intro hsome
            have hmem := List.mem_of_getElem? hsome
            rw [List.mem_singleton] at hmem
            exact absurd (hmem ▸ hy) ha
          · intro hsome
            cases hsome
      constructor
      · rintro ⟨j, hj, hx, hlast⟩
        exact ⟨j, (hplace j x hx).mpr hj, hx, fun i y hi hy => hlast i y ((hplace i y hy).mp hi) hy⟩
      · rintro ⟨j, hj, hx, hlast⟩
        exact ⟨j, (hplace j x hx).mp hj, hx, fun i y hi hy => hlast i y ((hplace i y hy).mpr hi) hy⟩

/-- The last of what names in order give, by the name and then by the place. -/
theorem getLast?_flatMap_eq_some_iff {names : List String} (hnames : names.Pairwise (· < ·))
    (g : String → List β) :
    ((names.flatMap g).filter p).getLast? = some x ↔
      ∃ name ∈ names, ∃ j, (g name)[j]? = some x ∧ p x = true ∧
        ∀ other ∈ names, ∀ (i : Nat) (y : β), (g other)[i]? = some y → p y = true →
          other < name ∨ other = name ∧ i ≤ j := by
  induction names generalizing x with
  | nil => simp
  | cons a names ih =>
    obtain ⟨hfirst, hrest⟩ := List.pairwise_cons.mp hnames
    rw [List.flatMap_cons, List.filter_append, List.getLast?_append]
    cases hlast : ((names.flatMap g).filter p).getLast? with
    | some z =>
      rw [Option.some_or, ← hlast, ih hrest]
      constructor
      · rintro ⟨name, hname, j, hj, hx, hall⟩
        refine ⟨name, List.mem_cons_of_mem _ hname, j, hj, hx, fun other hother i y hi hy => ?_⟩
        rcases List.mem_cons.mp hother with rfl | hother
        · exact .inl (hfirst name hname)
        · exact hall other hother i y hi hy
      · rintro ⟨name, hname, j, hj, hx, hall⟩
        refine ⟨name, ?_, j, hj, hx, fun other hother => hall other (List.mem_cons_of_mem _ hother)⟩
        rcases List.mem_cons.mp hname with rfl | hname
        · -- something of a later name is a candidate
          obtain ⟨later, hlater, i, hi, hz, _⟩ := (ih hrest).mp hlast
          rcases hall later (List.mem_cons_of_mem _ hlater) i z hi hz with hlt | ⟨rfl, _⟩
          · exact absurd (String.lt_trans hlt (hfirst later hlater)) (String.lt_irrefl later)
          · exact hlater
        · exact hname
    | none =>
      have hno : ∀ other ∈ names, ∀ (i : Nat) (y : β), (g other)[i]? = some y → ¬p y = true := by
        intro other hother i y hi hy
        rw [List.getLast?_eq_none_iff, List.filter_eq_nil_iff] at hlast
        exact hlast y (List.mem_flatMap.mpr ⟨other, hother, List.mem_of_getElem? hi⟩) hy
      rw [Option.none_or, getLast?_filter_eq_some_iff]
      constructor
      · rintro ⟨j, hj, hx, hall⟩
        refine ⟨a, List.mem_cons_self, j, hj, hx, fun other hother i y hi hy => ?_⟩
        rcases List.mem_cons.mp hother with rfl | hother
        · exact .inr ⟨rfl, hall i y hi hy⟩
        · exact absurd hy (hno other hother i y hi)
      · rintro ⟨name, hname, j, hj, hx, hall⟩
        rcases List.mem_cons.mp hname with rfl | hname
        · refine ⟨j, hj, hx, fun i y hi hy => ?_⟩
          rcases hall name List.mem_cons_self i y hi hy with hlt | ⟨_, hle⟩
          · exact absurd hlt (String.lt_irrefl name)
          · exact hle
        · exact absurd hx (hno name hname j x hj)

end Causeway
