import Causeway.Sprite.Script

/-!
# Windows of a list

Cutting a list into runs gives as many windows as it takes to cover the list (`windowCount`), each the
next `size` elements and the last one what is left (`chunksOf_eq_windowsOf`).
-/

namespace Causeway

variable {α : Type} {size : Nat} {l w : List α}

/-- How many windows so many elements fill, the last one perhaps in part. -/
def windowCount (size n : Nat) : Nat := (n + size - 1) / size

/-- Consecutive windows of a list. -/
def windowsOf (size : Nat) (l : List α) : List (List α) :=
  (List.range (windowCount size l.length)).map fun i => (l.drop (i * size)).take size

theorem windowCount_zero (hsize : 0 < size) : windowCount size 0 = 0 :=
  Nat.div_eq_of_lt (by omega)

theorem windowCount_of_pos (hsize : 0 < size) {n : Nat} (hn : 0 < n) :
    windowCount size n = windowCount size (n - size) + 1 := by
  have hfirst : n + size - 1 = n - 1 + size := by omega
  have hcount : windowCount size n = (n - 1) / size + 1 := by
    rw [windowCount, hfirst, Nat.add_div_right _ hsize]
  rw [hcount, windowCount]
  by_cases hlast : n ≤ size
  · rw [Nat.div_eq_of_lt (show n - 1 < size by omega),
      Nat.div_eq_of_lt (show n - size + size - 1 < size by omega)]
  · have hrest : n - size + size - 1 = n - 1 := by omega
    rw [hrest]

theorem windowsOf_nil (hsize : 0 < size) : windowsOf size ([] : List α) = [] := by
  rw [windowsOf, List.length_nil, windowCount_zero hsize]
  rfl

theorem windowsOf_of_ne_nil (hsize : 0 < size) (hl : l ≠ []) :
    windowsOf size l = l.take size :: windowsOf size (l.drop size) := by
  have hcount : windowCount size l.length = windowCount size (l.drop size).length + 1 := by
    rw [List.length_drop, windowCount_of_pos hsize (List.length_pos_iff.mpr hl)]
  have hshift : ∀ i, l.drop ((i + 1) * size) = (l.drop size).drop (i * size) := by
    intro i
    rw [List.drop_drop, Nat.succ_mul, Nat.add_comm]
  unfold windowsOf
  rw [hcount, List.range_succ_eq_map, List.map_cons, List.map_map, Nat.zero_mul, List.drop_zero]
  exact congrArg _ (List.map_congr_left fun i _ => congrArg (List.take size) (hshift i))

theorem chunksOf_eq_windowsOf (hsize : 0 < size) (l : List α) :
    chunksOf size l = windowsOf size l := by
  induction l using chunksOf.induct size with
  | case1 l hend =>
    obtain rfl := hend.resolve_right (Nat.ne_of_gt hsize)
    rw [chunksOf, dif_pos hend, windowsOf_nil hsize]
  | case2 l hmore ih =>
    have hl : l ≠ [] := fun hnil => hmore (.inl hnil)
    rw [chunksOf, dif_neg hmore, windowsOf_of_ne_nil hsize hl, ih]

theorem length_windowsOf (size : Nat) (l : List α) :
    (windowsOf size l).length = windowCount size l.length := by
  rw [windowsOf, List.length_map, List.length_range]

theorem flatten_windowsOf (hsize : 0 < size) (l : List α) : (windowsOf size l).flatten = l := by
  rw [← chunksOf_eq_windowsOf hsize]
  induction l using chunksOf.induct size with
  | case1 l hend =>
    obtain rfl := hend.resolve_right (Nat.ne_of_gt hsize)
    rw [chunksOf, dif_pos hend]
    rfl
  | case2 l hmore ih => rw [chunksOf, dif_neg hmore, List.flatten_cons, ih, List.take_append_drop]

/-- No window is empty. -/
theorem length_of_mem_windowsOf (hsize : 0 < size) (hw : w ∈ windowsOf size l) :
    0 < w.length ∧ w.length ≤ size := by
  rw [← chunksOf_eq_windowsOf hsize] at hw
  induction l using chunksOf.induct size with
  | case1 l hend =>
    rw [chunksOf, dif_pos hend] at hw
    exact absurd hw List.not_mem_nil
  | case2 l hmore ih =>
    rw [chunksOf, dif_neg hmore] at hw
    rcases List.mem_cons.mp hw with rfl | hw
    · have hl : 0 < l.length := List.length_pos_iff.mpr fun hnil => hmore (.inl hnil)
      rw [List.length_take]
      omega
    · exact ih hw

theorem infix_of_mem_windowsOf (hw : w ∈ windowsOf size l) : w <:+: l := by
  obtain ⟨i, -, rfl⟩ := List.mem_map.mp hw
  exact (List.take_prefix size _).isInfix.trans (List.drop_suffix (i * size) l).isInfix

end Causeway
