import Causeway.Proofs.Memory.Growth

/-!
# Draining a queue level by level

The queue of a walk never holds ids of more than two distances, the nearer ones in front. So it is
drained by levels: leaving all ids of one distance (`leaveAll`) gives all ids of the next
(`drain_level`), and ids at the most hops are not left at all (`drain_far`).
-/

namespace Causeway.Memory.Walk

variable (d : Dataset) (direction : Direction) (label : Option String) {hops distance : Nat}
  {w : Walk}

/-- Leaves some ids in turn, and collects what is met from them. -/
def leaveAll : List String → Walk → Walk × List String
  | [], w => (w, [])
  | id :: ids, w =>
    let w' := w.leave d direction label id
    let rest := leaveAll ids w'
    (rest.1, w'.next.toList ++ rest.2)

theorem grows_leaveAll (h : w.Tracks) (ids : List String) :
    Grows d (ids.flatMap (d.incident direction label)) (leaveAll d direction label ids w).2 w
      (leaveAll d direction label ids w).1 := by
  induction ids generalizing w with
  | nil => exact .refl h
  | cons id ids ih =>
    have hfirst := grows_leave (d := d) h direction label id
    rw [List.flatMap_cons]
    exact hfirst.trans (ih hfirst.tracks)

theorem drain_far {queue : List (String × Nat)} (hfar : ∀ x ∈ queue, hops ≤ x.2) :
    drain d direction label hops queue w = w := by
  induction queue with
  | nil => rw [drain]
  | cons x queue ih =>
    obtain ⟨id, distance⟩ := x
    have hhead : hops ≤ distance := hfar (id, distance) List.mem_cons_self
    rw [drain, if_pos hhead]
    exact ih fun x hx => hfar x (List.mem_cons_of_mem _ hx)

/-- The ids of one distance are left before those of the next, which are joined by what is met. -/
theorem drain_level (hnear : distance < hops) (ids later : List String) :
    drain d direction label hops (ids.map (·, distance) ++ later.map (·, distance + 1)) w =
      drain d direction label hops
        ((later ++ (leaveAll d direction label ids w).2).map (·, distance + 1))
        (leaveAll d direction label ids w).1 := by
  induction ids generalizing later w with
  | nil => simp [leaveAll]
  | cons id ids ih =>
    rw [List.map_cons, List.cons_append, drain, if_neg (Nat.not_le.mpr hnear)]
    dsimp only
    rw [List.append_assoc, ← List.map_append, ih, List.append_assoc]
    rfl

end Causeway.Memory.Walk
