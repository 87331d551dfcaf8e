import Causeway.Proofs.Tunnel.Orderly

/-!
Calls that go on side by side keep out of each other's way: whatever the moves, each of them stands
where it could stand alone (`Keeps`), so each is orderly at every moment
(`orderly_of_interleaving`). None of them is ever stuck: its own steps bring it to its end
(`exists_run_finished`), which is that of a cancelled call once it is dropped where it waits
(`complete_cancel`).
-/

namespace Causeway

variable {α : Type}

/-- Where a call waits for others, and can be dropped. -/
def Stage.waits : Stage α → Bool
  | .started | .connecting _ | .forwarding _ _ | .running _ _ => true
  | .calling _ _ | .releasing _ _ | .dropping _ _ | .finished _ => false

namespace Call

variable {s : Stage α}

theorem outcome_complete_step (c : Call α) (hs : s.result? = none) :
    (c.complete s).2 = (c.complete (c.step s).2).2 := by
  rw [c.complete_step hs]

theorem outcome_complete_dropping (c : Call α) (g : Guard) (r : Outcome α) :
    (c.complete (.dropping g r)).2 = r := by
  calc (c.complete (.dropping g r)).2
      = (c.complete (.finished r)).2 := c.outcome_complete_step rfl
    _ = r := by rw [complete_finished]

/-- The way out of the backend keeps its outcome. -/
theorem outcome_complete_leave (c : Call α) (r : Outcome α) (g : Option Guard) :
    (c.complete (leave r g)).2 = r := by
  have hreleasing : ∀ g, (c.complete (.releasing g r)).2 = r := fun g =>
    (c.outcome_complete_step rfl).trans (c.outcome_complete_dropping _ r)
  cases g with
  | none => exact congrArg Prod.snd (c.complete_finished r)
  | some g =>
    cases r with
    | ok a => exact hreleasing g
    | error e => exact hreleasing g
    | panicked => exact c.outcome_complete_dropping g _
    | cancelled => exact c.outcome_complete_dropping g _

/-- A call that is dropped where it waits ends as cancelled, and elsewhere as it would have. -/
theorem complete_cancel (c : Call α) (s : Stage α) :
    (c.complete (c.cancel s).2).2 = if s.waits then .cancelled else (c.complete s).2 := by
  cases s with
  | started | connecting => exact congrArg Prod.snd (c.complete_finished .cancelled)
  | forwarding port g => exact c.outcome_complete_dropping g .cancelled
  | running rest g => exact c.outcome_complete_leave .cancelled g
  | calling | releasing | dropping | finished => rfl

end Call

namespace Traffic

variable {t : Traffic α} {i j : Nat} {c : Call α} {s : Stage α}
  {f : Call α → Stage α → List Sign × Stage α}

theorem act_calls_self (hi : t.calls[i]? = some (c, s)) :
    (t.act i f).calls[i]? = some (c, (f c s).2) := by
  have hlt : i < t.calls.length := (List.getElem?_eq_some_iff.mp hi).1
  simp only [act, hi]
  rw [List.getElem?_set_self hlt]

theorem act_calls_of_ne (hne : j ≠ i) : (t.act i f).calls[j]? = t.calls[j]? := by
  unfold act
  split
  · rfl
  · rw [List.getElem?_set_ne (Ne.symm hne)]

theorem act_doings_self (hi : t.calls[i]? = some (c, s)) :
    (t.act i f).doings i = t.doings i ++ Sign.owned (f c s).1 := by
  simp only [act, hi, doings, List.filterMap_append, List.filterMap_map]
  congr 1
  unfold Sign.owned
  congr 1
  funext sign
  simp

theorem act_doings_of_ne (hne : j ≠ i) : (t.act i f).doings j = t.doings j := by
  unfold act
  split
  · rfl
  · rename_i c s _
    have hnone : ((f c s).1.map (i, ·)).filterMap
        (fun e => if e.1 = j then e.2.own? else none) = [] := by
      rw [List.filterMap_eq_nil_iff]
      intro e he
      obtain ⟨sign, _, rfl⟩ := List.mem_map.mp he
      rw [if_neg (Ne.symm hne)]
    simp only [doings, List.filterMap_append, hnone, List.append_nil]

/-- Each call stands where its own moves brought it. -/
def Keeps (calls : List (Call α)) (past : List Move) (t : Traffic α) : Prop :=
  ∀ (i : Nat) (c : Call α), calls[i]? = some c →
    ∃ s, t.calls[i]? = some (c, s) ∧ c.Stands (.cancel i ∈ past) s (t.doings i)

variable {calls : List (Call α)} {past : List Move}

theorem keeps_start (calls : List (Call α)) : Keeps calls [] (start calls) := by
  intro i c hc
  refine ⟨.started, ?_, ?_⟩
  · simp [start, hc]
  · exact .started

/-- A move of another call changes nothing for this one. -/
theorem Keeps.act_of_ne {m : Move} (h : Keeps calls past t) (hne : j ≠ i)
    (hc : calls[j]? = some c) :
    ∃ s, (t.act i f).calls[j]? = some (c, s) ∧
      c.Stands (.cancel j ∈ past ++ [m]) s ((t.act i f).doings j) := by
  obtain ⟨s, hs, hstands⟩ := h j c hc
  refine ⟨s, ?_, ?_⟩
  · rw [act_calls_of_ne hne, hs]
  · rw [act_doings_of_ne hne]
    exact hstands.mono fun hmem => List.mem_append_left _ hmem

theorem Keeps.move (h : Keeps calls past t) (m : Move) : Keeps calls (past ++ [m]) (t.move m) := by
  intro j c hc
  cases m with
  | advance i =>
    by_cases hne : j = i
    · subst hne
      obtain ⟨s, hs, hstands⟩ := h j c hc
      refine ⟨(c.step s).2, act_calls_self hs, ?_⟩
      rw [Traffic.move, act_doings_self hs]
      exact hstands.step.mono fun hmem => List.mem_append_left _ hmem
    · exact h.act_of_ne hne hc
  | cancel i =>
    by_cases hne : j = i
    · subst hne
      obtain ⟨s, hs, hstands⟩ := h j c hc
      refine ⟨(c.cancel s).2, act_calls_self hs, ?_⟩
      rw [Traffic.move, act_doings_self hs]
      exact hstands.cancel.mono fun _ => List.mem_append_right _ (List.mem_singleton_self _)
    · exact h.act_of_ne hne hc

theorem Keeps.run (h : Keeps calls past t) (moves : List Move) :
    Keeps calls (past ++ moves) (t.run moves) := by
  induction moves generalizing t past with
  | nil => simpa [Traffic.run] using h
  | cons m moves ih =>
    have hrest := ih (h.move m)
    rw [List.append_assoc] at hrest
    exact hrest

theorem run_advance (n i : Nat) (t : Traffic α) :
    t.run (List.replicate (n + 1) (.advance i)) =
      (t.act i Call.step).run (List.replicate n (.advance i)) := rfl

theorem act_log (hi : t.calls[i]? = some (c, s)) :
    (t.act i f).log = t.log ++ (f c s).1.map (i, ·) := by
  simp only [act, hi]

/-- From wherever it stands, a call comes to its end by its own steps. -/
theorem exists_run_finished (t : Traffic α) (hi : t.calls[i]? = some (c, s)) :
    ∃ n, (t.run (List.replicate n (.advance i))).calls[i]? =
        some (c, .finished (c.complete s).2) ∧
      (t.run (List.replicate n (.advance i))).log = t.log ++ (c.complete s).1.map (i, ·) := by
  induction s using Call.complete.induct c generalizing t with
  | case1 s r hs =>
    have hover : s = .finished r := by
      cases s <;> simp [Stage.result?] at hs
      rw [hs]
    subst hover
    refine ⟨0, ?_, ?_⟩
    · simpa [run, c.complete_finished] using hi
    · simp [run, c.complete_finished]
  | case2 s hs _ _ _ ih =>
    obtain ⟨n, hcalls, hlog⟩ := ih (t.act i Call.step) (act_calls_self hi)
    refine ⟨n + 1, ?_, ?_⟩
    · rw [run_advance, hcalls, c.complete_step hs]
    · rw [run_advance, hlog, act_log hi, c.complete_step hs, List.map_append, List.append_assoc]

theorem run_append (t : Traffic α) (moves more : List Move) :
    t.run (moves ++ more) = (t.run moves).run more := List.foldl_append

/-- The call at a place is over with a result, and has closed the session that it opened. -/
structure Over (t : Traffic α) (i : Nat) (c : Call α) (r : Outcome α) : Prop where
  finished : t.calls[i]? = some (c, .finished r)
  closed : (t.doings i).countP Event.closes = (t.doings i).countP Event.opens

theorem Keeps.over {r : Outcome α} (h : Keeps calls past t) (hc : calls[i]? = some c)
    (hr : t.calls[i]? = some (c, .finished r)) : t.Over i c r := by
  obtain ⟨s, hs, hstands⟩ := h i c hc
  obtain rfl : s = .finished r := by simpa [hs] using hr
  exact ⟨hr, hstands.closed rfl⟩

theorem Keeps.exists_over (h : Keeps calls past t) (hc : calls[i]? = some c)
    (hs : t.calls[i]? = some (c, s)) :
    ∃ n, (t.run (List.replicate n (.advance i))).Over i c (c.complete s).2 := by
  obtain ⟨n, hfinished, _⟩ := exists_run_finished t hs
  exact ⟨n, (h.run _).over hc hfinished⟩

/-- Calls through tunnels, moved in any order and dropped at any point, are orderly at every moment.
From each moment the own steps of a call bring it to its end; dropped where it waits, it ends as
cancelled, and elsewhere as it would have, with its session closed either way. Moved alone from the
start, it ends as the call made on its own. -/
theorem orderly_of_interleaving (calls : List (Call α)) :
    (∀ (moves : List Move) (i : Fin calls.length), ∃ s,
      ((start calls).run moves).calls[i.val]? = some (calls[i], s) ∧
        calls[i].Orderly (.cancel i ∈ moves) s (((start calls).run moves).doings i) ∧
        (∃ n, ((start calls).run (moves ++ List.replicate n (.advance i))).Over i calls[i]
          (calls[i].complete s).2) ∧
        ∃ n, ((start calls).run (moves ++ .cancel i :: List.replicate n (.advance i))).Over i
          calls[i] (if s.waits then .cancelled else (calls[i].complete s).2)) ∧
    ∀ i : Fin calls.length, ∃ n,
      ((start calls).run (List.replicate n (.advance i))).calls[i.val]? =
          some (calls[i], .finished calls[i].run.outcome) ∧
        ((start calls).run (List.replicate n (.advance i))).log.map (·.2.event) =
          calls[i].run.events := by
  constructor
  · intro moves i
    have hc : calls[i.val]? = some calls[i] := by simp
    have hkeeps := (keeps_start calls).run moves
    obtain ⟨s, hs, hstands⟩ := hkeeps i calls[i] hc
    refine ⟨s, hs, ?_, ?_, ?_⟩
    · simpa using hstands.orderly
    · simp only [run_append]
      exact hkeeps.exists_over hc hs
    · -- the drop is a move like any other, and the call goes on from the stage it leads to
      rw [← calls[i].complete_cancel s]
      simp only [run_append]
      exact (hkeeps.move (.cancel i)).exists_over hc (act_calls_self hs)
  · intro i
    have hstart : (start calls).calls[i.val]? = some (calls[i], .started) := by simp [start]
    obtain ⟨n, hcalls, hlog⟩ := exists_run_finished (start calls) hstart
    refine ⟨n, hcalls, ?_⟩
    rw [hlog]
    simp [start, Call.run]

end Traffic

end Causeway
