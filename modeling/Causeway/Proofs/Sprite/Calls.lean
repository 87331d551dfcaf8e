import Causeway.Sprite.Script

/-!
# What a player is called for

A player that is fed a script is called for each window in turn: to start a batch, to be offered its
sprites, to finish. The first call that fails is the last one made, and its error is the result
(`Script.runs_playOn`).
-/

namespace Causeway.Player

inductive Call where
  | start
  | offer (s : Sprite)
  | finish

namespace Call

def sprite? : Call → Option Sprite
  | .offer s => some s
  | _ => none

def isStart : Call → Bool
  | .start => true
  | _ => false

def isFinish : Call → Bool
  | .finish => true
  | _ => false

/-- The calls of one batch. -/
def ofWindow (w : List Sprite) : List Call := .start :: (w.map .offer ++ [.finish])

theorem filterMap_ofWindow (w : List Sprite) : (ofWindow w).filterMap sprite? = w := by
  have hoffers : (w.map offer).filterMap sprite? = w := by
    rw [List.filterMap_map]
    exact List.filterMap_some
  rw [ofWindow, List.filterMap_cons_none rfl, List.filterMap_append, hoffers]
  exact List.append_nil w

/-- Counting all but offers is counting what opens and closes a batch. -/
theorem countP_ofWindow {p : Call → Bool} (hoffer : ∀ s, p (.offer s) = false) (w : List Sprite) :
    (ofWindow w).countP p = [start, finish].countP p := by
  have hoffers : (w.map offer).countP p = 0 := by
    rw [List.countP_eq_zero]
    simp [hoffer]
  rw [ofWindow, List.countP_cons, List.countP_append, hoffers, Nat.zero_add, ← List.countP_cons]

theorem filterMap_flatMap_ofWindow (windows : List (List Sprite)) :
    (windows.flatMap ofWindow).filterMap sprite? = windows.flatten := by
  rw [List.filterMap_flatMap]
  simp only [filterMap_ofWindow, List.flatMap_id']

/-- What every window has once there is as often as there are windows. -/
theorem countP_flatMap_ofWindow {p : Call → Bool} (hoffer : ∀ s, p (.offer s) = false)
    (honce : [start, finish].countP p = 1) (windows : List (List Sprite)) :
    (windows.flatMap ofWindow).countP p = windows.length := by
  have hwindow : (fun w => (ofWindow w).countP p) = fun _ => 1 := by
    funext w
    rw [countP_ofWindow hoffer, honce]
  rw [List.countP_flatMap, Function.comp_def, hwindow, List.map_const', List.sum_replicate_nat,
    Nat.mul_one]

end Call

variable {σ : Type}

/-- How a call that returns something ends. -/
def ending {α : Type} (x : σ × Except Error α) : σ × Except Error Unit :=
  (x.1, x.2.map fun _ => ())

variable {p : Player σ} {st st' : σ} {e : Error} {calls later : List Call}
  {r : σ × Except Error Unit}

def call (p : Player σ) (st : σ) : Call → σ × Except Error Unit
  | .start => p.start st
  | .offer s => ending (p.offer st s)
  | .finish => p.finish st

/-- Calls made from a state on, each where the one before has succeeded, and how the last one ends. -/
inductive Makes (p : Player σ) : σ → List Call → σ × Except Error Unit → Prop
  | none (st : σ) : Makes p st [] (st, .ok ())
  | failed {st st' : σ} {c : Call} {e : Error} :
      p.call st c = (st', .error e) → Makes p st [c] (st', .error e)
  | next {st st' : σ} {c : Call} {calls : List Call} {r : σ × Except Error Unit} :
      p.call st c = (st', .ok ()) → Makes p st' calls r → Makes p st (c :: calls) r

/-- Calls are made one after the other, all of them unless one fails. -/
def Runs (p : Player σ) (st : σ) (calls : List Call) (r : σ × Except Error Unit) : Prop :=
  ∃ made rest, calls = made ++ rest ∧ p.Makes st made r ∧ (r.2 = .ok () → rest = [])

theorem runs_nil (p : Player σ) (st : σ) : p.Runs st [] (st, .ok ()) :=
  ⟨[], [], rfl, .none st, fun _ => rfl⟩

/-- A failure ends the calls, whatever was to come. -/
theorem Runs.append_of_error (h : p.Runs st calls (st', .error e)) :
    p.Runs st (calls ++ later) (st', .error e) := by
  obtain ⟨made, rest, rfl, hmade, -⟩ := h
  exact ⟨made, rest ++ later, List.append_assoc made rest later, hmade, fun hok => by cases hok⟩

theorem Makes.append (h : p.Makes st calls (st', .ok ())) (hlater : p.Makes st' later r) :
    p.Makes st (calls ++ later) r := by
  generalize hr : ((st', .ok ()) : σ × Except Error Unit) = r' at h
  induction h with
  | none st =>
    obtain rfl := (Prod.mk.inj hr).1
    exact hlater
  | failed hcall => cases hr
  | next hcall _ ih => exact .next hcall (ih hr)

theorem Runs.append (h : p.Runs st calls (st', .ok ())) (hlater : p.Runs st' later r) :
    p.Runs st (calls ++ later) r := by
  obtain ⟨made, rest, rfl, hmade, hall⟩ := h
  obtain ⟨made', rest', rfl, hmade', hall'⟩ := hlater
  obtain rfl := hall rfl
  exact ⟨made ++ made', rest', by simp, hmade.append hmade', hall'⟩

theorem runs_call (p : Player σ) (st : σ) (c : Call) : p.Runs st [c] (p.call st c) := by
  cases hcall : p.call st c with
  | mk st' r =>
    cases r with
    | ok u => exact ⟨[c], [], rfl, .next hcall (.none st'), fun _ => rfl⟩
    | error e => exact ⟨[c], [], rfl, .failed hcall, fun _ => rfl⟩

theorem runs_offerAll (p : Player σ) (st : σ) (played : Nat) (sprites : List Sprite) :
    p.Runs st (sprites.map .offer) (ending (p.offerAll st played sprites)) := by
  induction sprites generalizing st played with
  | nil => exact p.runs_nil st
  | cons s sprites ih =>
    have hfirst := p.runs_call st (.offer s)
    rw [call] at hfirst
    rw [List.map_cons, ← List.singleton_append, offerAll]
    cases hoffer : p.offer st s with
    | mk st' r =>
      rw [hoffer] at hfirst
      cases r with
      | ok accepted => exact hfirst.append (ih st' _)
      | error e => exact hfirst.append_of_error

theorem runs_playBatch (p : Player σ) (st : σ) (w : List Sprite) :
    p.Runs st (Call.ofWindow w) (ending (p.playBatch st w)) := by
  have hstart := p.runs_call st .start
  rw [call] at hstart
  rw [Call.ofWindow, ← List.singleton_append, playBatch]
  cases hcall : p.start st with
  | mk st₁ r =>
    rw [hcall] at hstart
    cases r with
    | error e => exact hstart.append_of_error
    | ok u =>
      refine hstart.append ?_
      have hoffers := p.runs_offerAll st₁ 0 w
      dsimp only
      cases hplayed : p.offerAll st₁ 0 w with
      | mk st₂ r =>
        rw [hplayed] at hoffers
        cases r with
        | error e => exact hoffers.append_of_error
        | ok n =>
          refine hoffers.append ?_
          have hfinish := p.runs_call st₂ .finish
          rw [call] at hfinish
          dsimp only
          cases hend : p.finish st₂ with
          | mk st₃ r =>
            rw [hend] at hfinish
            cases r <;> exact hfinish

end Causeway.Player

namespace Causeway.Script

variable {σ : Type}

theorem runs_playWindows (p : Player σ) (st : σ) (windows : List (List Sprite)) :
    p.Runs st (windows.flatMap Player.Call.ofWindow) (playWindows p st windows) := by
  induction windows generalizing st with
  | nil => exact p.runs_nil st
  | cons w windows ih =>
    have hfirst := p.runs_playBatch st w
    rw [List.flatMap_cons, playWindows]
    cases hbatch : p.playBatch st w with
    | mk st' r =>
      rw [hbatch] at hfirst
      cases r with
      | ok n => exact hfirst.append (ih st')
      | error e => exact hfirst.append_of_error

/-- A script without a failure of its own ends as its calls do. -/
theorem runs_playOn (p : Player σ) (st : σ) {s : Script} (hs : s.failure = none) :
    p.Runs st (s.windows.flatMap Player.Call.ofWindow) (s.playOn p st) := by
  have hwindows := runs_playWindows p st s.windows
  unfold playOn
  rw [hs]
  cases hplayed : playWindows p st s.windows with
  | mk st' r =>
    rw [hplayed] at hwindows
    cases r <;> exact hwindows

end Causeway.Script
