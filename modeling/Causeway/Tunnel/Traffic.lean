import Causeway.Tunnel.Call

/-!
Calls that go on side by side. A move lets one call take a step, or drops it; what the call shows is
logged with its place. Calls on one tunnel share its default user; how the connector answers a call
belongs to the call, since the same gateway may answer the next one differently.
-/

namespace Causeway

inductive Move where
  | advance (i : Nat)
  | cancel (i : Nat)
  deriving DecidableEq, Repr

structure Traffic (α : Type) where
  calls : List (Call α × Stage α)
  log : List (Nat × Sign) := []

namespace Traffic

variable {α : Type}

def start (calls : List (Call α)) : Traffic α where
  calls := calls.map (·, .started)

def act (t : Traffic α) (i : Nat) (f : Call α → Stage α → List Sign × Stage α) : Traffic α :=
  match t.calls[i]? with
  | none => t
  | some (c, s) => {
      calls := t.calls.set i (c, (f c s).2)
      log := t.log ++ (f c s).1.map (i, ·) }

def move (t : Traffic α) : Move → Traffic α
  | .advance i => t.act i Call.step
  | .cancel i => t.act i Call.cancel

def run (t : Traffic α) (moves : List Move) : Traffic α := moves.foldl move t

/-- What the call at a place has done itself, in order. -/
def doings (t : Traffic α) (i : Nat) : List Event :=
  t.log.filterMap fun e => if e.1 = i then e.2.own? else none

end Traffic

end Causeway
