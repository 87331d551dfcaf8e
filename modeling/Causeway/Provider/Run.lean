import Causeway.DataSource

/-!
What a call does: the events that others can see, in order, and how it ends. A call may return, fail,
panic, or be dropped by its caller.
-/

namespace Causeway

/-- Where an SSH session is opened. -/
structure SshTarget where
  gateway : String
  port : UInt16
  user : String
  deriving DecidableEq, Repr, Inhabited

inductive Event where
  /-- No session came of an attempt to connect. -/
  | refused (target : SshTarget)
  | connected (target : SshTarget)
  /-- A local port leads to a port of a host that the gateway sees. -/
  | forwarded (localPort : UInt16) (host : String) (port : UInt16)
  /-- The call behind the tunnel begins. -/
  | entered (ds : DataSource)
  | left
  | disconnected
  /-- A provider notes the descriptor that it is given. -/
  | received (provider : String) (ds : DataSource)

inductive Outcome (α : Type) where
  | ok (a : α)
  | error (e : Error)
  | panicked
  | cancelled

namespace Outcome

def ofExcept {α : Type} : Except Error α → Outcome α
  | .ok a => .ok a
  | .error e => .error e

def map {α β : Type} (f : α → β) : Outcome α → Outcome β
  | .ok a => .ok (f a)
  | .error e => .error e
  | .panicked => .panicked
  | .cancelled => .cancelled

end Outcome

structure Run (α : Type) where
  events : List Event := []
  outcome : Outcome α

namespace Run

def map {α β : Type} (f : α → β) (r : Run α) : Run β := ⟨r.events, r.outcome.map f⟩

/-- A run that nobody notices. -/
def ofExcept {α : Type} (r : Except Error α) : Run α := { outcome := .ofExcept r }

theorem eq_ok_of_ofExcept {α : Type} {x : Except Error α} {a : α}
    (h : ofExcept x = .ofExcept (.ok a)) : x = .ok a := by
  have houtcome : Outcome.ofExcept x = .ok a := congrArg outcome h
  cases x with
  | ok b => rw [Outcome.ok.inj houtcome]
  | error e => cases houtcome

end Run

end Causeway
