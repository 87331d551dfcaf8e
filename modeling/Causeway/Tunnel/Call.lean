import Causeway.Provider.Service

/-!
Calls through an SSH tunnel. A call on a remote data source opens a session of its own, forwards a
free local port, runs against the local copy of the descriptor, and closes the session however it
ends. `Call.step` does one step at a time and `Call.cancel` drops the call where it waits, so that
calls can be interleaved and given up at every point.
-/

namespace Causeway

/-- How the steps around a call turn out. -/
structure Connector where
  freePort : Except Error UInt16
  connect : SshTarget → Outcome Unit
  /-- Leads a local port to a port of a host, over the session to a target. -/
  forward : SshTarget → UInt16 → String → UInt16 → Outcome Unit

/-- Opens a tunnel for the duration of one call. -/
structure Tunnel where
  connector : Connector
  /-- The user of sessions for data sources that name none. -/
  defaultUser : String

/-- What a step of a call shows: a doing of its own, or one of the backend behind it. -/
inductive Sign where
  | own (e : Event)
  | inner (e : Event)

namespace Sign

def event : Sign → Event
  | .own e => e
  | .inner e => e

def own? : Sign → Option Event
  | .own e => some e
  | .inner _ => none

end Sign

/-- Holds the session to a target until it is released. -/
structure Guard where
  target : SshTarget
  released : Bool := false
  deriving DecidableEq, Repr

/-- Only the first release disconnects. -/
def Guard.release (g : Guard) : List Sign × Guard :=
  if g.released then ([], g) else ([.own .disconnected], { g with released := true })

/-- Where a call stands. A guard is there once there is a session. -/
inductive Stage (α : Type) where
  | started
  /-- Validated, with a local port chosen. -/
  | connecting (port : UInt16)
  | forwarding (port : UInt16) (guard : Guard)
  /-- About to call with a descriptor. -/
  | calling (ds : DataSource) (guard : Option Guard)
  /-- Behind the tunnel, with what the backend has still to do. -/
  | running (rest : Run α) (guard : Option Guard)
  /-- Back from a backend that gave a result. -/
  | releasing (guard : Guard) (r : Outcome α)
  /-- On every way out, where the guard goes out of scope. -/
  | dropping (guard : Guard) (r : Outcome α)
  | finished (r : Outcome α)

namespace Stage

variable {α : Type}

def result? : Stage α → Option (Outcome α)
  | .finished r => some r
  | _ => none

/-- The most steps that lead on from a stage, those of the backend apart. -/
def rank : Stage α → Nat
  | .started => 7
  | .connecting _ => 6
  | .forwarding _ _ => 5
  | .calling _ _ => 4
  | .running _ _ => 3
  | .releasing _ _ => 2
  | .dropping _ _ => 1
  | .finished _ => 0

/-- How much the backend is still going to show. -/
def pending : Stage α → Nat
  | .running rest _ => rest.events.length
  | _ => 0

end Stage

namespace Tunnel

def target (t : Tunnel) (ds : DataSource) : SshTarget where
  gateway := ds.gateway
  port := ds.sshPort
  user := if Text.isBlankText ds.sshUser then t.defaultUser else ds.sshUser

end Tunnel

/-- A call on a data source, to be made through a tunnel. -/
structure Call (α : Type) where
  tunnel : Tunnel
  dataSource : DataSource
  backend : DataSource → Run α

namespace Call

variable {α : Type}

def target (c : Call α) : SshTarget := c.tunnel.target c.dataSource

def failed : Outcome Unit → Outcome α
  | .ok _ => .cancelled
  | .error e => .error e
  | .panicked => .panicked
  | .cancelled => .cancelled

/-- Only remote data sources need a tunnel; they have to be valid, and a local port has to be free. -/
def start (c : Call α) : Stage α :=
  if !c.dataSource.remote then .calling c.dataSource none
  else match c.dataSource.validateRemote with
    | .error e => .finished (.error e)
    | .ok _ =>
      match c.tunnel.connector.freePort with
      | .error e => .finished (.error e)
      | .ok port => .connecting port

def connect (c : Call α) (port : UInt16) : List Sign × Stage α :=
  match c.tunnel.connector.connect c.target with
  | .ok _ => ([.own (.connected c.target)], .forwarding port { target := c.target })
  | r => ([.own (.refused c.target)], .finished (failed r))

def forward (c : Call α) (port : UInt16) (g : Guard) : List Sign × Stage α :=
  let ds := c.dataSource
  match c.tunnel.connector.forward g.target port ds.server ds.port with
  | .ok _ => ([.own (.forwarded port ds.server ds.port)], .calling (ds.toLocal port) (some g))
  | r => ([], .dropping g (failed r))

/-- After the backend: a result is kept until the session is released, a panic leads straight out. -/
def leave (r : Outcome α) : Option Guard → Stage α
  | none => .finished r
  | some g =>
    match r with
    | .ok _ | .error _ => .releasing g r
    | .panicked | .cancelled => .dropping g r

def step (c : Call α) : Stage α → List Sign × Stage α
  | .started => ([], c.start)
  | .connecting port => c.connect port
  | .forwarding port g => c.forward port g
  | .calling ds g => ([.own (.entered ds)], .running (c.backend ds) g)
  | .running ⟨e :: events, r⟩ g => ([.inner e], .running ⟨events, r⟩ g)
  | .running ⟨[], r⟩ g => ([.own .left], leave r g)
  | .releasing g r => (g.release.1, .dropping g.release.2 r)
  | .dropping g r => (g.release.1, .finished r)
  | .finished r => ([], .finished r)

/-- Drops the call. Only where it waits for others can it be dropped; what it holds there goes out of
scope, the backend before the guard. -/
def cancel (c : Call α) : Stage α → List Sign × Stage α
  | .started => ([], .finished .cancelled)
  | .connecting _ => ([.own (.refused c.target)], .finished .cancelled)
  | .forwarding _ g => ([], .dropping g .cancelled)
  | .running _ g => ([.own .left], leave .cancelled g)
  | s => ([], s)

theorem step_decreases (c : Call α) {s : Stage α} (hs : s.result? = none) :
    Prod.Lex (· < ·) (· < ·) ((c.step s).2.rank, (c.step s).2.pending) (s.rank, s.pending) := by
  cases s with
  | started =>
    apply Prod.Lex.left
    simp only [step, start]
    split
    · simp [Stage.rank]
    · split
      · simp [Stage.rank]
      · split <;> simp [Stage.rank]
  | connecting port =>
    apply Prod.Lex.left
    simp only [step, connect]
    split <;> simp [Stage.rank]
  | forwarding port g =>
    apply Prod.Lex.left
    simp only [step, forward]
    split <;> simp [Stage.rank]
  | calling ds g =>
    apply Prod.Lex.left
    simp [step, Stage.rank]
  | running rest g =>
    obtain ⟨events, r⟩ := rest
    cases events with
    | nil =>
      apply Prod.Lex.left
      cases g with
      | none => simp [step, leave, Stage.rank]
      | some g => cases r <;> simp [step, leave, Stage.rank]
    | cons e events =>
      exact Prod.Lex.right _ (Nat.lt_succ_self _)
  | releasing g r =>
    apply Prod.Lex.left
    simp [step, Stage.rank]
  | dropping g r =>
    apply Prod.Lex.left
    simp [step, Stage.rank]
  | finished r => simp [Stage.result?] at hs

def complete (c : Call α) (s : Stage α) : List Sign × Outcome α :=
  match _hs : s.result? with
  | some r => ([], r)
  | none =>
    let (more, r) := complete c (c.step s).2
    ((c.step s).1 ++ more, r)
termination_by (s.rank, s.pending)
decreasing_by exact c.step_decreases _hs

theorem complete_finished (c : Call α) (r : Outcome α) : c.complete (.finished r) = ([], r) := by
  rw [complete]
  rfl

theorem complete_step (c : Call α) {s : Stage α} (hs : s.result? = none) :
    c.complete s =
      ((c.step s).1 ++ (c.complete (c.step s).2).1, (c.complete (c.step s).2).2) := by
  rw [complete]
  split
  · rename_i r hr
    rw [hs] at hr
    cases hr
  · rfl

def run (c : Call α) : Run α :=
  let (signs, r) := c.complete .started
  ⟨signs.map Sign.event, r⟩

end Call

namespace Tunnel

/-- Runs a call against a local copy of a descriptor. -/
def call {α : Type} (t : Tunnel) (ds : DataSource) (backend : DataSource → Run α) : Run α :=
  Call.run ⟨t, ds, backend⟩

/-- A service of which every call runs in a tunnel of its own. -/
def around {c : Capability} (t : Tunnel) (s : Service c) : Service c where
  tags := s.tags
  serve ds request := t.call ds fun copy => s.serve copy request

end Tunnel

end Causeway
