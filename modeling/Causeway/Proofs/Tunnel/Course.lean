import Causeway.Tunnel.Traffic

/-!
Where a call can stand and what it has done by then. `Stands` lists the stages that a call comes
through together with its own doings so far; a step keeps to the list (`Stands.step`), and so does
dropping the call (`Stands.cancel`). What a call owes to others, `Orderly`, is read off the list.
-/

namespace Causeway

/-- Whether an outcome is a result that lets a call go on. -/
def Outcome.isOk {α : Type} : Outcome α → Bool
  | .ok _ => true
  | _ => false

@[simp]
theorem Outcome.isOk_ok {α : Type} (a : α) : (Outcome.ok a).isOk = true := rfl

@[simp]
theorem Outcome.isOk_error {α : Type} (e : Error) :
    (Outcome.error e : Outcome α).isOk = false := rfl

namespace Event

@[simp]
def opens : Event → Bool
  | .connected _ => true
  | _ => false

@[simp]
def closes : Event → Bool
  | .disconnected => true
  | _ => false

@[simp]
def enters : Event → Bool
  | .entered _ => true
  | _ => false

@[simp]
def forwards : Event → Bool
  | .forwarded _ _ _ => true
  | _ => false

end Event

/-- The own doings among what a step shows. -/
def Sign.owned (signs : List Sign) : List Event := signs.filterMap Sign.own?

@[simp]
theorem Sign.owned_nil : Sign.owned [] = [] := rfl

@[simp]
theorem Sign.owned_own (e : Event) : Sign.owned [.own e] = [e] := rfl

@[simp]
theorem Sign.owned_inner (e : Event) : Sign.owned [.inner e] = [] := rfl

namespace Call

variable {α : Type}

/-- The steps that a call takes before the backend, in order, with how they turn out. -/
def hurdles (c : Call α) : List (Outcome Unit) :=
  if c.dataSource.remote then
    [.ofExcept c.dataSource.validateRemote, .ofExcept (c.tunnel.connector.freePort.map fun _ => ()),
      c.tunnel.connector.connect c.target] ++
    (c.tunnel.connector.freePort.toOption.map fun port =>
      c.tunnel.connector.forward c.target port c.dataSource.server c.dataSource.port).toList
  else []

def firstFailure? (c : Call α) : Option (Outcome Unit) := c.hurdles.find? fun r => !r.isOk

/-- A local port leads through the session of the call to the server of its data source. -/
structure Opened (c : Call α) (port : UInt16) : Prop where
  remote : c.dataSource.remote = true
  valid : c.dataSource.validateRemote = .ok ()
  freePort : c.tunnel.connector.freePort = .ok port
  connected : c.tunnel.connector.connect c.target = .ok ()
  forwarded :
    c.tunnel.connector.forward c.target port c.dataSource.server c.dataSource.port = .ok ()

/-- What a call has done when it comes to the backend, with which descriptor and which guard. -/
inductive Entering (c : Call α) : DataSource → Option Guard → List Event → Prop where
  | direct (hlocal : c.dataSource.remote = false) : Entering c c.dataSource none []
  | tunneled {port : UInt16} (hopen : c.Opened port) :
      Entering c (c.dataSource.toLocal port) (some { target := c.target })
        [.connected c.target, .forwarded port c.dataSource.server c.dataSource.port]

/-- The result of a call that came no further than its first failing step. -/
def Refused (c : Call α) (cancelled : Prop) (r : Outcome α) : Prop :=
  (∃ q, c.firstFailure? = some q ∧ r = failed q) ∨ cancelled ∧ r = .cancelled

/-- The result of a call whose backend got a descriptor. -/
def Answered (c : Call α) (cancelled : Prop) (ds : DataSource) (r : Outcome α) : Prop :=
  r = (c.backend ds).outcome ∨ cancelled ∧ r = .cancelled

/-- Where a call can stand, with its own doings so far. -/
inductive Stands (c : Call α) (cancelled : Prop) : Stage α → List Event → Prop where
  | started : Stands c cancelled .started []
  | connecting {port : UInt16} (hremote : c.dataSource.remote = true)
      (hvalid : c.dataSource.validateRemote = .ok ())
      (hport : c.tunnel.connector.freePort = .ok port) : Stands c cancelled (.connecting port) []
  | forwarding {port : UInt16} (hremote : c.dataSource.remote = true)
      (hvalid : c.dataSource.validateRemote = .ok ())
      (hport : c.tunnel.connector.freePort = .ok port)
      (hconnect : c.tunnel.connector.connect c.target = .ok ()) :
      Stands c cancelled (.forwarding port { target := c.target }) [.connected c.target]
  | calling {ds : DataSource} {g : Option Guard} {before : List Event}
      (henter : c.Entering ds g before) : Stands c cancelled (.calling ds g) before
  | running {ds : DataSource} {g : Option Guard} {before : List Event} {rest : Run α}
      (henter : c.Entering ds g before) (hrest : rest.outcome = (c.backend ds).outcome) :
      Stands c cancelled (.running rest g) (before ++ [.entered ds])
  | releasing {ds : DataSource} {g : Guard} {before : List Event} {r : Outcome α}
      (henter : c.Entering ds (some g) before) (hanswer : c.Answered cancelled ds r) :
      Stands c cancelled (.releasing g r) (before ++ [.entered ds, .left])
  | unforwarded {r : Outcome α} (hremote : c.dataSource.remote = true)
      (hrefuse : c.Refused cancelled r) :
      Stands c cancelled (.dropping { target := c.target } r) [.connected c.target]
  | leaving {ds : DataSource} {g : Guard} {before : List Event} {r : Outcome α}
      (henter : c.Entering ds (some g) before) (hanswer : c.Answered cancelled ds r) :
      Stands c cancelled (.dropping g r) (before ++ [.entered ds, .left])
  | released {ds : DataSource} {g : Guard} {before : List Event} {r : Outcome α}
      (henter : c.Entering ds (some g) before) (hanswer : c.Answered cancelled ds r) :
      Stands c cancelled (.dropping { g with released := true } r)
        (before ++ [.entered ds, .left, .disconnected])
  | unstarted {r : Outcome α} (hrefuse : c.Refused cancelled r) :
      Stands c cancelled (.finished r) []
  | unconnected {r : Outcome α} (hremote : c.dataSource.remote = true)
      (hrefuse : c.Refused cancelled r) :
      Stands c cancelled (.finished r) [.refused c.target]
  | hungUp {r : Outcome α} (hremote : c.dataSource.remote = true)
      (hrefuse : c.Refused cancelled r) :
      Stands c cancelled (.finished r) [.connected c.target, .disconnected]
  | answeredDirect {r : Outcome α} (hlocal : c.dataSource.remote = false)
      (hanswer : c.Answered cancelled c.dataSource r) :
      Stands c cancelled (.finished r) [.entered c.dataSource, .left]
  | answered {ds : DataSource} {g : Guard} {before : List Event} {r : Outcome α}
      (henter : c.Entering ds (some g) before) (hanswer : c.Answered cancelled ds r) :
      Stands c cancelled (.finished r) (before ++ [.entered ds, .left, .disconnected])

variable {c : Call α} {cancelled : Prop} {s : Stage α} {doings : List Event}

/-! ### The first step that fails -/

theorem firstFailure?_of_invalid {e : Error} (hremote : c.dataSource.remote = true)
    (hvalid : c.dataSource.validateRemote = .error e) : c.firstFailure? = some (.error e) := by
  simp [firstFailure?, hurdles, hremote, hvalid, Outcome.ofExcept, Outcome.isOk]

theorem firstFailure?_of_noPort {e : Error} (hremote : c.dataSource.remote = true)
    (hvalid : c.dataSource.validateRemote = .ok ())
    (hport : c.tunnel.connector.freePort = .error e) : c.firstFailure? = some (.error e) := by
  simp [firstFailure?, hurdles, hremote, hvalid, hport, Except.map, Outcome.ofExcept, Outcome.isOk]

theorem firstFailure?_of_unconnected {port : UInt16} (hremote : c.dataSource.remote = true)
    (hvalid : c.dataSource.validateRemote = .ok ())
    (hport : c.tunnel.connector.freePort = .ok port)
    (hconnect : (c.tunnel.connector.connect c.target).isOk = false) :
    c.firstFailure? = some (c.tunnel.connector.connect c.target) := by
  simp [firstFailure?, hurdles, hremote, hvalid, hport, hconnect, Except.map, Outcome.ofExcept]

theorem firstFailure?_of_unforwarded {port : UInt16} (hremote : c.dataSource.remote = true)
    (hvalid : c.dataSource.validateRemote = .ok ())
    (hport : c.tunnel.connector.freePort = .ok port)
    (hconnect : c.tunnel.connector.connect c.target = .ok ())
    (hforward : (c.tunnel.connector.forward c.target port c.dataSource.server
      c.dataSource.port).isOk = false) :
    c.firstFailure? =
      some (c.tunnel.connector.forward c.target port c.dataSource.server c.dataSource.port) := by
  simp [firstFailure?, hurdles, hremote, hvalid, hport, hconnect, hforward, Except.map,
    Except.toOption, Outcome.ofExcept]

/-! ### Steps -/

theorem connect_of_ok {port : UInt16} (hconnect : c.tunnel.connector.connect c.target = .ok ()) :
    c.connect port = ([.own (.connected c.target)], .forwarding port { target := c.target }) := by
  simp only [connect, hconnect]

theorem connect_of_not_ok {port : UInt16}
    (hconnect : (c.tunnel.connector.connect c.target).isOk = false) :
    c.connect port = ([.own (.refused c.target)],
      .finished (failed (c.tunnel.connector.connect c.target))) := by
  unfold connect
  split
  · simp_all
  · rfl

theorem forward_of_ok {port : UInt16} {g : Guard}
    (hforward : c.tunnel.connector.forward g.target port c.dataSource.server c.dataSource.port
      = .ok ()) :
    c.forward port g = ([.own (.forwarded port c.dataSource.server c.dataSource.port)],
      .calling (c.dataSource.toLocal port) (some g)) := by
  simp only [forward, hforward]

theorem forward_of_not_ok {port : UInt16} {g : Guard}
    (hforward : (c.tunnel.connector.forward g.target port c.dataSource.server
      c.dataSource.port).isOk = false) :
    c.forward port g = ([], .dropping g
      (failed (c.tunnel.connector.forward g.target port c.dataSource.server c.dataSource.port))) := by
  dsimp only [forward]
  split
  · simp_all
  · rfl

theorem eq_ok_of_isOk {q : Outcome Unit} (hok : q.isOk = true) : q = .ok () := by
  cases q with
  | ok _ => rfl
  | error e => simp at hok
  | panicked => exact absurd hok (by decide)
  | cancelled => exact absurd hok (by decide)

theorem Refused.of_failure {q : Outcome Unit} (hfailure : c.firstFailure? = some q) :
    c.Refused cancelled (failed q) := .inl ⟨q, hfailure, rfl⟩

theorem Entering.unreleased {ds : DataSource} {g : Guard} {before : List Event}
    (henter : c.Entering ds (some g) before) : g.released = false := by
  cases henter
  rfl

theorem stands_start : c.Stands cancelled c.start [] := by
  unfold start
  cases hremote : c.dataSource.remote with
  | false => exact .calling (.direct hremote)
  | true =>
    simp only [Bool.not_true, Bool.false_eq_true, if_false]
    cases hvalid : c.dataSource.validateRemote with
    | error e => exact .unstarted (.of_failure (firstFailure?_of_invalid hremote hvalid))
    | ok _ =>
      cases hport : c.tunnel.connector.freePort with
      | error e => exact .unstarted (.of_failure (firstFailure?_of_noPort hremote hvalid hport))
      | ok port => exact .connecting hremote hvalid hport

theorem stands_connect {port : UInt16} (hremote : c.dataSource.remote = true)
    (hvalid : c.dataSource.validateRemote = .ok ())
    (hport : c.tunnel.connector.freePort = .ok port) :
    c.Stands cancelled (c.connect port).2 (Sign.owned (c.connect port).1) := by
  cases hok : (c.tunnel.connector.connect c.target).isOk with
  | true =>
    have hconnect := eq_ok_of_isOk hok
    rw [connect_of_ok hconnect]
    exact .forwarding hremote hvalid hport hconnect
  | false =>
    rw [connect_of_not_ok hok]
    exact .unconnected hremote (.of_failure (firstFailure?_of_unconnected hremote hvalid hport hok))

theorem stands_forward {port : UInt16} (hremote : c.dataSource.remote = true)
    (hvalid : c.dataSource.validateRemote = .ok ())
    (hport : c.tunnel.connector.freePort = .ok port)
    (hconnect : c.tunnel.connector.connect c.target = .ok ()) :
    c.Stands cancelled (c.forward port { target := c.target }).2
      ([.connected c.target] ++ Sign.owned (c.forward port { target := c.target }).1) := by
  cases hok : (c.tunnel.connector.forward c.target port c.dataSource.server
      c.dataSource.port).isOk with
  | true =>
    have hforward := eq_ok_of_isOk hok
    rw [forward_of_ok hforward]
    exact .calling (.tunneled ⟨hremote, hvalid, hport, hconnect, hforward⟩)
  | false =>
    rw [forward_of_not_ok hok]
    exact .unforwarded hremote
      (.of_failure (firstFailure?_of_unforwarded hremote hvalid hport hconnect hok))

/-- Leaving the backend: with no session the call is over, else the way out depends on whether there
is a result to keep. -/
theorem stands_leave {ds : DataSource} {g : Option Guard} {before : List Event} {r : Outcome α}
    (henter : c.Entering ds g before) (hanswer : c.Answered cancelled ds r) :
    c.Stands cancelled (leave r g) (before ++ [.entered ds, .left]) := by
  cases g with
  | none =>
    cases henter with
    | direct hlocal => exact .answeredDirect hlocal hanswer
  | some g =>
    cases r with
    | ok a => exact .releasing henter hanswer
    | error e => exact .releasing henter hanswer
    | panicked => exact .leaving henter hanswer
    | cancelled => exact .leaving henter hanswer

/-- A guard that still holds its session disconnects it. -/
theorem Guard.release_of_unreleased {g : Guard} (hg : g.released = false) :
    g.release = ([.own .disconnected], { g with released := true }) := by
  simp [Guard.release, hg]

theorem Stands.step (h : c.Stands cancelled s doings) :
    c.Stands cancelled (c.step s).2 (doings ++ Sign.owned (c.step s).1) := by
  cases h with
  | started => exact stands_start
  | connecting hremote hvalid hport => exact stands_connect hremote hvalid hport
  | forwarding hremote hvalid hport hconnect => exact stands_forward hremote hvalid hport hconnect
  | calling henter => exact .running henter rfl
  | @running ds g before rest henter hrest =>
    obtain ⟨events, r⟩ := rest
    cases events with
    | nil =>
      have hleave : c.Stands cancelled _ _ := stands_leave henter (.inl hrest)
      simpa [Call.step] using hleave
    | cons e events =>
      have hrun : c.Stands cancelled (.running ⟨events, r⟩ g) (before ++ [.entered ds]) :=
        .running henter hrest
      simpa [Call.step] using hrun
  | @releasing ds g before r henter hanswer =>
    have hreleased : c.Stands cancelled _ _ := .released henter hanswer
    simpa [Call.step, Guard.release_of_unreleased henter.unreleased] using hreleased
  | unforwarded hremote hrefuse => exact .hungUp hremote hrefuse
  | @leaving ds g before r henter hanswer =>
    have hanswered : c.Stands cancelled _ _ := .answered henter hanswer
    simpa [Call.step, Guard.release_of_unreleased henter.unreleased] using hanswered
  | released henter hanswer =>
    have hanswered : c.Stands cancelled _ _ := .answered henter hanswer
    simpa [Call.step, Guard.release] using hanswered
  | unstarted hrefuse => exact .unstarted hrefuse
  | unconnected hremote hrefuse => exact .unconnected hremote hrefuse
  | hungUp hremote hrefuse => exact .hungUp hremote hrefuse
  | answeredDirect hlocal hanswer => exact .answeredDirect hlocal hanswer
  | answered henter hanswer =>
    have hanswered : c.Stands cancelled _ _ := .answered henter hanswer
    simpa [Call.step] using hanswered

/-! ### Dropping a call -/

theorem Answered.mono {cancelled' : Prop} {ds : DataSource} {r : Outcome α}
    (himp : cancelled → cancelled') (h : c.Answered cancelled ds r) : c.Answered cancelled' ds r :=
  h.imp_right (And.imp_left himp)

theorem Refused.mono {cancelled' : Prop} {r : Outcome α} (himp : cancelled → cancelled')
    (h : c.Refused cancelled r) : c.Refused cancelled' r :=
  h.imp_right (And.imp_left himp)

theorem Stands.mono {cancelled' : Prop} (himp : cancelled → cancelled')
    (h : c.Stands cancelled s doings) : c.Stands cancelled' s doings := by
  cases h with
  | started => exact .started
  | connecting hremote hvalid hport => exact .connecting hremote hvalid hport
  | forwarding hremote hvalid hport hconnect => exact .forwarding hremote hvalid hport hconnect
  | calling henter => exact .calling henter
  | running henter hrest => exact .running henter hrest
  | releasing henter hanswer => exact .releasing henter (hanswer.mono himp)
  | unforwarded hremote hrefuse => exact .unforwarded hremote (hrefuse.mono himp)
  | leaving henter hanswer => exact .leaving henter (hanswer.mono himp)
  | released henter hanswer => exact .released henter (hanswer.mono himp)
  | unstarted hrefuse => exact .unstarted (hrefuse.mono himp)
  | unconnected hremote hrefuse => exact .unconnected hremote (hrefuse.mono himp)
  | hungUp hremote hrefuse => exact .hungUp hremote (hrefuse.mono himp)
  | answeredDirect hlocal hanswer => exact .answeredDirect hlocal (hanswer.mono himp)
  | answered henter hanswer => exact .answered henter (hanswer.mono himp)

theorem Stands.cancel (h : c.Stands cancelled s doings) :
    c.Stands True (c.cancel s).2 (doings ++ Sign.owned (c.cancel s).1) := by
  have hrefuse : c.Refused True (.cancelled : Outcome α) := .inr ⟨trivial, rfl⟩
  have hstays : c.Stands True s doings := h.mono fun _ => trivial
  cases h with
  | started => exact .unstarted hrefuse
  | connecting hremote hvalid hport => exact .unconnected hremote hrefuse
  | forwarding hremote hvalid hport hconnect => exact .unforwarded hremote hrefuse
  | running henter hrest =>
    have hleave : c.Stands True _ _ := stands_leave henter (.inr ⟨trivial, rfl⟩)
    simpa [Call.cancel] using hleave
  | calling | releasing | unforwarded | leaving | released | unstarted | unconnected | hungUp
  | answeredDirect | answered =>
    -- nothing is waited for here, so the call cannot be dropped
    simpa [Call.cancel] using hstays

end Call

end Causeway
