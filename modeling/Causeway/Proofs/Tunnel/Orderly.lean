import Causeway.Proofs.Tunnel.Course

/-!
What a call owes to others. A session is closed once and not before the backend is left, the backend
is entered once and behind a forwarded port, and a call that is over has the result of the backend
or of the first step that failed. All of it is told from the doings of the call alone, and holds
wherever a call can stand.
-/

namespace Causeway.Call

variable {α : Type} {c : Call α} {cancelled : Prop} {s : Stage α} {doings : List Event}

/-- What has been done before the backend is entered. -/
def approach (doings : List Event) : List Event := doings.takeWhile fun e => !e.enters

structure Orderly (c : Call α) (cancelled : Prop) (s : Stage α) (doings : List Event) : Prop where
  /-- A call opens one session at most. -/
  opens_once : doings.countP Event.opens ≤ 1
  closes_once : doings.countP Event.closes ≤ doings.countP Event.opens
  /-- A call that is over has closed the session that it opened. -/
  closed : s.result?.isSome → doings.countP Event.closes = doings.countP Event.opens
  open_while_running : (∃ ds, .entered ds ∈ doings) → .left ∉ doings → .disconnected ∉ doings
  enters_once : doings.countP Event.enters ≤ 1
  /-- A remote data source is reached through the port that the call itself forwarded. -/
  enters_remote : c.dataSource.remote = true → ∀ ds, .entered ds ∈ doings →
    ∃ port, c.tunnel.connector.freePort = .ok port ∧
      approach doings =
        [.connected c.target, .forwarded port c.dataSource.server c.dataSource.port] ∧
      ds = { c.dataSource with server := "localhost", port, remote := false }
  /-- Any other data source opens no session and is passed on as it is. -/
  enters_local : c.dataSource.remote = false →
    (∀ e ∈ doings, e.opens = false ∧ e.forwards = false) ∧
      ∀ ds, .entered ds ∈ doings → ds = c.dataSource
  result : ∀ r, s.result? = some r →
    (∃ ds, .entered ds ∈ doings ∧ c.Answered cancelled ds r) ∨
      (∀ ds, .entered ds ∉ doings) ∧ c.Refused cancelled r

/-- How often sessions are opened and closed and the backend is entered, at every stage. -/
theorem Stands.counts (h : c.Stands cancelled s doings) :
    doings.countP Event.opens ≤ 1 ∧ doings.countP Event.closes ≤ doings.countP Event.opens ∧
      doings.countP Event.enters ≤ 1 := by
  cases h with
  | calling henter | running henter _ | releasing henter _ | leaving henter _ | released henter _
  | answered henter _ => cases henter <;> simp [List.countP_cons]
  | _ => simp [List.countP_cons]

theorem Stands.closed (h : c.Stands cancelled s doings) (hover : s.result?.isSome) :
    doings.countP Event.closes = doings.countP Event.opens := by
  cases h with
  | unstarted | unconnected | hungUp | answeredDirect => simp [List.countP_cons]
  | answered henter _ => cases henter; simp [List.countP_cons]
  | _ => simp [Stage.result?] at hover

theorem Stands.open_while_running (h : c.Stands cancelled s doings)
    (henters : ∃ ds, .entered ds ∈ doings) (hleft : .left ∉ doings) : .disconnected ∉ doings := by
  cases h with
  | calling henter | running henter _ => cases henter <;> simp
  | releasing | leaving | released | answeredDirect | answered => simp at hleft
  | _ => simp at henters

/-- Between coming to the backend and the end, it is entered with one descriptor. -/
theorem Entering.of_mem {g : Option Guard} {before after : List Event} {ds ds' : DataSource}
    (henter : c.Entering ds g before) (hafter : ∀ x, .entered x ∉ after)
    (hmem : .entered ds' ∈ before ++ .entered ds :: after) :
    c.Entering ds' g (approach (before ++ .entered ds :: after)) := by
  have hds : ds' = ds := by
    cases henter <;> simpa [hafter] using hmem
  have hbefore : approach (before ++ .entered ds :: after) = before := by
    cases henter <;> rfl
  rw [hds, hbefore]
  exact henter

/-- A call that entered the backend came to it by `Entering`. -/
theorem Stands.entering (h : c.Stands cancelled s doings) {ds : DataSource}
    (hmem : .entered ds ∈ doings) : ∃ g, c.Entering ds g (approach doings) := by
  cases h with
  | calling henter => cases henter <;> simp at hmem
  | running henter _ | releasing henter _ | leaving henter _ | released henter _ | answered henter _ =>
    exact ⟨_, henter.of_mem (by simp) hmem⟩
  | answeredDirect hlocal _ =>
    have hnone : ∀ x, Event.entered x ∉ [Event.left] := by simp
    exact ⟨none, (Entering.direct hlocal).of_mem hnone hmem⟩
  | _ => simp at hmem

theorem Stands.enters_remote (h : c.Stands cancelled s doings)
    (hremote : c.dataSource.remote = true) {ds : DataSource} (henters : .entered ds ∈ doings) :
    ∃ port, c.tunnel.connector.freePort = .ok port ∧
      approach doings =
        [.connected c.target, .forwarded port c.dataSource.server c.dataSource.port] ∧
      ds = { c.dataSource with server := "localhost", port, remote := false } := by
  obtain ⟨g, henter⟩ := h.entering henters
  generalize approach doings = before at henter
  cases henter with
  | direct hlocal => simp [hremote] at hlocal
  | @tunneled port hopen => exact ⟨port, hopen.freePort, rfl, rfl⟩

theorem Stands.enters_local (h : c.Stands cancelled s doings)
    (hlocal : c.dataSource.remote = false) :
    (∀ e ∈ doings, e.opens = false ∧ e.forwards = false) ∧
      ∀ ds, .entered ds ∈ doings → ds = c.dataSource := by
  cases h with
  | calling henter | running henter _ =>
    cases henter with
    | direct _ => simp
    | tunneled hopen => simp [hopen.remote] at hlocal
  | releasing henter _ | leaving henter _ | released henter _ | answered henter _ =>
    cases henter with
    | tunneled hopen => simp [hopen.remote] at hlocal
  | forwarding hremote | unforwarded hremote | unconnected hremote | hungUp hremote =>
    simp [hremote] at hlocal
  | _ => simp

theorem Stands.result (h : c.Stands cancelled s doings) {r : Outcome α} (hr : s.result? = some r) :
    (∃ ds, .entered ds ∈ doings ∧ c.Answered cancelled ds r) ∨
      (∀ ds, .entered ds ∉ doings) ∧ c.Refused cancelled r := by
  cases h with
  | unstarted hrefuse | unconnected _ hrefuse | hungUp _ hrefuse =>
    obtain rfl : _ = r := by simpa [Stage.result?] using hr
    exact .inr ⟨by simp, hrefuse⟩
  | answeredDirect _ hanswer | answered _ hanswer =>
    obtain rfl : _ = r := by simpa [Stage.result?] using hr
    exact .inl ⟨_, by simp, hanswer⟩
  | _ => simp [Stage.result?] at hr

theorem Stands.orderly (h : c.Stands cancelled s doings) : c.Orderly cancelled s doings where
  opens_once := h.counts.1
  closes_once := h.counts.2.1
  closed := h.closed
  open_while_running := h.open_while_running
  enters_once := h.counts.2.2
  enters_remote hremote _ henters := h.enters_remote hremote henters
  enters_local := h.enters_local
  result _ hr := h.result hr

end Causeway.Call
