import Causeway.Ssh.Client

/-!
What is left of a master. A turn keeps an opening sound: as long as the process may run, its handle
reaches it and kills it on going out of scope. So no process outlives an opening that gave no session, and
a session that is held is killed once. The socket stays in one case, when the opening is dropped where it
waits: there the handle goes out of scope and nothing removes the file.
-/

namespace Causeway.Ssh

namespace Master

variable {m : Master}

/-- The process runs no more and the socket is removed. -/
structure Gone (m : Master) : Prop where
  ended : m.ended.isSome
  socket : m.socket = false

/-- Killed once, and not again when the handle goes out of scope. -/
structure PutDown (m : Master) : Prop extends Gone m where
  kills : m.kills = 1
  killOnDrop : m.killOnDrop = false

/-- In reach of the handle, and not killed yet. -/
structure Untouched (m : Master) : Prop where
  reaped : m.reaped = false
  killOnDrop : m.killOnDrop = true
  kills : m.kills = 0

@[simp]
theorem socket_kill (m : Master) : m.kill.socket = m.socket := by
  unfold kill
  split <;> rfl

@[simp]
theorem socket_letGo (m : Master) : m.letGo.socket = m.socket := by
  unfold letGo
  split
  · exact m.socket_kill
  · rfl

theorem deed_of_ended (h : m.ended.isSome) (d : Deed) : m.deed d = m := if_pos h

theorem isSome_ended_kill (h : m.reaped = true → m.ended.isSome) : m.kill.ended.isSome := by
  unfold kill
  split
  · rename_i hreaped
    exact h hreaped
  · cases hended : m.ended <;> simp

theorem isSome_ended_letGo (h : m.ended.isSome) : m.letGo.ended.isSome := by
  unfold letGo
  split
  · exact isSome_ended_kill fun _ => h
  · exact h

namespace Untouched

theorem deed (h : m.Untouched) (d : Deed) : (m.deed d).Untouched := by
  unfold Master.deed
  split
  · exact h
  · cases d <;> exact ⟨h.reaped, h.killOnDrop, h.kills⟩

theorem isSome_ended_kill (h : m.Untouched) : m.kill.ended.isSome :=
  Master.isSome_ended_kill fun hreaped => absurd (h.reaped.symm.trans hreaped) Bool.false_ne_true

theorem isSome_ended_letGo (h : m.Untouched) : m.letGo.ended.isSome := by
  rw [letGo, if_pos h.killOnDrop]
  exact h.isSome_ended_kill

theorem putDown (h : m.Untouched) : m.kill.removeSocket.PutDown where
  ended := h.isSome_ended_kill
  socket := rfl
  kills := by simp [kill, removeSocket, h.reaped, h.kills]
  killOnDrop := by simp [kill, removeSocket, h.reaped]

end Untouched

theorem PutDown.letGo (h : m.PutDown) : m.letGo = m := if_neg (by simp [h.killOnDrop])

end Master

namespace Session

/-- Untouched until it is closed, and put down from then on. -/
def Sound (s : Session) : Prop := if s.closed then s.master.PutDown else s.master.Untouched

variable {s : Session}

theorem Sound.deed (h : s.Sound) (d : Deed) : { s with master := s.master.deed d }.Sound := by
  unfold Sound at h ⊢
  split at h
  · rename_i hclosed
    rw [if_pos hclosed, Master.deed_of_ended h.ended]
    exact h
  · rename_i hclosed
    rw [if_neg hclosed]
    exact h.deed d

theorem Sound.untouched (h : s.Sound) (hclosed : ¬s.closed = true) : s.master.Untouched := by
  rwa [Sound, if_neg hclosed] at h

theorem Sound.putDown (h : s.Sound) (hclosed : s.closed = true) : s.master.PutDown := by
  rwa [Sound, if_pos hclosed] at h

theorem Sound.disconnect (h : s.Sound) : s.disconnect.Sound := by
  unfold Session.disconnect
  split
  · exact h
  · rename_i hclosed
    exact (h.untouched hclosed).putDown

@[simp]
theorem closed_disconnect (s : Session) : s.disconnect.closed = true := by
  unfold disconnect
  split
  · assumption
  · rfl

end Session

namespace SessionGuard

structure Sound (g : SessionGuard) : Prop where
  session : g.session.Sound
  closed : g.released = true → g.session.closed = true

variable {g : SessionGuard} {m : Master}

theorem sound_hold (h : m.Untouched) : (hold m).Sound where
  session := h
  closed := nofun

theorem Sound.release (h : g.Sound) : g.release.Sound := by
  unfold SessionGuard.release
  split
  · exact h
  · exact ⟨h.session.disconnect, fun _ => g.session.closed_disconnect⟩

theorem Sound.closed_release (h : g.Sound) : g.release.session.closed = true := by
  unfold SessionGuard.release
  split
  · rename_i hreleased
    exact h.closed hreleased
  · exact g.session.closed_disconnect

theorem Sound.use (h : g.Sound) (u : Use) : (g.use u).Sound := by
  cases u with
  | master d => exact ⟨h.session.deed d, h.closed⟩
  | disconnect => exact ⟨h.session.disconnect, fun _ => g.session.closed_disconnect⟩
  | release => exact h.release

/-- A session stays closed, and a disconnect or a release closes it. -/
theorem Sound.closed_use (h : g.Sound) {u : Use}
    (hu : g.session.closed = true ∨ u = .disconnect ∨ u = .release) :
    (g.use u).session.closed = true := by
  cases u with
  | master d => exact hu.resolve_right (by simp)
  | disconnect => exact g.session.closed_disconnect
  | release => exact h.closed_release

theorem Sound.useAll (h : g.Sound) (uses : List Use) : (g.useAll uses).Sound := by
  induction uses generalizing g with
  | nil => exact h
  | cons u uses ih => exact ih (h.use u)

theorem Sound.closed_useAll (h : g.Sound) {uses : List Use}
    (hu : g.session.closed = true ∨ .disconnect ∈ uses ∨ .release ∈ uses) :
    (g.useAll uses).session.closed = true := by
  induction uses generalizing g with
  | nil => exact hu.resolve_right (by simp)
  | cons u uses ih =>
    apply ih (h.use u)
    by_cases hnow : g.session.closed = true ∨ u = .disconnect ∨ u = .release
    · exact .inl (h.closed_use hnow)
    · simp only [List.mem_cons] at hu
      grind

theorem Sound.putDown_drop (h : g.Sound) : g.drop.PutDown := by
  have hdown : g.release.session.master.PutDown := h.release.session.putDown h.closed_release
  rw [drop, hdown.letGo]
  exact hdown

end SessionGuard

namespace Opening

variable {c : Config} {t : SshTarget} {o : Opening} {m : Master}

/-- What the handle on the master is good for, at each stage. -/
def Sound : Opening → Prop
  | .polling m | .checking m | .sleeping m | .opened m => m.Untouched
  | .reading m _ => m.ended.isSome ∧ m.killOnDrop = false
  | .failed _ left => ∀ m ∈ left, m.Gone
  | .dropped left => left.ended.isSome

theorem sound_start (c : Config) (keys : Except Error Unit) (spawn : Except String Unit) :
    (start c keys spawn).Sound := by
  cases keys with
  | error e => exact nofun
  | ok u =>
    cases spawn with
    | error cause => exact nofun
    | ok u => exact ⟨rfl, rfl, rfl⟩

theorem sound_fail (e : Error) (h : m.kill.ended.isSome) : (fail e m).Sound := by
  rintro _ ⟨⟩
  exact ⟨Master.isSome_ended_letGo h, by simp [Master.removeSocket]⟩

namespace Sound

theorem deed (h : o.Sound) (d : Deed) : (o.deed d).Sound := by
  cases o with
  | polling m => exact Master.Untouched.deed h d
  | checking m => exact Master.Untouched.deed h d
  | sleeping m => exact Master.Untouched.deed h d
  | opened m => exact Master.Untouched.deed h d
  | reading m status =>
    rw [Opening.deed, Master.deed_of_ended h.1]
    exact h
  | failed e left =>
    rintro _ hm
    obtain ⟨m, hleft, rfl⟩ := Option.map_eq_some_iff.mp hm
    rw [Master.deed_of_ended (h m hleft).ended]
    exact h m hleft
  | dropped left =>
    rw [Opening.deed, Master.deed_of_ended h]
    exact h

theorem poll (h : o.Sound) (refusal : Option String) : (o.poll refusal).Sound := by
  cases o with
  | polling m =>
    cases refusal with
    | some cause => exact sound_fail _ (Master.Untouched.isSome_ended_kill h)
    | none =>
      simp only [Opening.poll]
      split
      · contradiction
      · rename_i hended
        exact ⟨Option.isSome_of_eq_some hended, rfl⟩
      · exact h
  | _ => exact h

theorem told (h : o.Sound) (t : SshTarget) (stderr : String) : (o.told t stderr).Sound := by
  cases o with
  | reading m status => exact sound_fail _ (Master.isSome_ended_kill fun _ => h.1)
  | _ => exact h

theorem checked (h : o.Sound) (c : Config) (t : SshTarget) (answers late : Bool) :
    (o.checked c t answers late).Sound := by
  cases o with
  | checking m =>
    cases answers with
    | true => exact h
    | false =>
      cases late with
      | true => exact sound_fail _ (Master.Untouched.isSome_ended_kill h)
      | false => exact h
  | _ => exact h

theorem wake (h : o.Sound) : o.wake.Sound := by
  cases o <;> exact h

theorem drop (h : o.Sound) : o.drop.Sound := by
  cases o with
  | reading m status => exact Master.isSome_ended_letGo h.1
  | checking m => exact Master.Untouched.isSome_ended_letGo h
  | sleeping m => exact Master.Untouched.isSome_ended_letGo h
  | _ => exact h

theorem step (h : o.Sound) (turn : Turn) : (o.step c t turn).Sound := by
  cases turn with
  | master d => exact h.deed d
  | poll refusal => exact h.poll refusal
  | told stderr => exact h.told t stderr
  | checked answers late => exact h.checked c t answers late
  | woken => exact h.wake
  | dropped => exact h.drop

theorem run (h : o.Sound) (turns : List Turn) : (o.run c t turns).Sound := by
  induction turns generalizing o with
  | nil => exact h
  | cons turn turns ih => exact ih (h.step turn)

end Sound

/-- Dropped, with the socket still there. -/
def LeavesSocket : Opening → Prop
  | .dropped left => left.socket = true
  | _ => False

/-- The opening is dropped while it waits with a socket in place. -/
def DroppedAtSocket (c : Config) (t : SshTarget) (o : Opening) (turns : List Turn) : Prop :=
  ∃ before after m, turns = before ++ .dropped :: after ∧
    (o.run c t before).waiting? = some m ∧ m.socket = true

theorem Sound.leavesSocket_step (h : o.Sound) (turn : Turn) :
    (o.step c t turn).LeavesSocket ↔
      o.LeavesSocket ∨ turn = .dropped ∧ ∃ m, o.waiting? = some m ∧ m.socket = true := by
  cases turn with
  | dropped => cases o <;> simp [Opening.step, Opening.drop, waiting?, LeavesSocket]
  | master d =>
    cases o with
    | dropped left => simp [Opening.step, Opening.deed, Master.deed_of_ended h]
    | _ => simp [Opening.step, Opening.deed, LeavesSocket]
  | poll refusal =>
    cases o with
    | polling m =>
      simp only [Opening.step, Opening.poll]
      split <;> simp [LeavesSocket, fail]
    | _ => simp [Opening.step, Opening.poll]
  | told stderr => cases o <;> simp [Opening.step, Opening.told, LeavesSocket, fail]
  | checked answers late =>
    cases o with
    | checking m =>
      cases answers <;> cases late <;> simp [Opening.step, Opening.checked, LeavesSocket, fail]
    | _ => simp [Opening.step, Opening.checked]
  | woken => cases o <;> simp [Opening.step, Opening.wake, LeavesSocket]

theorem droppedAtSocket_cons (turn : Turn) (turns : List Turn) :
    DroppedAtSocket c t o (turn :: turns) ↔
      (turn = .dropped ∧ ∃ m, o.waiting? = some m ∧ m.socket = true) ∨
        DroppedAtSocket c t (o.step c t turn) turns := by
  constructor
  · rintro ⟨before, after, m, heq, hwait, hsocket⟩
    cases before with
    | nil =>
      obtain ⟨rfl, -⟩ := List.cons.inj heq
      exact .inl ⟨rfl, m, hwait, hsocket⟩
    | cons first before =>
      obtain ⟨rfl, rfl⟩ := List.cons.inj heq
      exact .inr ⟨before, after, m, rfl, hwait, hsocket⟩
  · rintro (⟨rfl, m, hwait, hsocket⟩ | ⟨before, after, m, rfl, hwait, hsocket⟩)
    · exact ⟨[], turns, m, rfl, hwait, hsocket⟩
    · exact ⟨turn :: before, after, m, rfl, hwait, hsocket⟩

theorem Sound.leavesSocket_run (h : o.Sound) (turns : List Turn) :
    (o.run c t turns).LeavesSocket ↔ o.LeavesSocket ∨ DroppedAtSocket c t o turns := by
  induction turns generalizing o with
  | nil => simp [Opening.run, DroppedAtSocket]
  | cons turn turns ih =>
    calc ((o.step c t turn).run c t turns).LeavesSocket
        ↔ (o.step c t turn).LeavesSocket ∨ DroppedAtSocket c t (o.step c t turn) turns :=
          ih (h.step turn)
      _ ↔ o.LeavesSocket ∨ DroppedAtSocket c t o (turn :: turns) := by
          rw [h.leavesSocket_step, droppedAtSocket_cons, or_assoc]

/-- The master that an opening without a session has left. -/
def abandoned? : Opening → Option Master
  | .failed _ left => left
  | .dropped left => some left
  | _ => none

/-- Where no session is given, the master is gone. Where one is given, it is killed once and gone after
the first disconnect or release, and in any case when its guard goes out of scope. -/
def LeavesNothing : Opening → Prop
  | .opened m => ∀ uses : List Use,
      (.disconnect ∈ uses ∨ .release ∈ uses →
        ((SessionGuard.hold m).useAll uses).session.master.PutDown) ∧
      ((SessionGuard.hold m).useAll uses).drop.PutDown
  | o => ∀ m, o.abandoned? = some m → m.Gone

theorem Sound.ended_of_abandoned (h : o.Sound) (hm : o.abandoned? = some m) : m.ended.isSome := by
  cases o with
  | failed e left => exact (h m hm).ended
  | dropped left =>
    obtain rfl := Option.some.inj hm
    exact h
  | _ => nomatch hm

theorem Sound.leavesNothing_iff (h : o.Sound) : o.LeavesNothing ↔ ¬o.LeavesSocket := by
  cases o with
  | opened m =>
    have hall : (Opening.opened m).LeavesNothing := fun uses =>
      have hheld := (SessionGuard.sound_hold h).useAll uses
      ⟨fun huse => hheld.session.putDown ((SessionGuard.sound_hold h).closed_useAll (.inr huse)),
        hheld.putDown_drop⟩
    exact iff_of_true hall id
  | failed e left => exact iff_of_true h id
  | dropped left =>
    constructor
    · intro hgone hsocket
      exact absurd ((hgone left rfl).socket.symm.trans hsocket) Bool.false_ne_true
    · rintro hsocket _ ⟨⟩
      exact ⟨h, Bool.eq_false_iff.mpr hsocket⟩
  | _ => exact iff_of_true nofun id

theorem isSome_result?_dropped (o : Opening) : (o.run c t Round.dropped.turns).result?.isSome := by
  cases o with
  | polling m =>
    cases hended : m.ended <;>
      simp [Opening.run, Round.turns, Opening.step, poll, drop, waiting?, result?, hended]
  | _ => rfl

/-- Every schedule brings the opening to an end, and that is what connecting tells. -/
theorem result?_run_turns (c : Config) (t : SshTarget) (s : Schedule) :
    ((start c s.keys s.spawn).run c t s.turns).result? = some (Client.connect c s t) := by
  have hends : ((start c s.keys s.spawn).run c t s.turns).result?.isSome := by
    rw [Schedule.turns, run, List.foldl_append]
    exact isSome_result?_dropped _
  obtain ⟨r, hr⟩ := Option.isSome_iff_exists.mp hends
  rw [Client.connect, hr, Option.getD_some]

/-- Whatever the client, the master and the caller do, no process outlives an opening that gave no session.
Nothing at all is left exactly if the opening was not dropped, where it waits, beside a socket. What
connecting tells is how such an opening ends, on every schedule. -/
theorem leavesNothing_iff_not_dropped (c : Config) (t : SshTarget) (keys : Except Error Unit)
    (spawn : Except String Unit) (turns : List Turn) :
    (∀ m, ((start c keys spawn).run c t turns).abandoned? = some m → m.ended.isSome) ∧
      (((start c keys spawn).run c t turns).LeavesNothing ↔
        ¬DroppedAtSocket c t (start c keys spawn) turns) ∧
      ∀ s : Schedule,
        ((start c s.keys s.spawn).run c t s.turns).result? = some (Client.connect c s t) := by
  have hstart : ¬(start c keys spawn).LeavesSocket := by
    cases keys with
    | error e => exact id
    | ok u => cases spawn <;> exact id
  have hsound := (sound_start c keys spawn).run (c := c) (t := t) turns
  refine ⟨fun m => hsound.ended_of_abandoned, ?_, result?_run_turns c t⟩
  rw [hsound.leavesNothing_iff, (sound_start c keys spawn).leavesSocket_run, or_iff_right hstart]

/-- Dropped while the check runs, after the master has bound its socket: it is killed, the file stays. -/
theorem not_leavesNothing_checked :
    ((start {} (.ok ()) (.ok ())).run {} ⟨"bastion", 22, "player"⟩
        [.poll none, .master .bind, .dropped]) =
      .dropped { ended := some .killed, socket := true, killOnDrop := false, kills := 1 } ∧
    ¬((start {} (.ok ()) (.ok ())).run {} ⟨"bastion", 22, "player"⟩
        [.poll none, .master .bind, .dropped]).LeavesNothing := by
  refine ⟨rfl, fun h => ?_⟩
  exact absurd (h _ rfl).socket (by decide)

end Opening

end Causeway.Ssh
