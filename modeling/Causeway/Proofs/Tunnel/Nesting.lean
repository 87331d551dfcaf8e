import Causeway.Memory.Provider
import Causeway.Proofs.Tunnel.Course
import Causeway.Tunnel.Rehearsed

/-!
# Tunnels around services

A call through tunnels, one inside the other, comes to what the innermost backend makes of the
descriptor that the outermost tunnel hands on (`transparent_serve`). Only the outermost tunnel opens a
session, since the descriptor that it hands on is not remote.
-/

namespace Causeway

namespace Call

variable {α : Type} {c : Call α}

theorem complete_running (events : List Event) (r : Outcome α) (g : Option Guard) :
    c.complete (.running ⟨events, r⟩ g) =
      (events.map .inner ++ .own .left :: (c.complete (leave r g)).1, (c.complete (leave r g)).2) := by
  induction events with
  | nil => exact c.complete_step rfl
  | cons e events ih =>
    rw [c.complete_step rfl]
    dsimp only [step]
    rw [ih]
    rfl

theorem complete_calling (ds : DataSource) (g : Option Guard) :
    c.complete (.calling ds g) =
      (.own (.entered ds) :: ((c.backend ds).events.map .inner ++
          .own .left :: (c.complete (leave (c.backend ds).outcome g)).1),
        (c.complete (leave (c.backend ds).outcome g)).2) := by
  rw [c.complete_step rfl]
  dsimp only [step]
  rw [complete_running]
  rfl

/-- Whatever comes back from the backend, the session is closed. -/
theorem complete_leave {g : Guard} (hg : g.released = false) (r : Outcome α) :
    c.complete (leave r (some g)) = ([.own .disconnected], r) := by
  have hdrop : c.complete (.dropping g r) = ([.own .disconnected], r) := by
    rw [c.complete_step rfl]
    dsimp only [step]
    rw [complete_finished, Guard.release_of_unreleased hg]
    rfl
  have hrelease : c.complete (.releasing g r) = ([.own .disconnected], r) := by
    rw [c.complete_step rfl]
    dsimp only [step]
    rw [c.complete_step rfl]
    dsimp only [step]
    rw [complete_finished, Guard.release_of_unreleased hg]
    rfl
  cases r with
  | ok a => exact hrelease
  | error e => exact hrelease
  | panicked => exact hdrop
  | cancelled => exact hdrop

theorem map_event_inner (events : List Event) :
    (events.map Sign.inner).map Sign.event = events := by
  rw [List.map_map]
  exact List.map_id events

theorem run_of_local (hlocal : c.dataSource.remote = false) :
    c.run = ⟨.entered c.dataSource :: ((c.backend c.dataSource).events ++ [.left]),
      (c.backend c.dataSource).outcome⟩ := by
  have hstart : c.start = .calling c.dataSource none := by
    unfold start
    rw [hlocal]
    rfl
  have hcomplete : c.complete .started = c.complete (.calling c.dataSource none) := by
    rw [c.complete_step rfl]
    dsimp only [step]
    rw [hstart]
    rfl
  unfold run
  rw [hcomplete, complete_calling, leave, complete_finished]
  simp only [List.map_cons, List.map_append, map_event_inner, List.map_nil, Sign.event]

theorem run_of_opened {port : UInt16} (hopen : c.Opened port) :
    c.run = ⟨.connected c.target :: .forwarded port c.dataSource.server c.dataSource.port ::
        .entered (c.dataSource.toLocal port) ::
        ((c.backend (c.dataSource.toLocal port)).events ++ [.left, .disconnected]),
      (c.backend (c.dataSource.toLocal port)).outcome⟩ := by
  have hstart : c.start = .connecting port := by
    unfold start
    rw [hopen.remote, hopen.valid, hopen.freePort]
    rfl
  have hforward : c.forward port { target := c.target } =
      ([.own (.forwarded port c.dataSource.server c.dataSource.port)],
        .calling (c.dataSource.toLocal port) (some { target := c.target })) :=
    forward_of_ok hopen.forwarded
  unfold run
  rw [c.complete_step rfl]
  dsimp only [step]
  rw [hstart, c.complete_step rfl]
  dsimp only [step]
  rw [connect_of_ok hopen.connected, c.complete_step rfl]
  dsimp only [step]
  rw [hforward, complete_calling, complete_leave rfl]
  simp only [List.map_cons, List.map_append, map_event_inner, List.map_nil, Sign.event,
    List.singleton_append, List.nil_append]

end Call

namespace Run

variable {α : Type}

/-- A run inside so many calls that pass a descriptor on. -/
def inside (depth : Nat) (ds : DataSource) (r : Run α) : Run α where
  events := List.replicate depth (.entered ds) ++ r.events ++ List.replicate depth .left
  outcome := r.outcome

/-- A run while a session is open, with a local port forwarded. -/
def inSession (target : SshTarget) (localPort : UInt16) (host : String) (port : UInt16)
    (r : Run α) : Run α where
  events := [.connected target, .forwarded localPort host port] ++ r.events ++ [.disconnected]
  outcome := r.outcome

theorem inside_succ (depth : Nat) (ds : DataSource) (r : Run α) :
    r.inside (depth + 1) ds =
      ⟨.entered ds :: ((r.inside depth ds).events ++ [.left]), (r.inside depth ds).outcome⟩ := by
  unfold inside
  rw [List.replicate_succ, List.replicate_succ']
  simp only [List.cons_append, List.append_assoc]

end Run

namespace Tunnel

variable {α : Type} {c : Capability} {t : Tunnel} {ds : DataSource} {port : UInt16}

/-- A call with a descriptor inside tunnels, the first of them the outermost. -/
def within (tunnels : List Tunnel) (ds : DataSource) (backend : DataSource → Run α) : Run α :=
  match tunnels with
  | [] => backend ds
  | t :: tunnels => t.call ds fun copy => within tunnels copy backend

/-- A service inside tunnels, the first of them the outermost. -/
def aroundAll (tunnels : List Tunnel) (s : Service c) : Service c := tunnels.foldr around s

theorem serve_aroundAll (tunnels : List Tunnel) (s : Service c) (ds : DataSource)
    (request : c.Request) :
    (aroundAll tunnels s).serve ds request =
      within tunnels ds fun copy => s.serve copy request := by
  induction tunnels generalizing ds with
  | nil => rfl
  | cons t tunnels ih =>
    have hcopy : (fun copy => (aroundAll tunnels s).serve copy request) =
        fun copy => within tunnels copy fun copy => s.serve copy request := funext ih
    exact congrArg (t.call ds) hcopy

theorem within_of_local (tunnels : List Tunnel) (hlocal : ds.remote = false)
    (backend : DataSource → Run α) :
    within tunnels ds backend = (backend ds).inside tunnels.length ds := by
  induction tunnels with
  | nil => simp [within, Run.inside]
  | cons t tunnels ih =>
    have hrun : t.call ds (fun copy => within tunnels copy backend) =
        ⟨.entered ds :: ((within tunnels ds backend).events ++ [.left]),
          (within tunnels ds backend).outcome⟩ := Call.run_of_local hlocal
    rw [within, hrun, ih, List.length_cons, Run.inside_succ]

/-- The tunnel leads to a remote data source, by way of a local port. -/
structure LeadsTo (t : Tunnel) (ds : DataSource) (port : UInt16) : Prop where
  remote : ds.remote = true
  valid : ds.validateRemote = .ok ()
  freePort : t.connector.freePort = .ok port
  connected : t.connector.connect (t.target ds) = .ok ()
  forwarded : t.connector.forward (t.target ds) port ds.server ds.port = .ok ()

theorem within_of_leadsTo (tunnels : List Tunnel) (hleads : t.LeadsTo ds port)
    (backend : DataSource → Run α) :
    within (t :: tunnels) ds backend =
      ((backend (ds.toLocal port)).inside (tunnels.length + 1) (ds.toLocal port)).inSession
        (t.target ds) port ds.server ds.port := by
  have hinner : within tunnels (ds.toLocal port) backend =
      (backend (ds.toLocal port)).inside tunnels.length (ds.toLocal port) :=
    within_of_local tunnels rfl backend
  have hrun : t.call ds (fun copy => within tunnels copy backend) =
      ⟨.connected (t.target ds) :: .forwarded port ds.server ds.port ::
          .entered (ds.toLocal port) ::
          ((within tunnels (ds.toLocal port) backend).events ++ [.left, .disconnected]),
        (within tunnels (ds.toLocal port) backend).outcome⟩ :=
    Call.run_of_opened
      ⟨hleads.remote, hleads.valid, hleads.freePort, hleads.connected, hleads.forwarded⟩
  rw [within, hrun, hinner, Run.inside_succ]
  simp [Run.inSession]

/-- What a call on a data source comes to through tunnels, so many of them, is what the backend makes
of a descriptor: for a remote data source that of the local port, within one session, and for any other
the one given, without a session. -/
structure Transparent (t : Tunnel) (depth : Nat) (ds : DataSource) (call : Run α)
    (backend : DataSource → Run α) : Prop where
  remote : ∀ port, t.LeadsTo ds port →
    call = ((backend (ds.toLocal port)).inside depth (ds.toLocal port)).inSession
      (t.target ds) port ds.server ds.port
  direct : ds.remote = false → call = (backend ds).inside depth ds

theorem transparent_within (t : Tunnel) (tunnels : List Tunnel) (ds : DataSource)
    (backend : DataSource → Run α) :
    t.Transparent (tunnels.length + 1) ds (within (t :: tunnels) ds backend) backend where
  remote _ hleads := within_of_leadsTo tunnels hleads backend
  direct hlocal := within_of_local (t :: tunnels) hlocal backend

theorem Transparent.map {β : Type} {depth : Nat} {call : Run α} {backend : DataSource → Run α}
    (h : t.Transparent depth ds call backend) (f : α → β) :
    t.Transparent depth ds (call.map f) fun copy => (backend copy).map f where
  remote port hleads := by
    rw [h.remote port hleads]
    rfl
  direct hlocal := by
    rw [h.direct hlocal]
    rfl

theorem transparent_serve (t : Tunnel) (tunnels : List Tunnel) (ds : DataSource) (s : Service c)
    (request : c.Request) :
    t.Transparent (tunnels.length + 1) ds ((aroundAll (t :: tunnels) s).serve ds request)
      fun copy => s.serve copy request := by
  rw [serve_aroundAll]
  exact transparent_within t tunnels ds _

/-- Whatever the backend makes of where a data source is, the outcome through tunnels is its own. -/
theorem Transparent.outcome_eq {depth : Nat} {call : Run α} {backend : DataSource → Run α}
    (h : t.Transparent depth ds call backend)
    (hreached : ds.remote = false ∨ ∃ port, t.LeadsTo ds port)
    (hignores : ∀ port, backend (ds.toLocal port) = backend ds) :
    call.outcome = (backend ds).outcome := by
  obtain hlocal | ⟨port, hleads⟩ := hreached
  · rw [h.direct hlocal]
    rfl
  · rw [h.remote port hleads, hignores port]
    rfl

end Tunnel

/-- A service that does not look at how a data source is reached. -/
def Service.IgnoresRoute {c : Capability} (s : Service c) : Prop :=
  ∀ (ds : DataSource) (server : String) (port : UInt16) (remote : Bool) (request : c.Request),
    s.serve { ds with server, port, remote } request = s.serve ds request

namespace Memory.Datasets

theorem ignoresRoute_graphService (m : Datasets) : m.graphService.IgnoresRoute := by
  intro ds server port remote request
  cases request <;> rfl

/-- A dataset is found by the database of a descriptor and shows its id. -/
theorem ignoresRoute_of_mem (m : Datasets) (name : String) {c : Capability} {s : Service c}
    (hs : s ∈ (m.plugin name).services c) : s.IgnoresRoute := by
  cases c with
  | graph =>
    obtain rfl := List.mem_singleton.mp hs
    exact ignoresRoute_graphService m
  | index =>
    obtain rfl := List.mem_singleton.mp hs
    exact fun ds server port remote request => rfl
  | metadata =>
    obtain rfl := List.mem_singleton.mp hs
    exact fun ds server port remote request => rfl
  | table => cases hs

end Memory.Datasets

/-- Tunnels around a service do not show. However many there are, a remote data source that the
outermost leads to is reached in one session, which is opened before everything else and closed after
it, and the service answers for the local descriptor; any other data source is passed through without a
session. However an index feeds a player, it is fed by the same calls, within the session. So a service
or an index that does not look at how a data source is reached gives the same answers and errors with
tunnels as without, and services of datasets are such. -/
theorem transparent_aroundAll (t : Tunnel) (tunnels : List Tunnel) (ds : DataSource) :
    (∀ (c : Capability) (s : Service c) (request : c.Request),
        t.Transparent (tunnels.length + 1) ds
          ((Tunnel.aroundAll (t :: tunnels) s).serve ds request) fun copy => s.serve copy request) ∧
      (∀ (σ : Type) (feed : DataSource → Run (σ × Except Error Unit)),
        t.Transparent (tunnels.length + 1) ds (Tunnel.within (t :: tunnels) ds feed) feed) ∧
      (∀ (s : Service .index) (σ : Type) (p : Player σ) (st : σ),
        t.Transparent (tunnels.length + 1) ds
          ((Tunnel.aroundAll (t :: tunnels) s).feed p st ds) (s.feed p st)) ∧
      (∀ (c : Capability) (s : Service c) (request : c.Request), s.IgnoresRoute →
        (ds.remote = false ∨ ∃ port, t.LeadsTo ds port) →
          ((Tunnel.aroundAll (t :: tunnels) s).serve ds request).outcome =
            (s.serve ds request).outcome) ∧
      (∀ (σ : Type) (feed : DataSource → Run (σ × Except Error Unit)),
        (∀ port, feed (ds.toLocal port) = feed ds) →
          (ds.remote = false ∨ ∃ port, t.LeadsTo ds port) →
            (Tunnel.within (t :: tunnels) ds feed).outcome = (feed ds).outcome) ∧
      ∀ (m : Memory.Datasets) (name : String) (c : Capability),
        ∀ s ∈ (m.plugin name).services c, s.IgnoresRoute := by
  refine ⟨fun c s request => Tunnel.transparent_serve t tunnels ds s request,
    fun σ feed => Tunnel.transparent_within t tunnels ds feed,
    fun s σ p st => ?_, fun c s request hignores hreached => ?_,
    fun σ feed hignores hreached => ?_, fun m name c s hs => m.ignoresRoute_of_mem name hs⟩
  · have hserve := Tunnel.transparent_serve t tunnels ds s ()
    exact hserve.map fun script => Script.playOn script p st
  · have hserve := Tunnel.transparent_serve t tunnels ds s request
    exact hserve.outcome_eq hreached fun port => hignores ds "localhost" port false request
  · have hwithin := Tunnel.transparent_within t tunnels ds feed
    exact hwithin.outcome_eq hreached hignores

/-- Two tunnels around the services of one dataset, and a data source behind a gateway: the city that
is asked for comes through. -/
theorem transparent_aroundAll_behind_gateway :
    let t : Tunnel := ⟨.rehearsed 4000 false false, "player"⟩
    let ds : DataSource :=
      { id := 1, type := "memory", name := "islands", server := "inner", port := 7000,
        database := "atlas", remote := true, gateway := "harbour" }
    let d : Memory.Dataset := { vertices := [{ id := "#1:0", cls := "City" }] }
    let m : Memory.Datasets := NameMap.ofList [("atlas", d)]
    let s : Service .graph := m.graphService
    t.LeadsTo ds 4000 ∧
      ((Tunnel.aroundAll [t, t] s).serve ds (.load ["1_1_0"])).events =
        [.connected ⟨"harbour", 22, "player"⟩, .forwarded 4000 "inner" 7000,
          .entered (ds.toLocal 4000), .entered (ds.toLocal 4000), .left, .left, .disconnected] ∧
      ∃ g : Graph, ((Tunnel.aroundAll [t, t] s).serve ds (.load ["1_1_0"])).outcome = .ok g ∧
        (s.serve ds (.load ["1_1_0"])).outcome = .ok g ∧ g.nodes.ids = ["1_1_0"] := by
  intro t ds d m s
  have hvalid : ds.validateRemote = .ok () := by cbv
  have hleads : t.LeadsTo ds 4000 := ⟨rfl, hvalid, rfl, rfl, rfl⟩
  obtain ⟨hserve, -, -, hequal, -, hmemory⟩ := transparent_aroundAll t [t] ds
  have hevents := congrArg Run.events ((hserve .graph s (.load ["1_1_0"])).remote 4000 hleads)
  have hignores : s.IgnoresRoute := hmemory m "atlas" .graph s (List.mem_singleton_self s)
  have houtcome := hequal .graph s (.load ["1_1_0"]) hignores (.inr ⟨4000, hleads⟩)
  have hdecoded : Memory.scheme.decodeAll ds.id ["1_1_0"] = .ok ["#1:0"] := by cbv
  have hload : d.load ds ["1_1_0"] =
      .ok ((Memory.assembler ds).ingest (["#1:0"].filterMap d.element?)).result := by
    unfold Memory.Dataset.load
    rw [hdecoded]
    rfl
  have hfind : m.find ds = .ok d := rfl
  have hdirect : s.serve ds (.load ["1_1_0"]) = .ofExcept (d.load ds ["1_1_0"]) :=
    Memory.Datasets.serve_graphService hfind _
  rw [hload] at hdirect
  rw [hdirect] at houtcome ⊢
  exact ⟨hleads, hevents, _, houtcome, rfl, by decide⟩

end Causeway
