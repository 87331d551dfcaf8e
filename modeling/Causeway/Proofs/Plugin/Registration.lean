import Causeway.Plugin.Registry

/-!
# Which service a registry keeps

Each registration takes over the tags of a service, so a tag belongs to the last of all services
registered that has it (`ofPlugins_services`). What is made for a data source is told from the
look-up of its type alone.
-/

namespace Causeway

namespace Registry

variable {c : Capability} {m : NameMap (Service c)} {t : String}

/-- Whether a service is for data sources of a type. -/
def serves (t : String) (s : Service c) : Bool := NameMap.contains s.tags t

theorem get?_foldl_insert (s : Service c) (names : List String) :
    (names.foldl (fun m tag => m.insert tag s) m).get? t =
      if t ∈ names then some s else m.get? t := by
  induction names generalizing m with
  | nil => simp
  | cons name names ih =>
    rw [List.foldl_cons, ih, NameMap.get?_insert]
    by_cases hrest : t ∈ names
    · simp [hrest]
    · by_cases hname : t = name
      · simp [hname]
      · simp [hrest, hname]

theorem get?_register (m : NameMap (Service c)) (s : Service c) (t : String) :
    (register m s).get? t = if serves t s then some s else m.get? t := by
  rw [register, get?_foldl_insert]
  by_cases hserves : serves t s = true
  · rw [if_pos hserves, if_pos ((NameMap.contains_iff_mem_names _ _).mp hserves)]
  · rw [if_neg hserves, if_neg fun hmem => hserves ((NameMap.contains_iff_mem_names _ _).mpr hmem)]

theorem get?_foldl_register (services : List (Service c)) (m : NameMap (Service c)) (t : String) :
    (services.foldl register m).get? t =
      ((services.filter (serves t)).getLast?).or (m.get? t) := by
  induction services generalizing m with
  | nil => rfl
  | cons s services ih =>
    rw [List.foldl_cons, ih, get?_register]
    by_cases hserves : serves t s = true
    · rw [List.filter_cons_of_pos hserves, if_pos hserves, List.getLast?_cons]
      cases (services.filter (serves t)).getLast? <;> rfl
    · rw [List.filter_cons_of_neg hserves, if_neg hserves]

theorem ofPlugins_services (plugins : List Plugin) (tunnel : Tunnel) (t : String) :
    (ofPlugins c plugins tunnel).services.get? t =
      ((plugins.flatMap fun p => p.services c).filter (serves t)).getLast? := by
  rw [ofPlugins, get?_foldl_register, NameMap.get?_empty, Option.or_none]

variable {r : Registry c} {ds : DataSource} {s : Service c}

theorem mem_provides_iff : t ∈ r.provides ↔ ∃ s, r.services.get? t = some s := by
  rw [provides, ← NameMap.contains_iff_mem_names, NameMap.contains, Option.isSome_iff_exists]

theorem create_eq_ok_iff :
    r.create ds = .ok s ↔ ∃ x, r.services.get? ds.type = some x ∧
      (ds.remote = false ∧ s = x ∨
        ds.remote = true ∧ ds.validateRemote = .ok () ∧ s = r.tunnel.around x) := by
  unfold create
  cases hx : r.services.get? ds.type with
  | none => simp
  | some x =>
    cases hremote : ds.remote with
    | false => simp [eq_comm]
    | true =>
      cases hvalid : ds.validateRemote with
      | error e => simp [Except.map]
      | ok u => simp [Except.map, eq_comm]

theorem validateRemote_error {e : Error} (h : ds.validateRemote = .error e) :
    ∃ message, e = .config message := by
  unfold DataSource.validateRemote at h
  split at h
  · cases h
  · split at h
    · exact ⟨_, (Except.error.inj h).symm⟩
    · split at h
      · exact ⟨_, (Except.error.inj h).symm⟩
      · cases h

theorem create_eq_error_iff {e : Error} :
    r.create ds = .error e ↔
      r.services.get? ds.type = none ∧ e = .unsupportedDataSource ds.type ∨
        (∃ x, r.services.get? ds.type = some x) ∧ ds.remote = true ∧
          ds.validateRemote = .error e := by
  unfold create
  cases hx : r.services.get? ds.type with
  | none =>
    constructor
    · intro herror
      exact .inl ⟨rfl, (Except.error.inj herror).symm⟩
    · rintro (⟨_, rfl⟩ | ⟨⟨x, hsome⟩, _⟩)
      · rfl
      · cases hsome
  | some x =>
    cases hremote : ds.remote with
    | false => simp
    | true =>
      cases hvalid : ds.validateRemote with
      | error e => simp [Except.map]
      | ok u => simp [Except.map]

/-- The only fault for which the type of a data source is blamed is that it is not served. -/
theorem create_unsupported_iff :
    r.create ds = .error (.unsupportedDataSource t) ↔
      t = ds.type ∧ r.services.get? ds.type = none := by
  rw [create_eq_error_iff]
  constructor
  · rintro (⟨hnone, htype⟩ | ⟨_, _, hinvalid⟩)
    · exact ⟨Error.unsupportedDataSource.inj htype, hnone⟩
    · obtain ⟨message, hconfig⟩ := validateRemote_error hinvalid
      cases hconfig
  · rintro ⟨rfl, hnone⟩
    exact .inl ⟨hnone, rfl⟩

end Registry

theorem lookup_describePlugins (plugins : List Plugin) (tunnel : Tunnel) (c : Capability) :
    (describePlugins plugins tunnel).lookup c =
      some (Registry.ofPlugins c plugins tunnel).provides := by
  cases c <;> rfl

end Causeway
