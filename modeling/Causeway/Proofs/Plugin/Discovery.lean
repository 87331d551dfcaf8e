import Causeway.Descriptor
import Causeway.Plugin.Catalog
import Causeway.Proofs.Plugin.LastCandidate
import Causeway.Proofs.Plugin.Registration

/-!
# The services that a folder of manifests registers

A manifest that is in use offers the services of its plugin, as far as it allows them (`Offers`). A
type of data source belongs to the offer that comes last, by the name of the manifest and then by
its place in the plugin (`Latest`). The scan links the manifests in the order of their names and
registers their services in the order of their offers, so the registry keeps the latest one of every
type.
-/

namespace Causeway

namespace Catalog

variable {files : FileTree} {l : Linker} {folder : String} {c : Capability} {file t : String}
  {s : Service c} {catalog : Catalog}

/-- A manifest in a folder, in use and with leave to offer the capability, offers a service at a
place of its plugin. -/
structure Offers (files : FileTree) (l : Linker) (folder : String) (c : Capability) (file : String)
    (j : Nat) (s : Service c) : Prop where
  listed : file ∈ files.filesIn folder
  extension : Path.extensionOf? file = some "yaml" ∨ Path.extensionOf? file = some "yml"
  made : ∃ m factory p, Manifest.ofFile files folder file = .ok m ∧ m.enabled = true ∧
    (∀ allowed, m.capabilities = some allowed → c ∈ allowed) ∧
    NameMap.get? l m.factoryName = some factory ∧ factory m = .ok p ∧ (p.services c)[j]? = some s

/-- The last offer of a service for a type of data source. -/
def Latest (files : FileTree) (l : Linker) (folder : String) (c : Capability) (t : String)
    (s : Service c) : Prop :=
  ∃ file j, Offers files l folder c file j s ∧ NameMap.contains s.tags t = true ∧
    ∀ (other : String) (i : Nat) (x : Service c), Offers files l folder c other i x →
      NameMap.contains x.tags t = true → other < file ∨ other = file ∧ i ≤ j

def offered (files : FileTree) (l : Linker) (folder : String) (c : Capability) (file : String) :
    List (Service c) :=
  match Manifest.ofFile files folder file with
  | .error _ => []
  | .ok m =>
    if m.enabled then
      match l.link m with
      | .ok p => p.services c
      | .error _ => []
    else []

theorem isManifest_iff :
    isManifest file = true ↔
      Path.extensionOf? file = some "yaml" ∨ Path.extensionOf? file = some "yml" := by
  unfold isManifest
  cases Path.extensionOf? file <;> simp

theorem mem_manifestsIn_iff :
    file ∈ manifestsIn files folder ↔
      file ∈ files.filesIn folder ∧ isManifest file = true := by
  rw [manifestsIn, ← NameMap.contains_iff_mem_names, NameSet.contains_ofList,
    List.mem_filter]

/-- A plugin has the services that its factory gave it, but for those that are not allowed. -/
theorem mem_link_iff {m : Manifest} {p : Plugin} {j : Nat} (hlink : l.link m = .ok p) :
    (p.services c)[j]? = some s ↔
      (∀ allowed, m.capabilities = some allowed → c ∈ allowed) ∧ ∃ factory q,
        NameMap.get? l m.factoryName = some factory ∧ factory m = .ok q ∧
          (q.services c)[j]? = some s := by
  unfold Linker.link at hlink
  cases hfactory : NameMap.get? l m.factoryName with
  | none =>
    rw [hfactory] at hlink
    cases hlink
  | some factory =>
    rw [hfactory] at hlink
    dsimp only at hlink
    cases hmade : factory m with
    | error e =>
      rw [hmade] at hlink
      cases hlink
    | ok q =>
      rw [hmade] at hlink
      cases hallowed : m.capabilities with
      | none =>
        rw [hallowed] at hlink
        obtain rfl := Except.ok.inj hlink
        simp [hmade]
      | some allowed =>
        rw [hallowed] at hlink
        obtain rfl := Except.ok.inj hlink
        by_cases hc : c ∈ allowed
        · simp [Plugin.restrict, hmade, hc]
        · simp [Plugin.restrict, hc]

theorem exists_link {m : Manifest} {factory : Factory} {q : Plugin}
    (hfactory : NameMap.get? l m.factoryName = some factory) (hmade : factory m = .ok q) :
    ∃ p, l.link m = .ok p := by
  unfold Linker.link
  rw [hfactory]
  dsimp only
  rw [hmade]
  exact ⟨_, rfl⟩

theorem offered_of_link {m : Manifest} {p : Plugin}
    (hm : Manifest.ofFile files folder file = .ok m) (henabled : m.enabled = true)
    (hlink : l.link m = .ok p) : offered files l folder c file = p.services c := by
  unfold offered
  rw [hm]
  dsimp only
  rw [if_pos henabled, hlink]

theorem offered_of_disabled {m : Manifest} (hm : Manifest.ofFile files folder file = .ok m)
    (hdisabled : ¬m.enabled = true) : offered files l folder c file = [] := by
  unfold offered
  rw [hm]
  dsimp only
  rw [if_neg hdisabled]

/-- Only a manifest that is in use and can be linked offers anything. -/
theorem exists_link_of_offered {j : Nat} (hs : (offered files l folder c file)[j]? = some s) :
    ∃ m p, Manifest.ofFile files folder file = .ok m ∧ m.enabled = true ∧ l.link m = .ok p := by
  unfold offered at hs
  split at hs
  · cases hs
  · rename_i m hm
    split at hs
    · rename_i henabled
      split at hs
      · rename_i p hlink
        exact ⟨m, p, hm, henabled, hlink⟩
      · cases hs
    · cases hs

theorem offers_iff {j : Nat} :
    Offers files l folder c file j s ↔
      file ∈ manifestsIn files folder ∧ (offered files l folder c file)[j]? = some s := by
  rw [mem_manifestsIn_iff, isManifest_iff]
  constructor
  · rintro ⟨hlisted, hextension, m, factory, q, hm, henabled, hallowed, hfactory, hmade, hs⟩
    refine ⟨⟨hlisted, hextension⟩, ?_⟩
    obtain ⟨p, hlink⟩ := exists_link hfactory hmade
    rw [offered_of_link hm henabled hlink]
    exact (mem_link_iff hlink).mpr ⟨hallowed, factory, q, hfactory, hmade, hs⟩
  · rintro ⟨⟨hlisted, hextension⟩, hs⟩
    obtain ⟨m, p, hm, henabled, hlink⟩ := exists_link_of_offered hs
    rw [offered_of_link hm henabled hlink] at hs
    obtain ⟨hallowed, factory, q, hfactory, hmade, hs⟩ := (mem_link_iff hlink).mp hs
    exact ⟨hlisted, hextension, m, factory, q, hm, henabled, hallowed, hfactory, hmade, hs⟩

/-- What linking the first of some files comes to, if it succeeds. -/
theorem linkFiles_cons {names : List String}
    (h : linkFiles files l folder (file :: names) = .ok catalog) :
    ∃ m, Manifest.ofFile files folder file = .ok m ∧
      (m.enabled = true ∧ (∃ p rest, l.link m = .ok p ∧
          linkFiles files l folder names = .ok rest ∧ catalog = p :: rest) ∨
        ¬m.enabled = true ∧ linkFiles files l folder names = .ok catalog) := by
  unfold linkFiles at h
  cases hm : Manifest.ofFile files folder file with
  | error e =>
    rw [hm] at h
    cases h
  | ok m =>
    rw [hm] at h
    refine ⟨m, rfl, ?_⟩
    change (if m.enabled = true then _ else _) = _ at h
    by_cases henabled : m.enabled = true
    · rw [if_pos henabled] at h
      cases hlink : l.link m with
      | error e =>
        rw [hlink] at h
        cases h
      | ok p =>
        rw [hlink] at h
        cases hrest : linkFiles files l folder names with
        | error e =>
          rw [hrest] at h
          cases h
        | ok rest =>
          rw [hrest] at h
          exact .inl ⟨henabled, p, rest, rfl, rfl, (Except.ok.inj h).symm⟩
    · rw [if_neg henabled] at h
      exact .inr ⟨henabled, h⟩

theorem linkFiles_services {names : List String}
    (h : linkFiles files l folder names = .ok catalog) (c : Capability) :
    (catalog.flatMap fun p => p.services c) = names.flatMap (offered files l folder c) := by
  induction names generalizing catalog with
  | nil =>
    obtain rfl : [] = catalog := Except.ok.inj h
    rfl
  | cons file names ih =>
    rw [List.flatMap_cons]
    obtain ⟨m, hm, ⟨henabled, p, rest, hlink, hrest, rfl⟩ | ⟨hdisabled, hrest⟩⟩ := linkFiles_cons h
    · rw [List.flatMap_cons, ih hrest, offered_of_link hm henabled hlink]
    · rw [ih hrest, offered_of_disabled hm hdisabled, List.nil_append]

theorem scan_services (h : scan files l folder = .ok catalog) (c : Capability) :
    (catalog.flatMap fun p => p.services c) =
      (manifestsIn files folder).flatMap (offered files l folder c) := by
  unfold scan at h
  split at h
  · exact linkFiles_services h c
  · cases h

/-- The registry of a scanned folder keeps the latest offer. -/
theorem get?_scanned_iff (h : scan files l folder = .ok catalog) (tunnel : Tunnel) :
    (Registry.ofPlugins c catalog tunnel).services.get? t = some s ↔
      Latest files l folder c t s := by
  have hnames : (manifestsIn files folder).Pairwise (· < ·) := NameMap.pairwise_names _
  rw [Registry.ofPlugins_services, scan_services h, getLast?_flatMap_eq_some_iff hnames]
  constructor
  · rintro ⟨file, hfile, j, hj, htag, hlast⟩
    refine ⟨file, j, offers_iff.mpr ⟨hfile, hj⟩, htag, fun other i x hother hx => ?_⟩
    obtain ⟨hmem, hi⟩ := offers_iff.mp hother
    exact hlast other hmem i x hi hx
  · rintro ⟨file, j, hoffer, htag, hlast⟩
    obtain ⟨hfile, hj⟩ := offers_iff.mp hoffer
    exact ⟨file, hfile, j, hj, htag, fun other hmem i x hi hx =>
      hlast other i x (offers_iff.mpr ⟨hmem, hi⟩) hx⟩

end Catalog

/-- A descriptor that was read is one that a tunnel can be built for. -/
theorem validateRemote_of_ofText {format : Format} {text : String} {ds : DataSource}
    (h : DataSource.ofText format text = .ok ds) : ds.validateRemote = .ok () := by
  unfold DataSource.ofText at h
  dsimp only at h
  split at h
  · rename_i x _
    cases hvalid : x.validate with
    | error e =>
      rw [hvalid] at h
      cases h
    | ok u =>
      rw [hvalid] at h
      obtain rfl := Except.ok.inj h
      exact DataSource.validateRemote_of_validate hvalid
  · cases h
  · cases h

/-- After a scan, each type of data source has the latest service offered for it and no other; these
types are what is described, and a descriptor that was read can only be of a type without one. -/
theorem Catalog.scan_resolves (files : FileTree) (l : Linker) (folder : String) (catalog : Catalog)
    (h : Catalog.scan files l folder = .ok catalog) (tunnel : Tunnel) (c : Capability) :
    (∀ t s, (Registry.ofPlugins c catalog tunnel).services.get? t = some s ↔
      Latest files l folder c t s) ∧
    (∃ types, (describePlugins catalog tunnel).lookup c = some types ∧
      ∀ t, t ∈ types ↔ ∃ s, Latest files l folder c t s) ∧
    (∀ ds s, (Registry.ofPlugins c catalog tunnel).create ds = .ok s ↔
      ∃ x, Latest files l folder c ds.type x ∧ (ds.remote = false ∧ s = x ∨
        ds.remote = true ∧ ds.validateRemote = .ok () ∧ s = tunnel.around x)) ∧
    (∀ ds t, (Registry.ofPlugins c catalog tunnel).create ds = .error (.unsupportedDataSource t) ↔
      t = ds.type ∧ ¬∃ x, Latest files l folder c ds.type x) ∧
    ∀ format text ds e, DataSource.ofText format text = .ok ds →
      (Registry.ofPlugins c catalog tunnel).create ds = .error e →
        e = .unsupportedDataSource ds.type := by
  have hlatest : ∀ t s, (Registry.ofPlugins c catalog tunnel).services.get? t = some s ↔
      Latest files l folder c t s := fun t s => get?_scanned_iff h tunnel
  refine ⟨hlatest, ?_, ?_, ?_, ?_⟩
  · refine ⟨_, lookup_describePlugins catalog tunnel c, fun t => ?_⟩
    rw [Registry.mem_provides_iff]
    exact exists_congr fun s => hlatest t s
  · intro ds s
    rw [Registry.create_eq_ok_iff]
    exact exists_congr fun x => and_congr_left' (hlatest ds.type x)
  · intro ds t
    rw [Registry.create_unsupported_iff, Option.eq_none_iff_forall_ne_some, not_exists]
    exact and_congr_right' (forall_congr' fun x => not_congr (hlatest ds.type x))
  · intro format text ds e hread herror
    rcases Registry.create_eq_error_iff.mp herror with ⟨_, he⟩ | ⟨_, _, hinvalid⟩
    · exact he
    · rw [validateRemote_of_ofText hread] at hinvalid
      cases hinvalid

/-- Three manifests for the same type, of which only the first may offer graphs. -/
def shelves : FileTree :=
  ((({} : FileTree).add "/plugins/a.yaml" (.ofText "name: a\nfactory: shelf")).add
    "/plugins/b.yaml" (.ofText "name: b\nfactory: shelf\nenabled: false")).add
    "/plugins/c.yml" (.ofText "name: c\nfactory: shelf\ncapabilities: [table]")

/-- A factory whose plugins serve one type and the one named like them. -/
def shelfLinker : Linker := NameMap.ofList [("shelf", fun m => .ok {
  name := m.name
  services := fun _ => [{
    tags := .ofList ["shelf", m.name]
    serve := fun _ _ => { outcome := .error (.config m.name) } }] })]

def shelfTunnel : Tunnel where
  connector := {
    freePort := .ok 2222
    connect := fun _ => .ok ()
    forward := fun _ _ _ _ => .ok () }
  defaultUser := "shelf"

theorem Catalog.scan_resolves_shelves :
    ∃ catalog s, Catalog.scan shelves shelfLinker "/plugins" = .ok catalog ∧
      Latest shelves shelfLinker "/plugins" .graph "shelf" s ∧ s.tags.names = ["a", "shelf"] := by
  have hscan : ((Catalog.scan shelves shelfLinker "/plugins").toOption.bind fun catalog =>
      ((Registry.ofPlugins .graph catalog shelfTunnel).services.get? "shelf").map (·.tags.names)) =
        some ["a", "shelf"] := by
    decide +kernel
  obtain ⟨catalog, hcatalog, hservice⟩ := Option.bind_eq_some_iff.mp hscan
  obtain ⟨s, hs, htags⟩ := Option.map_eq_some_iff.mp hservice
  have hok : Catalog.scan shelves shelfLinker "/plugins" = .ok catalog := by
    cases hresult : Catalog.scan shelves shelfLinker "/plugins" with
    | error e => simp [hresult, Except.toOption] at hcatalog
    | ok x => simpa [hresult, Except.toOption] using hcatalog
  have hresolves := Catalog.scan_resolves shelves shelfLinker "/plugins" catalog hok
    shelfTunnel .graph
  exact ⟨catalog, s, hok, (hresolves.1 "shelf" s).mp hs, htags⟩

end Causeway
