import Causeway.Proofs.Memory.Assembled
import Causeway.Proofs.Memory.Levels

/-!
# A walk returns the neighbourhood of its start

`AtLevel` is the invariant of a walk that has left everything nearer than some distance: the ids to
be left next are those at exactly this distance, and what has been met and crossed is what lies
within it. Leaving them keeps it at the next distance (`AtLevel.leaveAll`), and so the drained queue
has it at the most hops (`AtLevel.drain`), however the edges run in circles or end at nothing.
-/

namespace Causeway.Memory

/-- A vertex is met by crossing so many edges from one of the start, through vertices all along. -/
inductive Dataset.Hops (d : Dataset) (direction : Direction) (label : Option String)
    (start : List String) : Nat → String → Prop
  | here {id : String} : id ∈ start → d.IsVertex id → Hops d direction label start 0 id
  | hop {n : Nat} {e : Edge} {u v : String} : Hops d direction label start n u →
      d.Leads direction label e u v → d.IsVertex v → Hops d direction label start (n + 1) v

namespace Walk

variable {d : Dataset} {direction : Direction} {label : Option String} {start ids : List String}
  {n : Nat} {w : Walk}

theorem hops_zero_iff {id : String} :
    d.Hops direction label start 0 id ↔ id ∈ start ∧ d.IsVertex id := by
  constructor
  · rintro ⟨hstart, hvertex⟩
    exact ⟨hstart, hvertex⟩
  · rintro ⟨hstart, hvertex⟩
    exact .here hstart hvertex

theorem hops_isVertex {id : String} (h : d.Hops direction label start n id) : d.IsVertex id := by
  cases h with
  | here hstart hvertex => exact hvertex
  | hop hprev hleads hvertex => exact hvertex

/-- A walk that has left all vertices nearer than `n`, and is to leave `ids`. -/
structure AtLevel (d : Dataset) (direction : Direction) (label : Option String)
    (start : List String) (n : Nat) (ids : List String) (w : Walk) : Prop where
  visited_iff : ∀ id, d.IsVertex id →
    (w.visited.contains id = true ↔ ∃ m ≤ n, d.Hops direction label start m id)
  ids_iff : ∀ id, id ∈ ids ↔
    d.Hops direction label start n id ∧ ∀ m < n, ¬d.Hops direction label start m id
  nodeIds_iff : ∀ id, id ∈ w.nodeIds ↔
    (∃ m ≤ n, d.Hops direction label start m id) ∧ id ∉ start
  edgeIds_iff : ∀ id, id ∈ w.edgeIds ↔
    ∃ m < n, ∃ u e v, d.Hops direction label start m u ∧ d.Leads direction label e u v ∧ e.id = id
  tracks : w.Tracks

theorem exists_mem_crossed_iff {p : Edge × String → Prop} :
    (∃ x ∈ ids.flatMap (d.incident direction label), p x) ↔
      ∃ u ∈ ids, ∃ e v, d.Leads direction label e u v ∧ p (e, v) := by
  constructor
  · rintro ⟨⟨e, v⟩, hmem, hp⟩
    obtain ⟨u, hu, hincident⟩ := List.mem_flatMap.mp hmem
    exact ⟨u, hu, e, v, Dataset.mem_incident_iff.mp hincident, hp⟩
  · rintro ⟨u, hu, e, v, hleads, hp⟩
    exact ⟨(e, v), List.mem_flatMap.mpr ⟨u, hu, Dataset.mem_incident_iff.mpr hleads⟩, hp⟩

namespace AtLevel

/-- A vertex at this many hops is one to be left, or has a shorter way. -/
theorem mem_or_nearer (h : AtLevel d direction label start n ids w) {u : String}
    (hu : d.Hops direction label start n u) :
    u ∈ ids ∨ ∃ m < n, d.Hops direction label start m u := by
  by_cases hnear : ∃ m < n, d.Hops direction label start m u
  · exact .inr hnear
  · refine .inl ((h.ids_iff u).mpr ⟨hu, fun m hm hhops => hnear ⟨m, hm, hhops⟩⟩)

/-- Leaving the ids at this distance meets the vertices of the next, besides those met before. -/
theorem visited_leaveAll (h : AtLevel d direction label start n ids w) {id : String}
    (hvertex : d.IsVertex id) :
    (Walk.leaveAll d direction label ids w).1.visited.contains id = true ↔
      ∃ m ≤ n + 1, d.Hops direction label start m id := by
  rw [(grows_leaveAll d direction label h.tracks ids).visited_iff, h.visited_iff id hvertex,
    exists_mem_crossed_iff]
  constructor
  · rintro (⟨m, hm, hhops⟩ | ⟨u, hu, e, v, hleads, rfl⟩)
    · exact ⟨m, by omega, hhops⟩
    · exact ⟨n + 1, Nat.le_refl _, .hop ((h.ids_iff u).mp hu).1 hleads hvertex⟩
  · rintro ⟨m, hm, hhops⟩
    by_cases hle : m ≤ n
    · exact .inl ⟨m, hle, hhops⟩
    · obtain rfl : m = n + 1 := by omega
      cases hhops with
      | @hop _ e u _ hprev hleads _ =>
        rcases h.mem_or_nearer hprev with hu | ⟨k, hk, hnearer⟩
        · exact .inr ⟨u, hu, e, id, hleads, rfl⟩
        · exact .inl ⟨k + 1, hk, .hop hnearer hleads hvertex⟩

theorem mem_next_leaveAll (h : AtLevel d direction label start n ids w) (id : String) :
    id ∈ (Walk.leaveAll d direction label ids w).2 ↔
      d.Hops direction label start (n + 1) id ∧
        ∀ m < n + 1, ¬d.Hops direction label start m id := by
  have hgrows := grows_leaveAll d direction label h.tracks ids
  have hnew : id ∈ (Walk.leaveAll d direction label ids w).2 ↔ d.IsVertex id ∧
      ¬w.visited.contains id = true ∧
      (Walk.leaveAll d direction label ids w).1.visited.contains id = true := by
    rw [hgrows.fresh_iff, hgrows.visited_iff]
    by_cases hold : w.visited.contains id = true
    · simp [hold]
    · simp [hold]
  rw [hnew]
  constructor
  · rintro ⟨hvertex, hold, hmet⟩
    rw [h.visited_iff id hvertex] at hold
    obtain ⟨m, hm, hhops⟩ := (h.visited_leaveAll hvertex).mp hmet
    have hfar : ¬m ≤ n := fun hle => hold ⟨m, hle, hhops⟩
    obtain rfl : m = n + 1 := by omega
    exact ⟨hhops, fun k hk hnearer => hold ⟨k, by omega, hnearer⟩⟩
  · rintro ⟨hhops, hfar⟩
    have hvertex := hops_isVertex hhops
    refine ⟨hvertex, ?_, (h.visited_leaveAll hvertex).mpr ⟨n + 1, Nat.le_refl _, hhops⟩⟩
    rw [h.visited_iff id hvertex]
    rintro ⟨m, hm, hnearer⟩
    exact hfar m (by omega) hnearer

theorem nodeIds_leaveAll (h : AtLevel d direction label start n ids w) (id : String) :
    id ∈ (Walk.leaveAll d direction label ids w).1.nodeIds ↔
      (∃ m ≤ n + 1, d.Hops direction label start m id) ∧ id ∉ start := by
  rw [(grows_leaveAll d direction label h.tracks ids).nodeIds_eq, List.mem_append, h.nodeIds_iff,
    h.mem_next_leaveAll]
  constructor
  · rintro (⟨⟨m, hm, hhops⟩, hstart⟩ | ⟨hhops, hfar⟩)
    · exact ⟨⟨m, by omega, hhops⟩, hstart⟩
    · refine ⟨⟨n + 1, Nat.le_refl _, hhops⟩, fun hstart => ?_⟩
      exact hfar 0 (Nat.succ_pos n) (.here hstart (hops_isVertex hhops))
  · rintro ⟨⟨m, hm, hhops⟩, hstart⟩
    by_cases hnear : ∃ m ≤ n, d.Hops direction label start m id
    · exact .inl ⟨hnear, hstart⟩
    · have hfar : ¬m ≤ n := fun hle => hnear ⟨m, hle, hhops⟩
      obtain rfl : m = n + 1 := by omega
      exact .inr ⟨hhops, fun k hk hnearer => hnear ⟨k, by omega, hnearer⟩⟩

theorem edgeIds_leaveAll (h : AtLevel d direction label start n ids w) (id : String) :
    id ∈ (Walk.leaveAll d direction label ids w).1.edgeIds ↔
      ∃ m < n + 1, ∃ u e v,
        d.Hops direction label start m u ∧ d.Leads direction label e u v ∧ e.id = id := by
  rw [(grows_leaveAll d direction label h.tracks ids).edgeIds_iff, h.edgeIds_iff,
    exists_mem_crossed_iff]
  constructor
  · rintro (⟨m, hm, hcrossed⟩ | ⟨u, hu, e, v, hleads, hid⟩)
    · exact ⟨m, by omega, hcrossed⟩
    · exact ⟨n, Nat.lt_succ_self n, u, e, v, ((h.ids_iff u).mp hu).1, hleads, hid⟩
  · rintro ⟨m, hm, u, e, v, hhops, hleads, hid⟩
    by_cases hlt : m < n
    · exact .inl ⟨m, hlt, u, e, v, hhops, hleads, hid⟩
    · obtain rfl : m = n := by omega
      rcases h.mem_or_nearer hhops with hu | ⟨k, hk, hnearer⟩
      · exact .inr ⟨u, hu, e, v, hleads, hid⟩
      · exact .inl ⟨k, hk, u, e, v, hnearer, hleads, hid⟩

theorem leaveAll (h : AtLevel d direction label start n ids w) :
    AtLevel d direction label start (n + 1) (Walk.leaveAll d direction label ids w).2
      (Walk.leaveAll d direction label ids w).1 where
  visited_iff _ hvertex := h.visited_leaveAll hvertex
  ids_iff := h.mem_next_leaveAll
  nodeIds_iff := h.nodeIds_leaveAll
  edgeIds_iff := h.edgeIds_leaveAll
  tracks := (grows_leaveAll d direction label h.tracks ids).tracks

theorem drain {hops distance : Nat} (h : AtLevel d direction label start distance ids w)
    (hdistance : distance + n = hops) :
    ∃ last, AtLevel d direction label start hops last
      (Walk.drain d direction label hops (ids.map (·, distance)) w) := by
  induction n generalizing distance ids w with
  | zero =>
    obtain rfl : distance = hops := hdistance
    rw [drain_far d direction label (by simp)]
    exact ⟨ids, h⟩
  | succ n ih =>
    have hnear : distance < hops := by omega
    have hlevel := drain_level d direction label (w := w) hnear ids []
    rw [List.map_nil, List.append_nil, List.nil_append] at hlevel
    rw [hlevel]
    exact ih h.leaveAll (by omega)

end AtLevel

theorem atLevel_start :
    AtLevel d direction label start 0 (start.filter fun id => (d.vertex? id).isSome)
      { visited := .ofList (start.filter fun id => (d.vertex? id).isSome) } := by
  refine ⟨?_, ?_, ?_, ?_, ?_⟩
  · intro id hvertex
    rw [NameSet.contains_ofList, List.mem_filter, Dataset.vertex?_isSome_iff]
    simp only [Nat.le_zero_eq, exists_eq_left, hops_zero_iff]
  · intro id
    rw [List.mem_filter, Dataset.vertex?_isSome_iff, hops_zero_iff]
    simp
  · intro id
    simp only [nodeIds, Nat.le_zero_eq, exists_eq_left, hops_zero_iff]
    simp +contextual
  · intro id
    simp [edgeIds]
  · intro id
    simp [edgeIds]

end Walk

namespace Dataset

variable (d : Dataset) (ds : DataSource) (ids : List String) {start : List String}
  (direction : Direction) (label : Option String) (hops : Nat)

/-- A walk has left all vertices nearer than its most hops. -/
theorem atLevel_walk :
    ∃ last, Walk.AtLevel d direction label start (max hops 1) last
      (d.walk start direction label hops) :=
  Walk.atLevel_start.drain (Nat.zero_add _)

/-- An expansion returns the vertices within its hops, but for those that it starts from, and the
edges that leave a vertex nearer than its hops, whether or not they lead to a vertex. -/
theorem expand_neighbourhood (hdecode : scheme.decodeAll ds.id ids = .ok start) :
    ∃ g, d.expand ds ids direction label hops = .ok g ∧
      (∀ x, x ∈ g.nodes.ids ↔ ∃ id, (∃ n ≤ max hops 1, d.Hops direction label start n id) ∧
        id ∉ start ∧ scheme.encode ds.id id = x) ∧
      ∀ x, x ∈ g.edges.ids ↔ ∃ n < max hops 1, ∃ u e v, d.Hops direction label start n u ∧
        d.Leads direction label e u v ∧ scheme.encode ds.id e.id = x := by
  obtain ⟨last, hwalk⟩ : ∃ last, Walk.AtLevel d direction label start (max hops 1) last _ :=
    atLevel_walk d direction label hops
  refine ⟨_, by rw [expand, hdecode]; rfl, ?_, ?_⟩
  · intro x
    rw [mem_assemble_nodes]
    constructor
    · rintro ⟨v, hv, rfl⟩
      obtain ⟨hhops, hnew⟩ := (hwalk.nodeIds_iff v.id).mp (List.mem_map_of_mem hv)
      exact ⟨v.id, hhops, hnew, rfl⟩
    · rintro ⟨id, hhops, hnew, rfl⟩
      obtain ⟨v, hv, rfl⟩ := List.mem_map.mp ((hwalk.nodeIds_iff id).mpr ⟨hhops, hnew⟩)
      exact ⟨v, hv, rfl⟩
  · intro x
    rw [mem_assemble_edges]
    constructor
    · rintro ⟨e, he, rfl⟩
      obtain ⟨n, hn, u, e', v, hhops, hleads, hid⟩ :=
        (hwalk.edgeIds_iff e.id).mp (List.mem_map_of_mem he)
      exact ⟨n, hn, u, e', v, hhops, hleads, by rw [hid]⟩
    · rintro ⟨n, hn, u, e, v, hhops, hleads, rfl⟩
      obtain ⟨e', he', hid⟩ :=
        List.mem_map.mp ((hwalk.edgeIds_iff e.id).mpr ⟨n, hn, u, e, v, hhops, hleads, rfl⟩)
      exact ⟨e', he', by rw [hid]⟩

/-- Two cities on a circle of roads, one of which also leads out of the dataset. -/
def circle : Dataset where
  vertices := [{ id := "#1:0", cls := "City" }, { id := "#1:1", cls := "City" }]
  edges := [
    { id := "#2:0", cls := "Road", source := "#1:0", target := "#1:1" },
    { id := "#2:1", cls := "Road", source := "#1:1", target := "#1:0" },
    { id := "#2:2", cls := "Road", source := "#1:0", target := "#9:9" }]

theorem expand_neighbourhood_circle :
    scheme.decodeAll 7 ["7_1_0", "7_1_0"] = .ok ["#1:0", "#1:0"] ∧
      ∃ g, circle.expand { id := 7, type := tag, name := "map" } ["7_1_0", "7_1_0"] .out
          (some "Road") 0 = .ok g ∧
        "7_1_1" ∈ g.nodes.ids ∧ "7_2_0" ∈ g.edges.ids ∧ "7_2_2" ∈ g.edges.ids := by
  have hdecode : scheme.decodeAll 7 ["7_1_0", "7_1_0"] = .ok ["#1:0", "#1:0"] := rfl
  have hhere : circle.Hops .out (some "Road") ["#1:0", "#1:0"] 0 "#1:0" :=
    .here (by simp) ⟨_, List.mem_cons_self, rfl⟩
  have hroad : circle.Leads .out (some "Road")
      { id := "#2:0", cls := "Road", source := "#1:0", target := "#1:1" } "#1:0" "#1:1" :=
    ⟨by simp [circle], by simp, by simp [Direction.followsOut]⟩
  have hout : circle.Leads .out (some "Road")
      { id := "#2:2", cls := "Road", source := "#1:0", target := "#9:9" } "#1:0" "#9:9" :=
    ⟨by simp [circle], by simp, by simp [Direction.followsOut]⟩
  obtain ⟨g, hg, hnodes, hedges⟩ := expand_neighbourhood circle
    { id := 7, type := tag, name := "map" } _ .out (some "Road") 0 hdecode
  refine ⟨hdecode, g, hg, ?_, ?_, ?_⟩
  · have hcity : circle.IsVertex "#1:1" := ⟨_, List.mem_cons_of_mem _ List.mem_cons_self, rfl⟩
    exact (hnodes _).mpr ⟨"#1:1", ⟨1, by simp, hhere.hop hroad hcity⟩, by simp, rfl⟩
  · exact (hedges _).mpr ⟨0, by simp, _, _, _, hhere, hroad, rfl⟩
  · exact (hedges _).mpr ⟨0, by simp, _, _, _, hhere, hout, rfl⟩

end Dataset

end Causeway.Memory
