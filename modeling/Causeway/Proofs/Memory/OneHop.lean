import Causeway.Proofs.Memory.Neighbourhood

/-!
# Expansions by one hop

An expansion by one hop returns the edges at the vertices that it starts from, and the vertices at
their other ends (`exists_expand_one`). So its outgoing edges are those that a look through all edges
finds, and both directions together give what either of them gives (`expand_one_agrees`).
-/

namespace Causeway.Memory.Dataset

variable {d : Dataset} {ds : DataSource} {ids start : List String} {direction : Direction}
  {label : Option String} {hops : Nat} {e : Edge} {v x : String}

/-- An edge leads from a vertex of the start to some id. -/
def LeadsAway (d : Dataset) (direction : Direction) (label : Option String) (start : List String)
    (e : Edge) (v : String) : Prop :=
  ∃ u ∈ start, d.IsVertex u ∧ d.Leads direction label e u v

theorem leads_both_iff {u : String} :
    d.Leads .both label e u v ↔ d.Leads .into label e u v ∨ d.Leads .out label e u v := by
  simp only [Leads, Direction.followsOut, Direction.followsIn]
  grind

theorem leadsAway_both_iff : d.LeadsAway .both label start e v ↔
    d.LeadsAway .into label start e v ∨ d.LeadsAway .out label start e v := by
  simp only [LeadsAway, leads_both_iff, and_or_left, exists_or]

/-- Edges that leave the start are told by their sources, wherever they lead. -/
theorem exists_leadsAway_out_iff (hvertices : ∀ id ∈ start, d.IsVertex id) :
    (∃ v, d.LeadsAway .out label start e v) ↔
      e ∈ d.edges ∧ (label = none ∨ label = some e.cls) ∧ e.source ∈ start := by
  constructor
  · rintro ⟨v, u, hu, -, he, hlabel, ⟨-, rfl, -⟩ | ⟨hin, -⟩⟩
    · exact ⟨he, hlabel, hu⟩
    · cases hin
  · rintro ⟨he, hlabel, hsource⟩
    exact ⟨e.target, e.source, hsource, hvertices _ hsource, he, hlabel, .inl ⟨rfl, rfl, rfl⟩⟩

/-! ### What one hop reaches -/

theorem hops_one_iff : d.Hops direction label start 1 v ↔
    d.IsVertex v ∧ ∃ e, d.LeadsAway direction label start e v := by
  constructor
  · intro h
    cases h with
    | @hop _ e u _ hprev hleads hvertex =>
      obtain ⟨hu, hvertex'⟩ := Walk.hops_zero_iff.mp hprev
      exact ⟨hvertex, e, u, hu, hvertex', hleads⟩
  · rintro ⟨hvertex, e, u, hu, hvertex', hleads⟩
    exact .hop (Walk.hops_zero_iff.mpr ⟨hu, hvertex'⟩) hleads hvertex

theorem ids_of_walk (w : Walk) :
    (x ∈ (d.assemble ds 0 w.reached.toList w.traversed.toList).nodes.ids ↔
        x ∈ w.nodeIds.map (scheme.encode ds.id)) ∧
      (x ∈ (d.assemble ds 0 w.reached.toList w.traversed.toList).edges.ids ↔
        x ∈ w.edgeIds.map (scheme.encode ds.id)) := by
  rw [mem_assemble_nodes, mem_assemble_edges, Walk.nodeIds, Walk.edgeIds, List.map_map, List.map_map,
    List.mem_map, List.mem_map]
  exact ⟨Iff.rfl, Iff.rfl⟩

theorem exists_expand_one (hdecode : scheme.decodeAll ds.id ids = .ok start)
    (direction : Direction) (label : Option String) (hhops : hops ≤ 1) :
    ∃ g, d.expand ds ids direction label hops = .ok g ∧
      (∀ x, x ∈ g.nodes.ids ↔ ∃ e v, d.LeadsAway direction label start e v ∧
        (d.IsVertex v ∧ v ∉ start ∧ scheme.encode ds.id v = x)) ∧
      ∀ x, x ∈ g.edges.ids ↔ ∃ e v, d.LeadsAway direction label start e v ∧
        scheme.encode ds.id e.id = x := by
  obtain ⟨last, hwalk⟩ : ∃ last, Walk.AtLevel d direction label start (max hops 1) last _ :=
    atLevel_walk d direction label hops
  rw [Nat.max_eq_right hhops] at hwalk
  refine ⟨_, by rw [expand, hdecode]; rfl, fun x => ?_, fun x => ?_⟩
  · rw [(ids_of_walk _).1, List.mem_map]
    simp only [hwalk.nodeIds_iff]
    constructor
    · rintro ⟨v, ⟨⟨n, hn, hhops⟩, hnew⟩, hx⟩
      rcases Nat.le_one_iff_eq_zero_or_eq_one.mp hn with rfl | rfl
      · exact absurd (Walk.hops_zero_iff.mp hhops).1 hnew
      · obtain ⟨hvertex, e, haway⟩ := hops_one_iff.mp hhops
        exact ⟨e, v, haway, hvertex, hnew, hx⟩
    · rintro ⟨e, v, haway, hvertex, hnew, hx⟩
      exact ⟨v, ⟨⟨1, Nat.le_refl 1, hops_one_iff.mpr ⟨hvertex, e, haway⟩⟩, hnew⟩, hx⟩
  · rw [(ids_of_walk _).2, List.mem_map]
    simp only [hwalk.edgeIds_iff, Nat.lt_one_iff, exists_eq_left, Walk.hops_zero_iff]
    constructor
    · rintro ⟨id, ⟨u, e, v, ⟨hu, hvertex⟩, hleads, rfl⟩, hx⟩
      exact ⟨e, v, ⟨u, hu, hvertex, hleads⟩, hx⟩
    · rintro ⟨e, v, ⟨u, hu, hvertex, hleads⟩, hx⟩
      exact ⟨e.id, ⟨u, e, v, ⟨hu, hvertex⟩, hleads, rfl⟩, hx⟩

/-- Without targets, the edges of some labels are looked for by their sources only. -/
theorem exists_between_all (hdecode : scheme.decodeAll ds.id ids = .ok start)
    (label : Option String) :
    ∃ g, d.between ds ids label.toList [] = .ok g ∧ ∀ x, x ∈ g.edges.ids ↔
      ∃ e, (e ∈ d.edges ∧ (label = none ∨ label = some e.cls) ∧ e.source ∈ start) ∧
        scheme.encode ds.id e.id = x := by
  refine ⟨_, by rw [between, hdecode]; rfl, fun x => ?_⟩
  rw [mem_assemble_edges]
  cases label with
  | none => simp [and_assoc]
  | some name => simp [and_assoc, eq_comm (a := name)]

/-- Along outgoing edges, an expansion by one hop returns the edges that are found by their sources.
In both directions it returns what it returns in one direction or in the other. -/
theorem expand_one_agrees (hdecode : scheme.decodeAll ds.id ids = .ok start)
    (hvertices : ∀ id ∈ start, d.IsVertex id) (label : Option String) :
    (∃ found, d.between ds ids label.toList [] = .ok found ∧
      ∀ hops ≤ 1, ∃ g, d.expand ds ids .out label hops = .ok g ∧
        ∀ x, x ∈ g.edges.ids ↔ x ∈ found.edges.ids) ∧
      ∃ into out both, d.expand ds ids .into label 1 = .ok into ∧
        d.expand ds ids .out label 1 = .ok out ∧ d.expand ds ids .both label 1 = .ok both ∧
        (∀ x, x ∈ both.nodes.ids ↔ x ∈ into.nodes.ids ∨ x ∈ out.nodes.ids) ∧
        ∀ x, x ∈ both.edges.ids ↔ x ∈ into.edges.ids ∨ x ∈ out.edges.ids := by
  constructor
  · obtain ⟨found, hfound, hedges⟩ := exists_between_all (d := d) hdecode label
    refine ⟨found, hfound, fun hops hhops => ?_⟩
    obtain ⟨g, hg, -, hgedges⟩ := exists_expand_one (d := d) hdecode .out label hhops
    refine ⟨g, hg, fun x => ?_⟩
    rw [hgedges, hedges]
    refine exists_congr fun e => ?_
    rw [← exists_leadsAway_out_iff hvertices, exists_and_right]
  · have hone := fun direction =>
      exists_expand_one (d := d) hdecode direction label (Nat.le_refl 1)
    obtain ⟨into, hinto, hintoNodes, hintoEdges⟩ := hone .into
    obtain ⟨out, hout, houtNodes, houtEdges⟩ := hone .out
    obtain ⟨both, hboth, hbothNodes, hbothEdges⟩ := hone .both
    refine ⟨into, out, both, hinto, hout, hboth, fun x => ?_, fun x => ?_⟩
    · rw [hbothNodes, hintoNodes, houtNodes]
      simp only [leadsAway_both_iff, or_and_right, exists_or]
    · rw [hbothEdges, hintoEdges, houtEdges]
      simp only [leadsAway_both_iff, or_and_right, exists_or]

/-- Two cities with a road from one to itself and roads of one id both ways, and a third one from which
a road leads to them. -/
def junction : Dataset where
  vertices := [{ id := "#1:0", cls := "City" }, { id := "#1:1", cls := "City" },
    { id := "#1:2", cls := "City" }]
  edges := [
    { id := "#2:0", cls := "Road", source := "#1:0", target := "#1:0" },
    { id := "#2:1", cls := "Road", source := "#1:0", target := "#1:1" },
    { id := "#2:1", cls := "Road", source := "#1:1", target := "#1:0" },
    { id := "#2:2", cls := "Road", source := "#1:2", target := "#1:1" }]

def region : DataSource where
  id := 7
  type := tag
  name := "region"

theorem expand_one_agrees_junction :
    let ids := ["7_1_1", "7_1_0", "7_1_1"]
    let start := ["#1:1", "#1:0", "#1:1"]
    scheme.decodeAll region.id ids = .ok start ∧ (∀ id ∈ start, junction.IsVertex id) ∧
      (∀ hops ≤ 1, ∃ g, junction.expand region ids .out (some "Road") hops = .ok g ∧
        ∀ x, x ∈ g.edges.ids ↔ x ∈ ["7_2_0", "7_2_1"]) ∧
      ∃ into out both, junction.expand region ids .into (some "Road") 1 = .ok into ∧
        junction.expand region ids .out (some "Road") 1 = .ok out ∧
        junction.expand region ids .both (some "Road") 1 = .ok both ∧
        (∀ x, x ∈ both.nodes.ids ↔ x ∈ into.nodes.ids ∨ x ∈ out.nodes.ids) ∧
        ∀ x, x ∈ both.edges.ids ↔ x ∈ into.edges.ids ∨ x ∈ out.edges.ids := by
  have hdecode : scheme.decodeAll region.id ["7_1_1", "7_1_0", "7_1_1"] =
      .ok ["#1:1", "#1:0", "#1:1"] := rfl
  have hvertices : ∀ id ∈ ["#1:1", "#1:0", "#1:1"], junction.IsVertex id := by
    simp [IsVertex, junction]
  obtain ⟨⟨found, hfound, hout⟩, hboth⟩ := expand_one_agrees hdecode hvertices (some "Road")
  have hids : (junction.between region ["7_1_1", "7_1_0", "7_1_1"] (some "Road").toList []).map
      (·.edges.ids) = .ok ["7_2_0", "7_2_1"] := by rfl
  rw [hfound] at hids
  refine ⟨hdecode, hvertices, fun hops hhops => ?_, hboth⟩
  obtain ⟨g, hg, hedges⟩ := hout hops hhops
  exact ⟨g, hg, fun x => Except.ok.inj hids ▸ hedges x⟩

end Causeway.Memory.Dataset
