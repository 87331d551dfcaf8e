import Causeway.Proofs.Graph.Merge
import Causeway.Proofs.Graph.WellFormed

/-!
# The laws of merging

Graphs whose elements were collected by inserts form a monoid under merging, with every graph idempotent
in it (`merge_laws`). A merge is the first graph as it is, and behind it what the second one has under
ids and names of its own (`firstWins_merge`).
-/

namespace Causeway.Graph

namespace ElementSet

variable {s t : ElementSet} {id : String}

theorem insertAll_insertAll (hs : s.Indexed) (ht : t.Indexed) (l : List Element) :
    s.insertAll (t.insertAll l).toList = (s.insertAll t.toList).insertAll l := by
  induction l generalizing t with
  | nil => rfl
  | cons e l ih =>
    calc s.insertAll ((t.insert e).insertAll l).toList
        = (s.insertAll (t.insert e).toList).insertAll l := ih (ht.insert e)
      _ = ((s.insertAll t.toList).insert e).insertAll l := by rw [insertAll_insert hs ht]

theorem insertAll_of_mem_ids (hs : s.Indexed) {l : List Element} (h : ∀ e ∈ l, e.id ∈ s.ids) :
    s.insertAll l = s := by
  induction l with
  | nil => rfl
  | cons e l ih =>
    obtain ⟨he, hl⟩ := List.forall_mem_cons.mp h
    calc s.insertAll (e :: l) = (s.insert e).insertAll l := rfl
      _ = s.insertAll l := by rw [insert_of_mem hs he]
      _ = s := ih hl

/-- What a set had before others came needs no second insert. -/
theorem insertAll_toList_self (hs : s.Indexed) (l : List Element) :
    (s.insertAll l).insertAll s.toList = s.insertAll l := by
  apply insertAll_of_mem_ids (hs.insertAll l)
  intro e he
  exact (mem_ids_insertAll hs l).mpr (.inl (List.mem_map_of_mem he))

/-- Of elements with distinct ids, those of new ids are added in their order. -/
theorem toList_insertAll_filter (hs : s.Indexed) {l : List Element}
    (hnodup : (l.map (·.id)).Nodup) :
    (s.insertAll l).toList = s.toList ++ l.filter (·.id ∉ s.ids) := by
  induction l generalizing s with
  | nil => simp [insertAll]
  | cons e l ih =>
    obtain ⟨hnew, hnodup⟩ := List.nodup_cons.mp hnodup
    change ((s.insert e).insertAll l).toList = _
    by_cases hmem : e.id ∈ s.ids
    · rw [insert_of_mem hs hmem, ih hs hnodup, List.filter_cons_of_neg (by simpa using hmem)]
    · have hinsert : (s.insert e).toList = s.toList ++ [e] := by rw [toList_insert hs, if_neg hmem]
      have hrest : l.filter (·.id ∉ (s.insert e).ids) = l.filter (·.id ∉ s.ids) := by
        apply List.filter_congr
        intro x hx
        have hne : x.id ≠ e.id := fun heq => hnew (List.mem_map.mpr ⟨x, hx, heq⟩)
        simp [mem_ids_insert hs, hne]
      rw [ih (hs.insert e) hnodup, hrest, hinsert, List.append_assoc,
        List.filter_cons_of_pos (by simpa using hmem)]
      rfl

theorem get?_insertAll (hs : s.Indexed) (ht : t.Indexed) (id : String) :
    (s.insertAll t.toList).get? id = (s.get? id).or (t.get? id) := by
  rw [get?_insertAll_list hs, ← get?_ofList, ofList_toList ht]

/-- A set that is a first one as it is, and behind it what a second one has under ids of its own. -/
structure FirstWins (s t u : ElementSet) : Prop where
  toList_eq : u.toList = s.toList ++ t.toList.filter (·.id ∉ s.ids)
  get?_eq : ∀ id, u.get? id = (s.get? id).or (t.get? id)

theorem firstWins_insertAll (hs : s.Indexed) (ht : t.Indexed) :
    FirstWins s t (s.insertAll t.toList) where
  toList_eq := toList_insertAll_filter hs ht.nodup_ids
  get?_eq := get?_insertAll hs ht

end ElementSet

/-- A registry that has the types of a first one, and those that only a second one gives. -/
structure TypesFirstWin (t u v : ClassTypes) : Prop where
  contains_eq : ∀ cls, NameMap.contains v cls = (NameMap.contains t cls || NameMap.contains u cls)
  typeOf?_eq : ∀ cls property,
    v.typeOf? cls property = (t.typeOf? cls property).or (u.typeOf? cls property)

theorem typesFirstWin_merge (t u : ClassTypes) : TypesFirstWin t u (t.merge u) where
  contains_eq := ClassTypes.contains_merge t u
  typeOf?_eq := ClassTypes.typeOf?_merge t u

variable {a b : Graph}

/-- The nodes and the edges were put in one after the other. -/
structure Collected (g : Graph) : Prop where
  nodes : ∃ l, g.nodes = ElementSet.ofList l
  edges : ∃ l, g.edges = ElementSet.ofList l

/-- A set is collected exactly if its positions are right. -/
theorem collected_iff : a.Collected ↔ a.Indexed := by
  constructor
  · rintro ⟨⟨l, hl⟩, m, hm⟩
    exact ⟨hl ▸ ElementSet.indexed_ofList l, hm ▸ ElementSet.indexed_ofList m⟩
  · rintro ⟨hnodes, hedges⟩
    exact ⟨⟨_, (ElementSet.ofList_toList hnodes).symm⟩, _, (ElementSet.ofList_toList hedges).symm⟩

/-- A graph that is a first one as it is, and what a second one adds to it. -/
structure FirstWins (a b g : Graph) : Prop where
  nodes : ElementSet.FirstWins a.nodes b.nodes g.nodes
  edges : ElementSet.FirstWins a.edges b.edges g.edges
  nodeClasses : TypesFirstWin a.nodeClasses b.nodeClasses g.nodeClasses
  edgeClasses : TypesFirstWin a.edgeClasses b.edgeClasses g.edgeClasses
  truncated : g.truncated = (a.truncated || b.truncated)

theorem firstWins_merge (ha : a.Indexed) (hb : b.Indexed) : FirstWins a b (a.merge b) where
  nodes := ElementSet.firstWins_insertAll ha.nodes hb.nodes
  edges := ElementSet.firstWins_insertAll ha.edges hb.edges
  nodeClasses := typesFirstWin_merge a.nodeClasses b.nodeClasses
  edgeClasses := typesFirstWin_merge a.edgeClasses b.edgeClasses
  truncated := rfl

theorem merge_assoc (ha : a.Indexed) (hb : b.Indexed) (c : Graph) :
    (a.merge b).merge c = a.merge (b.merge c) := by
  unfold merge
  rw [ClassTypes.merge_assoc, ClassTypes.merge_assoc, Bool.or_assoc,
    ElementSet.insertAll_insertAll ha.nodes hb.nodes,
    ElementSet.insertAll_insertAll ha.edges hb.edges]

theorem empty_merge (ha : a.Indexed) : Graph.empty.merge a = a := by
  have hnodes : Graph.empty.nodes.insertAll a.nodes.toList = a.nodes :=
    ElementSet.ofList_toList ha.nodes
  have hedges : Graph.empty.edges.insertAll a.edges.toList = a.edges :=
    ElementSet.ofList_toList ha.edges
  have hnodeClasses : Graph.empty.nodeClasses.merge a.nodeClasses = a.nodeClasses :=
    ClassTypes.empty_merge a.nodeClasses
  have hedgeClasses : Graph.empty.edgeClasses.merge a.edgeClasses = a.edgeClasses :=
    ClassTypes.empty_merge a.edgeClasses
  rw [merge, hnodes, hedges, hnodeClasses, hedgeClasses]
  rfl

/-- What comes first is there already. -/
theorem merge_merge_self (ha : a.Indexed) (b : Graph) : (a.merge b).merge a = a.merge b := by
  have htruncated : (a.truncated || b.truncated || a.truncated) = (a.truncated || b.truncated) := by
    cases a.truncated <;> simp
  unfold merge
  rw [ClassTypes.merge_merge_self, ClassTypes.merge_merge_self,
    ElementSet.insertAll_toList_self ha.nodes, ElementSet.insertAll_toList_self ha.edges, htruncated]

theorem merge_self (ha : a.Indexed) : a.merge a = a := by
  calc a.merge a = (a.merge Graph.empty).merge a := by rw [merge_empty]
    _ = a.merge Graph.empty := merge_merge_self ha Graph.empty
    _ = a := merge_empty a

/-- Merging is associative, the empty graph is neutral to it, what is merged a second time makes no
difference, the first graph stays as it is, and well-formed graphs have well-formed merges. -/
theorem merge_laws (ha : a.Collected) (hb : b.Collected) (c : Graph) :
    (a.merge b).merge c = a.merge (b.merge c) ∧
      Graph.empty.merge a = a ∧ a.merge Graph.empty = a ∧
      a.merge a = a ∧ (a.merge b).merge a = a.merge b ∧
      FirstWins a b (a.merge b) ∧
      (a.isWellFormed = true → b.isWellFormed = true → (a.merge b).isWellFormed = true) := by
  rw [collected_iff] at ha hb
  exact ⟨merge_assoc ha hb c, empty_merge ha, merge_empty a, merge_self ha, merge_merge_self ha b,
    firstWins_merge ha hb, isWellFormed_merge⟩

/-- The result of one limited query that yields Ada with her age as a number, and then a ship. -/
def census : Graph :=
  (Assembler.ingest { dataSource := 1, scheme := .record, limit := some 1 }
    [.vertex { id := "#1:0", labels := ["Person"], properties := [⟨"age", .int 36, none, false⟩] },
      .vertex { id := "#2:0", labels := ["Ship"] }]).result

/-- Another one has the same person, whose age it writes out, and an edge. -/
def crewList : Graph :=
  (Assembler.ingest { dataSource := 1, scheme := .record }
    [.vertex { id := "#2:7", labels := ["Ship"] },
      .vertex {
        id := "#1:0"
        labels := ["Person"]
        properties := [⟨"age", .string "thirty-six", none, false⟩] },
      .edge { id := "#3:0", label := "Owns", source := "#1:0", target := "#2:7" }]).result

theorem merge_laws_census : census.Collected ∧ crewList.Collected ∧
    FirstWins census crewList (census.merge crewList) ∧
    (census.merge crewList).isWellFormed = true ∧
    (census.merge crewList).nodes.ids = ["1_1_0", "1_2_7"] ∧
    (crewList.merge census).nodes.ids = ["1_2_7", "1_1_0"] ∧
    (census.merge crewList).nodeClasses.typeOf? "Person" "age" = some .numeric ∧
    (crewList.merge census).nodeClasses.typeOf? "Person" "age" = some .text ∧
    (crewList.merge census).truncated = true := by
  have hcensus : census.Collected := collected_iff.mpr (Assembler.indexed_ingest indexed_empty _)
  have hcrew : crewList.Collected := collected_iff.mpr (Assembler.indexed_ingest indexed_empty _)
  obtain ⟨-, -, -, -, -, hfirst, hwellFormed⟩ := merge_laws hcensus hcrew Graph.empty
  exact ⟨hcensus, hcrew, hfirst, hwellFormed (by decide) (by decide), by decide, by decide,
    by decide, by decide, by decide⟩

end Causeway.Graph
