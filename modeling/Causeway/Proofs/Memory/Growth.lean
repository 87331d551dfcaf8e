import Causeway.Memory.Expansion

/-!
# What a walk gains from the edges that it crosses

Crossing edges adds their ids to those taken and their far ends to those met; the ends that are
vertices met for the first time are reached, in order. `Grows` says so for any list of edges, and
`Grows.trans` puts two lists after each other. Leaving an id is crossing the edges that touch it.
-/

namespace Causeway.Memory

namespace Dataset

variable {d : Dataset} {direction : Direction} {label : Option String} {e : Edge} {u v : String}

def IsVertex (d : Dataset) (id : String) : Prop := ∃ v ∈ d.vertices, v.id = id

/-- An edge of the label leads from one id to another in the direction. -/
def Leads (d : Dataset) (direction : Direction) (label : Option String) (e : Edge)
    (u v : String) : Prop :=
  e ∈ d.edges ∧ (label = none ∨ label = some e.cls) ∧
    (direction.followsOut = true ∧ e.source = u ∧ e.target = v ∨
      direction.followsIn = true ∧ e.target = u ∧ e.source = v)

theorem vertex?_isSome_iff {id : String} : (d.vertex? id).isSome = true ↔ d.IsVertex id := by
  simp [vertex?, IsVertex]

theorem otherEnd?_eq_some_iff :
    otherEnd? direction u e = some v ↔
      direction.followsOut = true ∧ e.source = u ∧ e.target = v ∨
        direction.followsIn = true ∧ e.target = u ∧ e.source = v := by
  unfold otherEnd?
  by_cases hout : e.source = u ∧ direction.followsOut = true
  · rw [if_pos hout]
    obtain ⟨hsource, hfollows⟩ := hout
    constructor
    · intro htarget
      exact .inl ⟨hfollows, hsource, by simpa using htarget⟩
    · rintro (⟨_, _, htarget⟩ | ⟨_, htarget, hsource'⟩)
      · rw [htarget]
      · -- an edge that enters the id as well is a loop
        rw [htarget, ← hsource', hsource]
  · rw [if_neg hout]
    by_cases hin : e.target = u ∧ direction.followsIn = true
    · rw [if_pos hin]
      constructor
      · intro hsource
        exact .inr ⟨hin.2, hin.1, by simpa using hsource⟩
      · rintro (⟨hfollows, hsource, _⟩ | ⟨_, _, hsource⟩)
        · exact absurd ⟨hsource, hfollows⟩ hout
        · rw [hsource]
    · rw [if_neg hin]
      constructor
      · intro hnone
        cases hnone
      · rintro (⟨hfollows, hsource, _⟩ | ⟨hfollows, htarget, _⟩)
        · exact absurd ⟨hsource, hfollows⟩ hout
        · exact absurd ⟨htarget, hfollows⟩ hin

theorem mem_incident_iff :
    (e, v) ∈ d.incident direction label u ↔ d.Leads direction label e u v := by
  have hlabel : label.all (· == e.cls) = true ↔ label = none ∨ label = some e.cls := by
    cases label <;> simp
  unfold incident Leads
  rw [List.mem_filterMap]
  constructor
  · rintro ⟨x, hx, hsome⟩
    split at hsome
    · rename_i hall
      obtain ⟨y, hy, hpair⟩ := Option.map_eq_some_iff.mp hsome
      obtain ⟨rfl, rfl⟩ := Prod.mk.inj hpair
      exact ⟨hx, hlabel.mp hall, otherEnd?_eq_some_iff.mp hy⟩
    · cases hsome
  · rintro ⟨he, hall, hends⟩
    refine ⟨e, he, ?_⟩
    rw [if_pos (hlabel.mpr hall), otherEnd?_eq_some_iff.mpr hends]
    rfl

end Dataset

namespace Walk

variable {d : Dataset} {w w' w'' : Walk} {crossed crossed' : List (Edge × String)}
  {fresh fresh' : List String}

def nodeIds (w : Walk) : List String := w.reached.toList.map (·.id)

def edgeIds (w : Walk) : List String := w.traversed.toList.map (·.id)

/-- The edges taken are the ones known as seen. -/
def Tracks (w : Walk) : Prop := ∀ id, w.seenEdges.contains id = true ↔ id ∈ w.edgeIds

/-- What crossing some edges adds to a walk; `fresh` are the ids that it may go on from. -/
structure Grows (d : Dataset) (crossed : List (Edge × String)) (fresh : List String)
    (w w' : Walk) : Prop where
  visited_iff : ∀ id, w'.visited.contains id = true ↔
    w.visited.contains id = true ∨ ∃ p ∈ crossed, p.2 = id
  fresh_iff : ∀ id, id ∈ fresh ↔
    d.IsVertex id ∧ ¬w.visited.contains id = true ∧ ∃ p ∈ crossed, p.2 = id
  nodeIds_eq : w'.nodeIds = w.nodeIds ++ fresh
  tracks : w'.Tracks
  edgeIds_iff : ∀ id, id ∈ w'.edgeIds ↔ id ∈ w.edgeIds ∨ ∃ p ∈ crossed, p.1.id = id

theorem Grows.refl (h : w.Tracks) : Grows d [] [] w w where
  visited_iff := by simp
  fresh_iff := by simp
  nodeIds_eq := by simp
  tracks := h
  edgeIds_iff := by simp

theorem Grows.trans (h : Grows d crossed fresh w w') (h' : Grows d crossed' fresh' w' w'') :
    Grows d (crossed ++ crossed') (fresh ++ fresh') w w'' where
  visited_iff id := by
    rw [h'.visited_iff, h.visited_iff]
    simp only [List.mem_append, or_and_right, exists_or, or_assoc]
  fresh_iff id := by
    rw [List.mem_append, h.fresh_iff, h'.fresh_iff, h.visited_iff]
    simp only [List.mem_append, or_and_right, exists_or]
    -- an end of both lists is fresh only in the first
    by_cases hfirst : ∃ p ∈ crossed, p.2 = id
    · simp [hfirst]
    · simp [hfirst]
  nodeIds_eq := by rw [h'.nodeIds_eq, h.nodeIds_eq, List.append_assoc]
  tracks := h'.tracks
  edgeIds_iff id := by
    rw [h'.edgeIds_iff, h.edgeIds_iff]
    simp only [List.mem_append, or_and_right, exists_or, or_assoc]

theorem takeEdge_edges (h : w.Tracks) (e : Edge) :
    (w.takeEdge e).Tracks ∧
      ∀ id, id ∈ (w.takeEdge e).edgeIds ↔ id ∈ w.edgeIds ∨ e.id = id := by
  unfold takeEdge
  by_cases hseen : w.seenEdges.contains e.id = true
  · rw [if_pos hseen]
    refine ⟨h, fun id => ⟨.inl, ?_⟩⟩
    rintro (hid | rfl)
    · exact hid
    · exact (h e.id).mp hseen
  · rw [if_neg hseen]
    constructor
    · intro id
      rw [NameSet.contains_add, Bool.or_eq_true, beq_iff_eq, h id]
      simp only [edgeIds, Array.toList_push, List.map_append, List.map_cons, List.map_nil,
        List.mem_append, List.mem_singleton]
      exact Or.comm
    · intro id
      simp only [edgeIds, Array.toList_push, List.map_append, List.map_cons, List.map_nil,
        List.mem_append, List.mem_singleton]
      rw [eq_comm]

theorem goTo_edges (w : Walk) (id : String) :
    (w.goTo d id).seenEdges = w.seenEdges ∧ (w.goTo d id).traversed = w.traversed := by
  unfold goTo
  split
  · exact ⟨rfl, rfl⟩
  · dsimp only
    split <;> exact ⟨rfl, rfl⟩

theorem goTo_visited (w : Walk) (id other : String) :
    (w.goTo d id).visited.contains other = true ↔ w.visited.contains other = true ∨ id = other := by
  unfold goTo
  by_cases hvisited : w.visited.contains id = true
  · rw [if_pos hvisited]
    refine ⟨.inl, ?_⟩
    rintro (hother | rfl)
    · exact hother
    · exact hvisited
  · rw [if_neg hvisited]
    have hadd : (w.visited.add id).contains other = true ↔
        w.visited.contains other = true ∨ id = other := by
      rw [NameSet.contains_add, Bool.or_eq_true, beq_iff_eq, eq_comm]
      exact Or.comm
    dsimp only
    split <;> exact hadd

/-- The end of an edge is fresh where it is a vertex that has not been met. -/
theorem goTo_fresh (w : Walk) (id : String) :
    ∃ fresh, (w.goTo d id).nodeIds = w.nodeIds ++ fresh ∧
      (w.goTo d id).next.toList = w.next.toList ++ fresh ∧
      ∀ other, other ∈ fresh ↔
        d.IsVertex other ∧ ¬w.visited.contains other = true ∧ id = other := by
  unfold goTo
  by_cases hvisited : w.visited.contains id = true
  · rw [if_pos hvisited]
    refine ⟨[], by simp, by simp, fun other => ⟨by simp, ?_⟩⟩
    rintro ⟨_, hnew, rfl⟩
    exact absurd hvisited hnew
  · rw [if_neg hvisited]
    have hvertex : (d.vertex? id).isSome = true ↔ d.IsVertex id :=
      Dataset.vertex?_isSome_iff
    dsimp only
    cases hv : d.vertex? id with
    | none =>
      rw [hv] at hvertex
      refine ⟨[], by simp [nodeIds], by simp, fun other => ⟨by simp, ?_⟩⟩
      rintro ⟨hother, _, rfl⟩
      exact absurd (hvertex.mpr hother) (by simp)
    | some v =>
      rw [hv] at hvertex
      have hid : v.id = id := by simpa using List.find?_some hv
      refine ⟨[id], by simp [nodeIds, hid], by simp, fun other => ?_⟩
      rw [List.mem_singleton]
      constructor
      · rintro rfl
        exact ⟨hvertex.mp rfl, hvisited, rfl⟩
      · rintro ⟨_, _, heq⟩
        exact heq.symm

theorem grows_cross (h : w.Tracks) (p : Edge × String) :
    ∃ fresh, Grows d [p] fresh w (w.cross d p) ∧
      (w.cross d p).next.toList = w.next.toList ++ fresh := by
  obtain ⟨htracks, hedges⟩ := takeEdge_edges h p.1
  obtain ⟨fresh, hnodes, hnext, hfresh⟩ := goTo_fresh (d := d) (w.takeEdge p.1) p.2
  obtain ⟨hseen, htraversed⟩ := goTo_edges (d := d) (w.takeEdge p.1) p.2
  refine ⟨fresh, ⟨?_, ?_, ?_, ?_, ?_⟩, ?_⟩
  · intro id
    rw [cross, goTo_visited, takeEdge_visited]
    simp
  · intro id
    rw [hfresh, takeEdge_visited]
    simp
  · rw [cross, hnodes, nodeIds, takeEdge_reached, nodeIds]
  · intro id
    rw [cross, hseen, htracks, edgeIds, ← htraversed, edgeIds]
  · intro id
    rw [cross, edgeIds, htraversed, ← edgeIds, hedges]
    simp
  · rw [cross, hnext, takeEdge_next]

theorem grows_foldl (h : w.Tracks) (l : List (Edge × String)) :
    ∃ fresh, Grows d l fresh w (l.foldl (cross d) w) ∧
      (l.foldl (cross d) w).next.toList = w.next.toList ++ fresh := by
  induction l generalizing w with
  | nil => exact ⟨[], .refl h, by simp⟩
  | cons p l ih =>
    obtain ⟨fresh, hcross, hnext⟩ := grows_cross (d := d) h p
    obtain ⟨fresh', hrest, hnext'⟩ := ih hcross.tracks
    refine ⟨fresh ++ fresh', hcross.trans hrest, ?_⟩
    rw [List.foldl_cons, hnext', hnext, List.append_assoc]

/-- Leaving an id crosses the edges that touch it, and goes on from what is fresh. -/
theorem grows_leave (h : w.Tracks) (direction : Direction) (label : Option String) (id : String) :
    Grows d (d.incident direction label id) (w.leave d direction label id).next.toList w
      (w.leave d direction label id) := by
  have hreset : Tracks { w with next := #[] } := h
  obtain ⟨fresh, hgrows, hnext⟩ := grows_foldl (d := d) hreset (d.incident direction label id)
  have hfresh : (w.leave d direction label id).next.toList = fresh := by simpa [leave] using hnext
  rw [hfresh]
  exact ⟨hgrows.visited_iff, hgrows.fresh_iff, hgrows.nodeIds_eq, hgrows.tracks,
    hgrows.edgeIds_iff⟩

end Walk

end Causeway.Memory
