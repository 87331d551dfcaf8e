import Causeway.Direction
import Causeway.Memory.Dataset

/-!
Neighbourhoods in a dataset, breadth first: a queue holds the ids that are still to be left, with
their distances from the start; each edge and each vertex is taken once.
-/

namespace Causeway.Memory

namespace Dataset

/-- The id at the other end of an edge that touches `id` in the direction. -/
def otherEnd? (direction : Direction) (id : String) (e : Edge) : Option String :=
  if e.source = id ∧ direction.followsOut then some e.target
  else if e.target = id ∧ direction.followsIn then some e.source
  else none

/-- The edges of a label that touch `id` in the direction, with their other ends. -/
def incident (d : Dataset) (direction : Direction) (label : Option String) (id : String) :
    List (Edge × String) :=
  d.edges.filterMap fun e =>
    if label.all (· == e.cls) then (otherEnd? direction id e).map (e, ·) else none

end Dataset

structure Walk where
  /-- Ids met, whether or not there are vertices of these ids. -/
  visited : NameSet := NameMap.empty
  seenEdges : NameSet := NameMap.empty
  /-- The vertices met after the start, in order. -/
  reached : Array Vertex := #[]
  traversed : Array Edge := #[]
  /-- The vertices met from the id that was left last. -/
  next : Array String := #[]
  deriving Inhabited

namespace Walk

def takeEdge (w : Walk) (e : Edge) : Walk :=
  if w.seenEdges.contains e.id then w
  else { w with seenEdges := w.seenEdges.add e.id, traversed := w.traversed.push e }

/-- Goes to the other end of an edge, and on from there if it is a vertex met for the first time. -/
def goTo (d : Dataset) (w : Walk) (id : String) : Walk :=
  if w.visited.contains id then w
  else
    let w := { w with visited := w.visited.add id }
    match d.vertex? id with
    | some v => { w with reached := w.reached.push v, next := w.next.push id }
    | none => w

def cross (d : Dataset) (w : Walk) (e : Edge × String) : Walk := (w.takeEdge e.1).goTo d e.2

def leave (d : Dataset) (direction : Direction) (label : Option String) (w : Walk)
    (id : String) : Walk :=
  (d.incident direction label id).foldl (cross d) { w with next := #[] }

@[simp]
theorem takeEdge_visited (w : Walk) (e : Edge) : (w.takeEdge e).visited = w.visited := by
  unfold takeEdge
  split <;> rfl

@[simp]
theorem takeEdge_reached (w : Walk) (e : Edge) : (w.takeEdge e).reached = w.reached := by
  unfold takeEdge
  split <;> rfl

@[simp]
theorem takeEdge_next (w : Walk) (e : Edge) : (w.takeEdge e).next = w.next := by
  unfold takeEdge
  split <;> rfl

/-- The vertices that a walk can still meet for the first time. -/
def unmet (d : Dataset) (w : Walk) : List Vertex :=
  d.vertices.filter fun v => !w.visited.contains v.id

theorem unmet_add (d : Dataset) (w : Walk) (id : String) :
    ({ w with visited := w.visited.add id }).unmet d =
      (w.unmet d).filter fun v => v.id ≠ id := by
  simp only [unmet, List.filter_filter]
  congr 1
  funext v
  rw [NameSet.contains_add]
  by_cases h : v.id = id <;> simp [h]

/-- What a walk goes on from has been among the unmet. -/
theorem unmet_goTo (d : Dataset) (w : Walk) (id : String) :
    ((w.goTo d id).unmet d).length + (w.goTo d id).next.size ≤
      (w.unmet d).length + w.next.size := by
  unfold goTo
  cases hvisited : w.visited.contains id with
  | true => simp
  | false =>
    have hadd := unmet_add d w id
    cases hv : d.vertex? id with
    | none =>
      have hle := List.length_filter_le (fun v : Vertex => decide (v.id ≠ id)) (w.unmet d)
      rw [← hadd] at hle
      simpa [hv] using hle
    | some v =>
      have hid : v.id = id := by simpa using List.find?_some hv
      have hmem : v ∈ w.unmet d :=
        List.mem_filter.mpr ⟨List.mem_of_find?_eq_some hv, by simp [hid, hvisited]⟩
      have hlt : ((w.unmet d).filter fun v : Vertex => decide (v.id ≠ id)).length <
          (w.unmet d).length :=
        List.length_filter_lt_length_iff_exists.mpr ⟨v, hmem, by simp [hid]⟩
      rw [← hadd] at hlt
      simp only [Bool.false_eq_true, if_false, Array.size_push]
      simp only [unmet] at hlt ⊢
      omega

theorem unmet_leave (d : Dataset) (direction : Direction) (label : Option String) (w : Walk)
    (id : String) :
    ((w.leave d direction label id).unmet d).length + (w.leave d direction label id).next.size ≤
      (w.unmet d).length := by
  suffices h : ∀ (l : List (Edge × String)) (w : Walk),
      ((l.foldl (cross d) w).unmet d).length + (l.foldl (cross d) w).next.size ≤
        (w.unmet d).length + w.next.size from h _ { w with next := #[] }
  intro l
  induction l with
  | nil => exact fun w => Nat.le_refl _
  | cons e l ih =>
    intro w
    have hunmet : (w.takeEdge e.1).unmet d = w.unmet d := by simp [unmet]
    have hcross := unmet_goTo d (w.takeEdge e.1) e.2
    rw [hunmet, takeEdge_next] at hcross
    exact Nat.le_trans (ih (w.cross d e)) hcross

/-- A queue of ids with their distances is worked off; those at the most hops are not left. -/
def drain (d : Dataset) (direction : Direction) (label : Option String) (hops : Nat)
    (queue : List (String × Nat)) (w : Walk) : Walk :=
  match queue with
  | [] => w
  | (id, distance) :: queue =>
    if hops ≤ distance then drain d direction label hops queue w
    else
      let w' := w.leave d direction label id
      drain d direction label hops (queue ++ w'.next.toList.map (·, distance + 1)) w'
termination_by (w.unmet d).length + queue.length
decreasing_by
  · simp
  · have hleave := unmet_leave d direction label w id
    simp only [List.length_append, List.length_map, Array.length_toList, List.length_cons]
    omega

end Walk

/-- The walk from some ids, one hop at least; ids without a vertex are passed over. -/
def Dataset.walk (d : Dataset) (ids : List String) (direction : Direction) (label : Option String)
    (hops : Nat) : Walk :=
  let known := ids.filter fun id => (d.vertex? id).isSome
  Walk.drain d direction label (max hops 1) (known.map (·, 0)) { visited := NameSet.ofList known }

end Causeway.Memory
