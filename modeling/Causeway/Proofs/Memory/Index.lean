import Causeway.Memory.Query
import Causeway.Proofs.ElementId
import Causeway.Proofs.Sprite.Calls
import Causeway.Proofs.Sprite.Fields
import Causeway.Proofs.Sprite.Windows

/-!
# Indexing a dataset

A player is offered the elements of one class after the other, those of vertices first, in windows of
at most `windowSize` (`indexCalls`). Every element is offered once, since it is in the group of its
class and in no other (`perm_indexGroups`).
-/

namespace Causeway.Memory.Dataset

variable {d : Dataset} {ds : DataSource}

/-- The sprites of each class in dataset order: vertex classes in name order, then edge classes. -/
def indexGroups (d : Dataset) (ds : DataSource) : List (List Sprite) :=
  (d.vertexClasses.names.map fun cls => (d.verticesOf cls).map (vertexSprite ds)) ++
    d.edgeClasses.names.map fun cls => (d.edgesOf cls).map (edgeSprite ds)

def indexWindows (d : Dataset) (ds : DataSource) : List (List Sprite) :=
  (d.indexGroups ds).flatMap (windowsOf windowSize)

/-- What a player is called for where no call fails. -/
def indexCalls (d : Dataset) (ds : DataSource) : List Player.Call :=
  (d.indexWindows ds).flatMap Player.Call.ofWindow

theorem windows_script (d : Dataset) (ds : DataSource) :
    (d.script ds).windows = d.indexWindows ds := by
  have hsize : 0 < windowSize := by decide
  unfold script indexWindows indexGroups
  simp only [chunksOf_eq_windowsOf hsize, List.flatMap_append, List.flatMap_map]

/-! ### Every element once -/

/-- Elements gathered by their classes are all there, as often as before. -/
theorem perm_flatMap_filter {α : Type} (key : α → String) {names : List String}
    (hnodup : names.Nodup) (l : List α) :
    (names.flatMap fun cls => l.filter (key · == cls)).Perm (l.filter (key · ∈ names)) := by
  induction names with
  | nil => simp
  | cons cls names ih =>
    obtain ⟨hcls, hrest⟩ := List.nodup_cons.mp hnodup
    have hhead : (l.filter (key · ∈ cls :: names)).filter (key · == cls) =
        l.filter (key · == cls) := by
      rw [List.filter_filter]
      refine List.filter_congr fun x _ => ?_
      by_cases hx : key x = cls <;> simp [hx]
    have htail : (l.filter (key · ∈ cls :: names)).filter (fun x => !(key x == cls)) =
        l.filter (key · ∈ names) := by
      rw [List.filter_filter]
      refine List.filter_congr fun x _ => ?_
      by_cases hx : key x = cls
      · simp [hx, hcls]
      · simp [hx]
    have hsplit := List.filter_append_perm (key · == cls) (l.filter (key · ∈ cls :: names))
    rw [hhead, htail] at hsplit
    rw [List.flatMap_cons]
    exact ((List.Perm.refl _).append (ih hrest)).trans hsplit

/-- So are their sprites, gathered by the classes that there are. -/
theorem perm_groups {α : Type} (key : α → String) (sprite : α → Sprite) (l : List α) :
    ((NameSet.ofList (l.map key)).names.map fun cls =>
      (l.filter (key · == cls)).map sprite).flatten.Perm (l.map sprite) := by
  have hnodup := NameMap.nodup_names (NameSet.ofList (l.map key))
  have hall : l.filter (key · ∈ (NameSet.ofList (l.map key)).names) = l := by
    refine List.filter_eq_self.mpr fun x hx => decide_eq_true ?_
    exact (NameSet.mem_names_ofList _ _).mpr (List.mem_map_of_mem hx)
  have hperm := perm_flatMap_filter key hnodup l
  rw [hall] at hperm
  rw [← List.flatMap_def, ← List.map_flatMap]
  exact hperm.map sprite

theorem perm_indexGroups (d : Dataset) (ds : DataSource) :
    (d.indexGroups ds).flatten.Perm
      (d.vertices.map (vertexSprite ds) ++ d.edges.map (edgeSprite ds)) := by
  unfold indexGroups
  rw [List.flatten_append]
  exact (perm_groups (·.cls) _ d.vertices).append (perm_groups (·.cls) _ d.edges)

/-- What a player has been called for when a whole dataset is indexed. -/
structure IndexedBy (d : Dataset) (ds : DataSource) (calls : List Player.Call) : Prop where
  offered : (calls.filterMap Player.Call.sprite?).Perm
    (d.vertices.map (vertexSprite ds) ++ d.edges.map (edgeSprite ds))
  starts : calls.countP Player.Call.isStart =
    ((d.indexGroups ds).map fun group => windowCount windowSize group.length).foldr Nat.add 0
  finishes : calls.countP Player.Call.isFinish = calls.countP Player.Call.isStart

theorem indexedBy_indexCalls (d : Dataset) (ds : DataSource) : d.IndexedBy ds (d.indexCalls ds) := by
  have hsize : 0 < windowSize := by decide
  have hstarts : (d.indexCalls ds).countP Player.Call.isStart = (d.indexWindows ds).length :=
    Player.Call.countP_flatMap_ofWindow (fun _ => rfl) rfl _
  have hfinishes : (d.indexCalls ds).countP Player.Call.isFinish = (d.indexWindows ds).length :=
    Player.Call.countP_flatMap_ofWindow (fun _ => rfl) rfl _
  refine ⟨?_, ?_, hfinishes.trans hstarts.symm⟩
  · have hwhole : List.flatten ∘ windowsOf windowSize = @id (List Sprite) :=
      funext (flatten_windowsOf hsize)
    have hoffered : (d.indexCalls ds).filterMap Player.Call.sprite? = (d.indexGroups ds).flatten := by
      rw [indexCalls, Player.Call.filterMap_flatMap_ofWindow, indexWindows, List.flatMap_def,
        List.flatten_flatten, List.map_map, hwhole, List.map_id]
    rw [hoffered]
    exact perm_indexGroups d ds
  · rw [hstarts, indexWindows, List.length_flatMap]
    simp only [length_windowsOf]
    rfl

/-- No window is empty or too long, and all of it is of one class. -/
theorem mem_indexWindows {w : List Sprite} (hw : w ∈ d.indexWindows ds) :
    0 < w.length ∧ w.length ≤ windowSize ∧ ∃ group ∈ d.indexGroups ds, w <:+: group := by
  have hsize : 0 < windowSize := by decide
  obtain ⟨group, hgroup, hw⟩ := List.mem_flatMap.mp hw
  obtain ⟨hpos, hle⟩ := length_of_mem_windowsOf hsize hw
  exact ⟨hpos, hle, group, hgroup, infix_of_mem_windowsOf hw⟩

/-! ### The ids in a sprite -/

theorem first_id_vertexSprite (ds : DataSource) (v : Vertex) :
    (vertexSprite ds v).first "@id" = .ok (.string (scheme.encode ds.id v.id)) := by
  unfold vertexSprite
  apply Sprite.first_load_of_first
  apply Sprite.first_add_of_first
  exact Sprite.first_add_string rfl (IdScheme.isBlankText_encode scheme ds.id v.id)

theorem first_id_edgeSprite (ds : DataSource) (e : Edge) :
    (edgeSprite ds e).first "@id" = .ok (.string (scheme.encode ds.id e.id)) := by
  unfold edgeSprite
  apply Sprite.first_load_of_first
  apply Sprite.first_add_of_first
  apply Sprite.first_add_of_first
  apply Sprite.first_add_of_first
  exact Sprite.first_add_string rfl (IdScheme.isBlankText_encode scheme ds.id e.id)

/-- What was added before is in other fields. -/
theorem first_source_edgeSprite (ds : DataSource) (e : Edge) :
    (edgeSprite ds e).first "@source" = .ok (.string (scheme.encode ds.id e.source)) := by
  unfold edgeSprite
  apply Sprite.first_load_of_first
  apply Sprite.first_add_of_first
  refine Sprite.first_add_string ?_ (IdScheme.isBlankText_encode scheme ds.id e.source)
  rw [Sprite.valuesAt_add_of_ne _ (by decide), Sprite.valuesAt_add_of_ne _ (by decide)]
  rfl

theorem first_target_edgeSprite (ds : DataSource) (e : Edge) :
    (edgeSprite ds e).first "@target" = .ok (.string (scheme.encode ds.id e.target)) := by
  unfold edgeSprite
  apply Sprite.first_load_of_first
  refine Sprite.first_add_string ?_ (IdScheme.isBlankText_encode scheme ds.id e.target)
  rw [Sprite.valuesAt_add_of_ne _ (by decide), Sprite.valuesAt_add_of_ne _ (by decide),
    Sprite.valuesAt_add_of_ne _ (by decide)]
  rfl

/-- The groups are those of all classes, each class once and in name order. -/
structure GroupedByClass (d : Dataset) : Prop where
  vertices : d.vertexClasses.names.Pairwise (· < ·) ∧
    ∀ cls, cls ∈ d.vertexClasses.names ↔ ∃ v ∈ d.vertices, v.cls = cls
  edges : d.edgeClasses.names.Pairwise (· < ·) ∧
    ∀ cls, cls ∈ d.edgeClasses.names ↔ ∃ e ∈ d.edges, e.cls = cls

theorem groupedByClass (d : Dataset) : d.GroupedByClass := by
  constructor
  · refine ⟨NameMap.pairwise_names _, fun cls => ?_⟩
    rw [vertexClasses, NameSet.mem_names_ofList, List.mem_map]
  · refine ⟨NameMap.pairwise_names _, fun cls => ?_⟩
    rw [edgeClasses, NameSet.mem_names_ofList, List.mem_map]

/-- Indexing a dataset calls a player for the windows of one class after the other, up to the first
call that fails. If none does, every element has been offered once, and with its id in front of
whatever properties it has. -/
theorem runs_script (d : Dataset) (ds : DataSource) :
    (∀ (σ : Type) (p : Player σ) (st : σ),
        p.Runs st (d.indexCalls ds) ((d.script ds).playOn p st)) ∧
      d.GroupedByClass ∧ d.IndexedBy ds (d.indexCalls ds) ∧
      (∀ w ∈ d.indexWindows ds,
        0 < w.length ∧ w.length ≤ windowSize ∧ ∃ group ∈ d.indexGroups ds, w <:+: group) ∧
      (∀ v, (vertexSprite ds v).first "@id" = .ok (.string (scheme.encode ds.id v.id))) ∧
      ∀ e, (edgeSprite ds e).first "@id" = .ok (.string (scheme.encode ds.id e.id)) ∧
        (edgeSprite ds e).first "@source" = .ok (.string (scheme.encode ds.id e.source)) ∧
        (edgeSprite ds e).first "@target" = .ok (.string (scheme.encode ds.id e.target)) := by
  refine ⟨fun σ p st => ?_, groupedByClass d, indexedBy_indexCalls d ds,
    fun w => mem_indexWindows, first_id_vertexSprite ds, fun e => ?_⟩
  · rw [indexCalls, ← windows_script]
    exact Script.runs_playOn p st rfl
  · exact ⟨first_id_edgeSprite ds e, first_source_edgeSprite ds e, first_target_edgeSprite ds e⟩

end Causeway.Memory.Dataset
