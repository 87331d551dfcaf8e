import Causeway.Proofs.Document.Written
import Causeway.Proofs.Graph.Assembly

/-!
# Graphs that documents give back

Every part of a graph is read from where it is written, and what may be left out has the value that is
put in its place. So a graph comes back exactly if its types go by their names and the values of its
records come back (`comesBack_iff`). A set of elements is made from its list again, with the positions
that it had, since no id stands twice in it (`ElementSet.read_written_iff`).
-/

namespace Causeway

open Json

variable {depth : Nat}

/-! ### Types -/

namespace ClassTypes

/-- Every type is the one that its name stands for. -/
def Named (t : ClassTypes) : Prop :=
  ∀ e ∈ t.entries, ∀ f ∈ e.2.entries, SemanticType.ofName f.2.name = f.2

theorem named_iff {t : ClassTypes} : t.Named ↔ ∀ cls property type,
    t.typeOf? cls property = some type → SemanticType.ofName type.name = type := by
  constructor
  · intro h cls property type htype
    obtain ⟨properties, hcls, hproperty⟩ := Option.bind_eq_some_iff.mp htype
    exact h (cls, properties) (Entries.mem_of_get? hcls) (property, type)
      (Entries.mem_of_get? hproperty)
  · intro h e he f hf
    have hcls : NameMap.get? t e.1 = some e.2 := Entries.get?_of_mem t.ordered he
    have hproperty : e.2.get? f.1 = some f.2 := Entries.get?_of_mem e.2.ordered hf
    refine h e.1 f.1 f.2 ?_
    rw [typeOf?, hcls, Option.bind_some, hproperty]

theorem isFinite_toJson (t : ClassTypes) : ∀ x ∈ t.toJson.leaves, x.IsFinite :=
  forall_leaves_toJson fun _ _ => forall_leaves_toJson fun _ _ => List.forall_mem_singleton.mpr trivial

theorem read_written_iff (t : ClassTypes) :
    read ⟨depth + 1 + 1, t.toJson.written⟩ = some t ↔ t.Named := by
  unfold read toJson
  rw [mapOf_written_iff]
  refine forall₂_congr fun e _ => ?_
  rw [mapOf_written_iff]
  exact forall₂_congr fun f _ => Option.some_inj

end ClassTypes

namespace Graph

namespace Element

theorem forall_leaves_optionalMember {p : Json → Prop} (hp : ∀ s, p (.string s)) (name : String)
    (s? : Option String) : ∀ e ∈ optionalMember name s?, ∀ x ∈ e.2.leaves, p x := by
  cases s? with
  | none => exact fun e he => absurd he List.not_mem_nil
  | some s => exact List.forall_mem_singleton.mpr (List.forall_mem_singleton.mpr (hp s))

theorem isFinite_dataToJson {e : Element} (h : Value.RecordWellFormed e.record) :
    ∀ x ∈ e.dataToJson.leaves, x.IsFinite := by
  have hoptional := forall_leaves_optionalMember (p := IsFinite) fun _ => trivial
  have hrecord : ∀ x ∈ (e.record.toJson Value.serialize).leaves, x.IsFinite :=
    forall_leaves_toJson fun r hr => Value.isFinite_serialize r.2 (h r hr)
  refine forall_leaves_obj ?_
  simp only [List.forall_mem_append, List.forall_mem_singleton]
  exact ⟨⟨⟨⟨List.forall_mem_singleton.mpr trivial, hoptional _ _⟩, hoptional _ _⟩, hoptional _ _⟩,
    hrecord⟩

theorem isFinite_toJson {e : Element} (h : Value.RecordWellFormed e.record) :
    ∀ x ∈ e.toJson.leaves, x.IsFinite := by
  have hplain : ∀ {j : Json}, j.leaves = [j] → j.IsFinite → ∀ x ∈ j.leaves, x.IsFinite := by
    intro j hj hfinite
    rw [hj]
    exact List.forall_mem_singleton.mpr hfinite
  have hposition : ∀ x ∈ (Json.obj [("x", .ofDouble e.position.x), ("y", .ofDouble e.position.y)]).leaves,
      x.IsFinite := by
    refine forall_leaves_obj ?_
    rw [List.forall_mem_cons, List.forall_mem_singleton]
    exact ⟨isFinite_ofDouble _, isFinite_ofDouble _⟩
  refine forall_leaves_obj ?_
  simp only [List.forall_mem_cons]
  exact ⟨hplain rfl trivial, hplain rfl trivial, isFinite_dataToJson h, hposition,
    hplain rfl trivial, hplain rfl trivial, hplain rfl trivial, hplain rfl trivial,
    fun _ hx => absurd hx List.not_mem_nil⟩

theorem get?_optionalMember (name other : String) (s? : Option String) :
    Entries.get? other (optionalMember name s?) =
      if other = name then s?.map Json.string else none := by
  cases s? <;> simp [optionalMember, Entries.get?]

theorem optional_written (s? : Option String) :
    reading.optional Node.text (s?.map ((fun x => ⟨depth, x.written⟩) ∘ Json.string)) = some s? := by
  cases s? <;> rfl

theorem nodup_dataNames (e : Element) : (([("id", Json.string e.id)] ++
    optionalMember "parent" e.parent ++ optionalMember "source" e.source ++
    optionalMember "target" e.target ++
    [("record", e.record.toJson Value.serialize)]).map (·.1)).Nodup := by
  cases e.parent <;> cases e.source <;> cases e.target <;> simp [optionalMember]

theorem readData_written (blank e : Element) :
    readData blank ⟨depth + 1 + 1, e.dataToJson.written⟩ =
      (reading.mapOf Node.value ⟨depth + 1, (e.record.toJson Value.serialize).written⟩).map
        fun record =>
          { blank with
            id := e.id
            parent := e.parent
            source := e.source
            target := e.target
            record } := by
  unfold readData dataToJson
  rw [fields_written e.nodup_dataNames]
  cases hrecord : reading.mapOf Node.value ⟨depth + 1, (e.record.toJson Value.serialize).written⟩ <;>
    simp [Entries.get?_append, get?_optionalMember, Entries.get?, Reading.required,
      Reading.withDefault, optional_written, text_written, hrecord]

/-- Where elements are drawn unless something is said. -/
theorem readPosition_written :
    readPosition ⟨depth + 1,
        (Json.obj [("x", .ofDouble (.zero false)), ("y", .ofDouble (.zero false))]).written⟩ =
      some {} := by
  have hzero : Node.double ⟨0, (ofDouble (.zero false)).written⟩ = some (.zero false) := by
    decide +kernel
  have hdouble : ∀ w, Node.double ⟨depth, w⟩ = Node.double ⟨0, w⟩ := fun _ => rfl
  unfold readPosition
  rw [fields_written (by simp)]
  simp [Entries.get?, Reading.required, hdouble, hzero]

theorem caseName_written (g : Group) :
    (Node.caseName ⟨depth, (Json.string g.name).written⟩).bind Group.ofName? = some g := by
  cases g <;> rfl

theorem read_written {e : Element} (hposition : e.position = {}) :
    read ⟨depth + 1 + 1 + 1, e.toJson.written⟩ =
      (reading.mapOf Node.value ⟨depth + 1, (e.record.toJson Value.serialize).written⟩).map
        fun record => { e with record } := by
  unfold read toJson
  rw [fields_written (by simp)]
  cases hrecord : reading.mapOf Node.value ⟨depth + 1, (e.record.toJson Value.serialize).written⟩ <;>
    simp [fieldNames, Entries.get?, Reading.required, Reading.withDefault, text_written, bool_written,
      caseName_written, readData_written, hposition, readPosition_written, hrecord]

theorem read_written_iff {e : Element} (hposition : e.position = {})
    (h : Value.RecordWellFormed e.record) :
    read ⟨depth + 1 + 1 + 1, e.toJson.written⟩ = some e ↔
      ∀ r ∈ e.record.entries, r.2.Fits depth := by
  have hrecord : read ⟨depth + 1 + 1 + 1, e.toJson.written⟩ = some e ↔
      reading.mapOf Node.value ⟨depth + 1, (e.record.toJson Value.serialize).written⟩ =
        some e.record := by
    rw [read_written hposition]
    cases reading.mapOf Node.value ⟨depth + 1, (e.record.toJson Value.serialize).written⟩ with
    | none => simp
    | some record =>
      rw [Option.map_some, Option.some_inj, Option.some_inj]
      exact ⟨congrArg Element.record, fun heq => heq ▸ rfl⟩
  rw [hrecord, mapOf_written_iff]
  exact forall₂_congr fun r hr => Value.value_written_iff (h r hr)

theorem id_of_read {e x : Element} (hposition : e.position = {})
    (h : read ⟨depth + 1 + 1 + 1, e.toJson.written⟩ = some x) : x.id = e.id := by
  rw [read_written hposition] at h
  obtain ⟨record, -, rfl⟩ := Option.map_eq_some_iff.mp h
  rfl

end Element

namespace ElementSet

variable {s : ElementSet}

theorem isFinite_toJson (h : ∀ e ∈ s.toList, Value.RecordWellFormed e.record) :
    ∀ x ∈ s.toJson.leaves, x.IsFinite := by
  refine forall_leaves_array ?_
  rw [List.forall_mem_map]
  exact fun e he => Element.isFinite_toJson (h e he)

/-- A set comes back exactly if its elements do: their ids are read in any case, so none is dropped. -/
theorem read_written_iff (hs : s.Indexed) (hposition : ∀ e ∈ s.toList, e.position = {})
    (h : ∀ e ∈ s.toList, Value.RecordWellFormed e.record) :
    read ⟨depth + 1 + 1 + 1 + 1, s.toJson.written⟩ = some s ↔
      ∀ e ∈ s.toList, ∀ r ∈ e.record.entries, r.2.Fits depth := by
  have hread : read ⟨depth + 1 + 1 + 1 + 1, s.toJson.written⟩ =
      (s.toList.mapM fun e => Element.read ⟨depth + 1 + 1 + 1, e.toJson.written⟩).map ofList :=
    congrArg (Option.map ofList) (listOf_written s.toList)
  have hlist : read ⟨depth + 1 + 1 + 1 + 1, s.toJson.written⟩ = some s ↔
      s.toList.mapM (fun e => Element.read ⟨depth + 1 + 1 + 1, e.toJson.written⟩) = some s.toList := by
    rw [hread]
    constructor
    · intro hback
      obtain ⟨l, hl, hset⟩ := Option.map_eq_some_iff.mp hback
      -- what is read has the ids of the set, all different, so all of it is kept
      have hids : l.map (·.id) = s.ids :=
        map_of_mapM (fun e he _ hx => Element.id_of_read (hposition e he) hx) hl
      have hsame : (ofList l).toList = l := toList_ofList_of_nodup (hids ▸ hs.nodup_ids)
      rw [hl, ← hsame, hset]
    · intro hback
      rw [hback, Option.map_some, ofList_toList hs]
  rw [hlist, mapM_eq_some_self_iff]
  exact forall₂_congr fun e he => Element.read_written_iff (hposition e he) (h e he)

end ElementSet

/-- Ids have their positions, and no element says where it is drawn. -/
structure AsBuilt (g : Graph) : Prop where
  indexed : g.Indexed
  position : ∀ e ∈ g.nodes.toList ++ g.edges.toList, e.position = {}

/-- Types go by their names, and records have well-formed values. -/
structure Regular (g : Graph) : Prop where
  nodeClasses : g.nodeClasses.Named
  edgeClasses : g.edgeClasses.Named
  values : ∀ e ∈ g.nodes.toList ++ g.edges.toList, Value.RecordWellFormed e.record

/-- The text of a graph gives the graph back. -/
def ComesBack (g : Graph) : Prop := ofText? g.toJson.text = some g

/-- The values of all records fit into a document, five levels down. -/
def Fits (g : Graph) : Prop :=
  ∀ e ∈ g.nodes.toList ++ g.edges.toList, ∀ r ∈ e.record.entries, r.2.Fits 122

instance (g : Graph) : Decidable g.Fits := inferInstanceAs (Decidable (∀ e ∈ _, ∀ r ∈ _, _))

variable {g : Graph}

theorem isFinite_toJson (h : ∀ e ∈ g.nodes.toList ++ g.edges.toList, Value.RecordWellFormed e.record) :
    ∀ x ∈ g.toJson.leaves, x.IsFinite := by
  obtain ⟨hnodes, hedges⟩ := List.forall_mem_append.mp h
  refine forall_leaves_obj ?_
  simp only [List.forall_mem_cons]
  exact ⟨ClassTypes.isFinite_toJson _, ClassTypes.isFinite_toJson _,
    ElementSet.isFinite_toJson hnodes, ElementSet.isFinite_toJson hedges,
    List.forall_mem_singleton.mpr trivial, fun _ hx => absurd hx List.not_mem_nil⟩

/-- A graph comes back exactly if each of its parts does. -/
theorem read_written_iff (g : Graph) :
    read ⟨depth + 1, g.toJson.written⟩ = some g ↔
      ClassTypes.read ⟨depth, g.nodeClasses.toJson.written⟩ = some g.nodeClasses ∧
        ClassTypes.read ⟨depth, g.edgeClasses.toJson.written⟩ = some g.edgeClasses ∧
        ElementSet.read ⟨depth, g.nodes.toJson.written⟩ = some g.nodes ∧
        ElementSet.read ⟨depth, g.edges.toJson.written⟩ = some g.edges := by
  obtain ⟨nodeClasses, edgeClasses, nodes, edges, truncated⟩ := g
  unfold read toJson
  rw [fields_written (by simp)]
  cases hnodeClasses : ClassTypes.read ⟨depth, nodeClasses.toJson.written⟩ <;>
    cases hedgeClasses : ClassTypes.read ⟨depth, edgeClasses.toJson.written⟩ <;>
      cases hnodes : ElementSet.read ⟨depth, nodes.toJson.written⟩ <;>
        cases hedges : ElementSet.read ⟨depth, edges.toJson.written⟩ <;>
          simp [fieldNames, Entries.get?, Reading.required, bool_written, hnodeClasses, hedgeClasses,
            hnodes, hedges]

/-- A regular graph comes back from its text exactly if its values fit. -/
theorem comesBack_iff (h : g.AsBuilt) (hg : g.Regular) : g.ComesBack ↔ g.Fits := by
  obtain ⟨hnodePositions, hedgePositions⟩ := List.forall_mem_append.mp h.position
  obtain ⟨hnodeValues, hedgeValues⟩ := List.forall_mem_append.mp hg.values
  have hdocument : ofText? g.toJson.text = read ⟨122 + 1 + 1 + 1 + 1 + 1, g.toJson.written⟩ := by
    unfold ofText? readDocument
    rw [Written.read?_text (isFinite_toJson hg.values)]
    rfl
  have hnodeTypes : ClassTypes.read ⟨122 + 1 + 1 + 1 + 1, g.nodeClasses.toJson.written⟩ =
      some g.nodeClasses := (ClassTypes.read_written_iff _).mpr hg.nodeClasses
  have hedgeTypes : ClassTypes.read ⟨122 + 1 + 1 + 1 + 1, g.edgeClasses.toJson.written⟩ =
      some g.edgeClasses := (ClassTypes.read_written_iff _).mpr hg.edgeClasses
  rw [ComesBack, hdocument, read_written_iff,
    ElementSet.read_written_iff h.indexed.nodes hnodePositions hnodeValues,
    ElementSet.read_written_iff h.indexed.edges hedgePositions hedgeValues, Fits,
    List.forall_mem_append]
  exact ⟨fun hback => hback.2.2, fun hfits => ⟨hnodeTypes, hedgeTypes, hfits⟩⟩

end Graph

end Causeway
