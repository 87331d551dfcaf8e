import Causeway.Proofs.Graph.Built
import Causeway.Proofs.Memory.Answers
import Causeway.Proofs.Memory.Schema
import Causeway.Proofs.SemanticType

/-!
# Answers that documents give back

A dataset that is read has values as JSON has them (`isRead_of_ofText`), and so have the records of its
answers, whose counters are integers. All types come from scalar values and go by their names
(`Answers`). So an answer comes back from its text unless a value nests too deep or has a float whose text
is read as another (`comesBack_iff_fits`).
-/

namespace Causeway

namespace Memory

open Causeway.Graph

/-- Properties as they are read. -/
def FromJson (properties : NameMap Value) : Prop := ∀ e ∈ properties.entries, e.2.FromJson

theorem FromJson.insert {properties : NameMap Value} (h : FromJson properties) (name : String)
    {v : Value} (hv : v.FromJson) : FromJson (properties.insert name v) := by
  intro e he
  rcases Entries.mem_insert he with rfl | he
  · exact hv
  · exact h e he

theorem FromJson.ofProperties {properties : NameMap Value} (h : FromJson properties) :
    FromJson (recordOf (Dataset.nativeProperties properties)) := by
  intro e he
  obtain ⟨p, hp, rfl⟩ := List.mem_map.mp (Json.mem_of_mem_ofList he)
  obtain ⟨r, hr, rfl⟩ := List.mem_map.mp (List.mem_filter.mp hp).1
  exact h r hr

theorem fromJson_countsValue (counts : NameMap Nat) : (countsValue counts).FromJson := by
  constructor
  · refine ⟨NameMap.ordered _, ?_⟩
    rw [Value.entriesWellFormed_iff]
    intro e he
    obtain ⟨r, -, rfl⟩ := List.mem_map.mp he
    exact Value.wellFormed_ofInteger _
  · -- as if the counts were read
    have hread : countsValue counts =
        Value.ofJson (.object (counts.map fun _ n => Json.integer n).entries) := by
      rw [Value.ofJson, Value.membersOfJson_eq_map, NameMap.map, List.map_map]
      rfl
    rw [hread]
    exact Value.isJsonKind_ofJson _

theorem fromJson_vertexRecord {n : NativeVertex} {properties : NameMap Value}
    (hn : n.properties = Dataset.nativeProperties properties) (h : FromJson properties) :
    FromJson (Assembler.vertexRecord n) := by
  unfold Assembler.vertexRecord
  rw [hn]
  exact ((h.ofProperties.insert _ (fromJson_countsValue _)).insert _ (fromJson_countsValue _)).insert _
    (Value.fromJson_ofInteger _)

namespace Dataset

variable {d : Dataset} {ds : DataSource} {g : Graph} {a : Assembler}

/-! ### What is read -/

structure IsRead (d : Dataset) : Prop where
  vertices : ∀ v ∈ d.vertices, FromJson v.properties
  edges : ∀ e ∈ d.edges, FromJson e.properties

theorem fromJson_of_readProperties {n : Option Json.Node} {properties : NameMap Value}
    (h : Vertex.readProperties n = some properties) : FromJson properties := by
  cases n with
  | none =>
    obtain rfl := Option.some.inj h
    exact fun e he => absurd he List.not_mem_nil
  | some n =>
    obtain ⟨members, hmembers, h⟩ := Option.bind_eq_some_iff.mp h
    obtain ⟨entries, hentries, h⟩ := Option.bind_eq_some_iff.mp h
    obtain rfl := Option.some.inj h
    intro e he
    obtain ⟨x, -, hx⟩ := mem_of_mapM hentries e (Json.mem_of_mem_ofList he)
    obtain ⟨v, hv, rfl⟩ := Option.map_eq_some_iff.mp hx
    exact Value.fromJson_of_node_value hv

theorem fromJson_of_read_vertex {n : Json.Node} {v : Vertex} (h : Vertex.read n = some v) :
    FromJson v.properties := by
  obtain ⟨fields, -, h⟩ := Option.bind_eq_some_iff.mp h
  split at h
  · obtain ⟨id, -, h⟩ := Option.bind_eq_some_iff.mp h
    obtain ⟨cls, -, h⟩ := Option.bind_eq_some_iff.mp h
    obtain ⟨properties, hproperties, h⟩ := Option.bind_eq_some_iff.mp h
    obtain rfl := Option.some.inj h
    exact fromJson_of_readProperties hproperties
  · cases h

theorem fromJson_of_read_edge {n : Json.Node} {e : Edge} (h : Edge.read n = some e) :
    FromJson e.properties := by
  obtain ⟨fields, -, h⟩ := Option.bind_eq_some_iff.mp h
  split at h
  · obtain ⟨id, -, h⟩ := Option.bind_eq_some_iff.mp h
    obtain ⟨cls, -, h⟩ := Option.bind_eq_some_iff.mp h
    obtain ⟨source, -, h⟩ := Option.bind_eq_some_iff.mp h
    obtain ⟨target, -, h⟩ := Option.bind_eq_some_iff.mp h
    obtain ⟨properties, hproperties, h⟩ := Option.bind_eq_some_iff.mp h
    obtain rfl := Option.some.inj h
    exact fromJson_of_readProperties hproperties
  · cases h

theorem forall_mem_of_listOf {α : Type} {read : Json.Node → Option α} {p : α → Prop}
    (hread : ∀ n x, read n = some x → p x) {n : Option Json.Node} {l : List α}
    (h : Reading.withDefault (Json.reading.listOf read) [] n = some l) : ∀ x ∈ l, p x := by
  cases n with
  | none =>
    obtain rfl := Option.some.inj h
    exact fun x hx => absurd hx List.not_mem_nil
  | some n =>
    obtain ⟨items, -, h⟩ := Option.bind_eq_some_iff.mp h
    intro x hx
    obtain ⟨n, -, hn⟩ := mem_of_mapM h x hx
    exact hread n x hn

theorem isRead_of_read {n : Json.Node} (h : read n = some d) : d.IsRead := by
  obtain ⟨fields, -, h⟩ := Option.bind_eq_some_iff.mp h
  split at h
  · obtain ⟨vertices, hvertices, h⟩ := Option.bind_eq_some_iff.mp h
    obtain ⟨edges, hedges, h⟩ := Option.bind_eq_some_iff.mp h
    obtain rfl := Option.some.inj h
    exact ⟨forall_mem_of_listOf (fun _ _ => fromJson_of_read_vertex) hvertices,
      forall_mem_of_listOf (fun _ _ => fromJson_of_read_edge) hedges⟩
  · cases h

theorem isRead_of_ofText {text : String} (h : ofText text = .ok d) : d.IsRead := by
  unfold ofText at h
  split at h
  · rename_i hread
    obtain rfl := Except.ok.inj h
    obtain ⟨w, -, hw⟩ := Option.bind_eq_some_iff.mp hread
    exact isRead_of_read hw
  · cases h

/-! ### Answers -/

theorem named_registerProperties {t : ClassTypes} (h : t.Named) (label : String)
    (properties : NameMap Value) :
    (registerProperties t label (nativeProperties properties)).Named := by
  rw [ClassTypes.named_iff] at h ⊢
  intro cls name type htype
  rw [typeOf?_registerProperties, Option.or_eq_some_iff] at htype
  rcases htype with hold | ⟨-, hnew⟩
  · exact h cls name type hold
  · split at hnew
    · obtain ⟨e, he, rfl⟩ := Option.map_eq_some_iff.mp hnew
      have hscalar := List.find?_some he
      rw [Bool.and_eq_true] at hscalar
      exact SemanticType.ofName_name_ofValue hscalar.2
    · cases hnew

/-- Types by their names, and records as they are read. -/
structure Answers (g : Graph) : Prop where
  nodeClasses : g.nodeClasses.Named
  edgeClasses : g.edgeClasses.Named
  nodes : ∀ x ∈ g.nodes.toList, FromJson x.record
  edges : ∀ x ∈ g.edges.toList, FromJson x.record

theorem Answers.add (h : Answers a.result) (hd : d.IsRead) {x : NativeElement} (hx : d.Native x) :
    Answers (a.add x).result := by
  cases hx with
  | @vertex v hv =>
    refine ⟨?_, h.edgeClasses, fun x hx => ?_, h.edges⟩
    · rw [Assembler.add, addVertex_nodeClasses]
      exact named_registerProperties h.nodeClasses _ _
    · rcases ElementSet.mem_insert hx with hx | rfl
      · exact h.nodes x hx
      · exact fromJson_vertexRecord (nativeVertex_properties d v) (hd.vertices v hv)
  | @edge e he =>
    refine ⟨h.nodeClasses, named_registerProperties h.edgeClasses _ _, h.nodes, fun x hx => ?_⟩
    rcases ElementSet.mem_insert hx with hx | rfl
    · exact h.edges x hx
    · exact (hd.edges e he).ofProperties

theorem answers_of_assembled (hd : d.IsRead) (h : d.Assembled ds g) : Answers g := by
  obtain ⟨limit, xs, hxs, rfl⟩ := h
  refine Assembler.ingest_induction (fun a x hx ha => ha.add hd (hxs x hx))
    (fun g hg => ⟨hg.nodeClasses, hg.edgeClasses, hg.nodes, hg.edges⟩) ?_
  exact ⟨fun e he => absurd he List.not_mem_nil, fun e he => absurd he List.not_mem_nil,
    fun e he => absurd he List.not_mem_nil, fun e he => absurd he List.not_mem_nil⟩

theorem built_of_assembled (h : d.Assembled ds g) : g.Built := by
  obtain ⟨limit, xs, -, rfl⟩ := h
  exact .assembled ds.id scheme [.withLimit limit, .ingest xs]

theorem Answers.regular (h : Answers g) : g.Regular :=
  ⟨h.nodeClasses, h.edgeClasses, List.forall_mem_append.mpr
    ⟨fun x hx r hr => (h.nodes x hx r hr).wellFormed,
      fun x hx r hr => (h.edges x hx r hr).wellFormed⟩⟩

theorem Answers.fits_iff (h : Answers g) :
    g.Fits ↔ ∀ e ∈ g.nodes.toList ++ g.edges.toList, ∀ r ∈ e.record.entries,
      r.2.nesting ≤ 122 ∧ ∀ x, .float x ∈ r.2.leaves → Json.ReadsBack x := by
  refine forall₂_congr fun e he => forall₂_congr fun r hr => Value.FromJson.fits_iff ?_
  rcases List.mem_append.mp he with he | he
  · exact h.nodes e he r hr
  · exact h.edges e he r hr

/-- A graph that is built comes back from its text, and has the positions of its ids again, exactly if its
values fit into a document, as long as its types go by their names. In answers from datasets that were
read all types do, and all that can fail to fit are lists and maps that nest too deep and floats that are
read as others. -/
theorem comesBack_iff_fits :
    (∀ g : Graph, g.Built → g.Regular → g.Indexed ∧ (g.ComesBack ↔ g.Fits)) ∧
      ∀ text d ds r g, ofText text = .ok d → d.answer ds r = .ok g →
        g.Built ∧ g.Regular ∧ g.Indexed ∧
          (g.ComesBack ↔ ∀ e ∈ g.nodes.toList ++ g.edges.toList, ∀ r ∈ e.record.entries,
            r.2.nesting ≤ 122 ∧ ∀ x, .float x ∈ r.2.leaves → Json.ReadsBack x) := by
  constructor
  · intro g hbuilt hregular
    exact ⟨hbuilt.asBuilt.indexed, Graph.comesBack_iff hbuilt.asBuilt hregular⟩
  · intro text d ds r g htext hanswer
    have hassembled := assembled_of_answer hanswer
    have hanswers := answers_of_assembled (isRead_of_ofText htext) hassembled
    have hbuilt := built_of_assembled hassembled
    exact ⟨hbuilt, hanswers.regular, hbuilt.asBuilt.indexed,
      (Graph.comesBack_iff hbuilt.asBuilt hanswers.regular).trans hanswers.fits_iff⟩

/-! ### Cities with a property -/

def archive : DataSource := { id := 7, type := tag, name := "archive" }

/-- A dataset of a city with a property. -/
def cityChars (property : List Char) : List Char :=
  "\x7b\"vertices\":[\x7b\"id\":\"#1:0\",\"class\":\"City\",\"properties\":\x7b\"a\":".toList ++
    property ++ "\x7d\x7d]\x7d".toList

/-- The whole graph of what was written. -/
def graphOf? (w : Json.Written) : Option Graph :=
  (read ⟨Json.depthLimit, w⟩).bind fun d => (d.answer archive (.query allClasses 0)).toOption

theorem exists_answer {text : String} (h : (Json.Written.read? text).bind graphOf? = some g) :
    ∃ d, ofText text = .ok d ∧ d.answer archive (.query allClasses 0) = .ok g := by
  obtain ⟨w, hw, h⟩ := Option.bind_eq_some_iff.mp h
  obtain ⟨d, hd, h⟩ := Option.bind_eq_some_iff.mp h
  have htext : Json.readDocument read text = some d := by
    rw [Json.readDocument, hw]
    exact hd
  refine ⟨d, ?_, ?_⟩
  · rw [ofText, htext]
  · cases hanswer : d.answer archive (.query allClasses 0) with
    | ok x =>
      rw [hanswer] at h
      exact congrArg Except.ok (Option.some.inj h)
    | error e =>
      rw [hanswer] at h
      cases h

theorem comesBack_iff_fits_city :
    ∃ d g, ofText (String.ofList (cityChars "[0.5,\"x\"]".toList)) = .ok d ∧
      d.answer archive (.query allClasses 0) = .ok g ∧ g.Built ∧ g.Regular ∧ g.Indexed ∧ g.ComesBack := by
  have hgraph : ((Json.Written.read? (String.ofList (cityChars "[0.5,\"x\"]".toList))).bind graphOf?).map
      (fun g => decide g.Fits) = some true := by
    rw [Json.Written.read?_ofList]
    decide +kernel
  obtain ⟨g, hg, hfits⟩ := Option.map_eq_some_iff.mp hgraph
  obtain ⟨d, hd, hanswer⟩ := exists_answer hg
  obtain ⟨hbuilt, hregular, -, -⟩ := comesBack_iff_fits.2 _ d archive _ g hd hanswer
  obtain ⟨hindexed, hiff⟩ := comesBack_iff_fits.1 g hbuilt hregular
  exact ⟨d, g, hd, hanswer, hbuilt, hregular, hindexed, hiff.mpr (of_decide_eq_true hfits)⟩

/-- The dataset of a text is answered by a graph with plain values that does not come back. -/
def LosesPlain (chars : List Char) : Prop :=
  ∃ d g, ofText (String.ofList chars) = .ok d ∧
    d.answer archive (.query allClasses 0) = .ok g ∧ g.Built ∧ g.Regular ∧
    (∀ e ∈ g.nodes.toList ++ g.edges.toList, ∀ r ∈ e.record.entries, ∀ x ∈ r.2.leaves, x.IsPlain) ∧
    ¬g.ComesBack

theorem losesPlain_of_graphOf? {chars : List Char}
    (h : ((Json.Written.read? (String.ofList chars)).bind graphOf?).map (fun g =>
      (decide g.Fits, decide (∀ e ∈ g.nodes.toList ++ g.edges.toList, ∀ r ∈ e.record.entries,
        ∀ x ∈ r.2.leaves, x.IsPlain))) = some (false, true)) : LosesPlain chars := by
  obtain ⟨g, hg, hdecided⟩ := Option.map_eq_some_iff.mp h
  obtain ⟨hfits, hplain⟩ := Prod.mk.inj hdecided
  obtain ⟨d, hd, hanswer⟩ := exists_answer hg
  have hassembled := assembled_of_answer hanswer
  have hregular := (answers_of_assembled (isRead_of_ofText hd) hassembled).regular
  have hbuilt := built_of_assembled hassembled
  refine ⟨d, g, hd, hanswer, hbuilt, hregular, of_decide_eq_true hplain, fun hback => ?_⟩
  exact of_decide_eq_false hfits ((Graph.comesBack_iff hbuilt.asBuilt hregular).mp hback)

/-- A number that is read as a float whose own text is read as another one, and a list that is too deep
once it stands in a graph. -/
theorem not_comesBack_city :
    LosesPlain (cityChars "0.432588065211619630".toList) ∧
      LosesPlain (cityChars (List.replicate 123 '[' ++ List.replicate 123 ']')) := by
  constructor <;> refine losesPlain_of_graphOf? ?_ <;> rw [Json.Written.read?_ofList] <;>
    decide +kernel

end Dataset

end Memory

end Causeway
