import Causeway.Proofs.Sprite.Clean
import Causeway.Proofs.Value.Reading
import Causeway.Sprite.Reader

/-!
# Sprites read from documents

A sprite read from a document holds the lists of the document as they are (`exists_lists_of_ofText?`):
blank values are not skipped, as they are when values are added, and a list with nothing in it is a
field. So a sprite is clean from the start exactly if the document's lists are, it is then clean
whatever is done to it, and otherwise nothing that is done to it adds to the flaws
(`guaranteed_iff_document`).
-/

namespace Causeway

open Json

/-- Null, or a text of white space only. -/
def Json.isBlank : Json → Bool
  | .null => true
  | .string s => Text.isBlankText s
  | _ => false

theorem Value.isBlank_ofJson (j : Json) : (ofJson j).isBlank = j.isBlank := by
  cases j with
  | integer i =>
    rw [ofJson, ofInteger]
    split <;> rfl
  | _ => rfl

/-! ### What is read -/

namespace Sprite

variable {s : Sprite} {depth : Nat} {text field : String}

theorem items_of_mapM {items : List Written} {values : List Value}
    (h : (items.map fun w => Node.mk depth w).mapM Node.value = some values) :
    ∃ js, itemsOfWritten depth items = some js ∧ values = Value.itemsOfJson js := by
  induction items generalizing values with
  | nil =>
    obtain rfl := Option.some.inj h
    exact ⟨[], rfl, rfl⟩
  | cons w items ih =>
    rw [List.map_cons, List.mapM_cons] at h
    obtain ⟨v, hv, h⟩ := Option.bind_eq_some_iff.mp h
    obtain ⟨rest, hrest, h⟩ := Option.bind_eq_some_iff.mp h
    obtain rfl := Option.some.inj h
    rw [Value.node_value_eq] at hv
    obtain ⟨j, hj, rfl⟩ := Option.map_eq_some_iff.mp hv
    obtain ⟨js, hjs, rfl⟩ := ih hrest
    refine ⟨j :: js, ?_, rfl⟩
    rw [itemsOfWritten, hj, hjs]
    rfl

/-- The members of an object whose values are all lists. -/
def ofLists (lists : List (String × List Json)) : List (String × Json) :=
  lists.map fun e => (e.1, .array e.2)

theorem list_of_listOf {w : Written} {values : List Value}
    (h : reading.listOf Node.value ⟨depth, w⟩ = some values) :
    ∃ js, Json.ofWritten depth w = some (.array js) ∧ values = Value.itemsOfJson js := by
  obtain ⟨nodes, hnodes, h⟩ := Option.bind_eq_some_iff.mp h
  change Node.items ⟨depth, w⟩ = some nodes at hnodes
  unfold Node.items at hnodes
  split at hnodes
  · rename_i items left hw hdepth
    dsimp only at hw hdepth
    obtain rfl := Option.some.inj hnodes
    obtain ⟨js, hjs, hvalues⟩ := items_of_mapM h
    refine ⟨js, ?_, hvalues⟩
    rw [hw, hdepth, Json.ofWritten, hjs]
    rfl
  · cases hnodes

/-- The fields of the sprite are these lists, in order, every item turned into its value. -/
def HoldsLists (s : Sprite) (lists : List (String × List Json)) : Prop :=
  s.fields.entries = lists.map fun e => (e.1, Value.itemsOfJson e.2)

theorem members_of_mapM {members : List (Option String × Written)} {nodes : List (String × Node)}
    {entries : List (String × List Value)}
    (hnodes : members.mapM (fun (name, w) => name.map fun name => (name, Node.mk depth w)) =
      some nodes)
    (hentries : nodes.mapM (fun (n, y) => (reading.listOf Node.value y).map (n, ·)) =
      some entries) :
    ∃ lists, membersOfWritten depth members = some (ofLists lists) ∧
      entries = lists.map fun e => (e.1, Value.itemsOfJson e.2) := by
  induction members generalizing nodes entries with
  | nil =>
    obtain rfl := Option.some.inj hnodes
    obtain rfl := Option.some.inj hentries
    exact ⟨[], rfl, rfl⟩
  | cons e members ih =>
    obtain ⟨name, w⟩ := e
    rw [List.mapM_cons] at hnodes
    obtain ⟨node, hnode, hnodes⟩ := Option.bind_eq_some_iff.mp hnodes
    obtain ⟨others, hothers, hnodes⟩ := Option.bind_eq_some_iff.mp hnodes
    obtain rfl := Option.some.inj hnodes
    obtain ⟨n, rfl, rfl⟩ := Option.map_eq_some_iff.mp hnode
    rw [List.mapM_cons] at hentries
    obtain ⟨entry, hentry, hentries⟩ := Option.bind_eq_some_iff.mp hentries
    obtain ⟨rest, hrest, hentries⟩ := Option.bind_eq_some_iff.mp hentries
    obtain rfl := Option.some.inj hentries
    obtain ⟨values, hvalues, rfl⟩ := Option.map_eq_some_iff.mp hentry
    obtain ⟨js, hjs, rfl⟩ := list_of_listOf hvalues
    obtain ⟨lists, hlists, rfl⟩ := ih hothers hrest
    refine ⟨(n, js) :: lists, ?_, rfl⟩
    rw [membersOfWritten, hjs, hlists]
    rfl

/-- The fields of a sprite read from a document are the document's lists. -/
theorem exists_lists_of_ofText? (h : ofText? text = some s) :
    ∃ lists, Json.read? text = some (.object (ofLists lists)) ∧ s.HoldsLists lists := by
  obtain ⟨w, hw, h⟩ := Option.bind_eq_some_iff.mp h
  obtain ⟨fields, hfields, rfl⟩ := Option.map_eq_some_iff.mp h
  obtain ⟨nodes, hnodes, h⟩ := Option.bind_eq_some_iff.mp hfields
  obtain ⟨entries, hentries, h⟩ := Option.bind_eq_some_iff.mp h
  obtain rfl := Option.some.inj h
  change Node.members ⟨depthLimit, w⟩ = some nodes at hnodes
  unfold Node.members at hnodes
  split at hnodes
  · rename_i members left hobject hdepth
    dsimp only at hobject hdepth
    obtain ⟨lists, hlists, rfl⟩ := members_of_mapM hnodes hentries
    -- of lists of one name the last one stays, in the document as in the sprite
    refine ⟨Entries.ofList lists, ?_, (Entries.map_ofList Value.itemsOfJson lists).symm⟩
    have hlast : Entries.ofList (ofLists lists) = ofLists (Entries.ofList lists) :=
      (Entries.map_ofList Json.array lists).symm
    rw [Json.read?, hw, Option.bind_some, hobject, hdepth, Json.ofWritten, hlists, Option.map_some,
      obj, hlast]
  · cases hnodes

/-! ### What is promised of sprites -/

/-- No field holds a null or blank value, and every field has a first value. -/
def Guaranteed (s : Sprite) : Prop :=
  (∀ field, ∀ v ∈ s.valuesAt field, v.isBlank = false) ∧
    ∀ field ∈ s.fieldNames, (s.valueOf field).isOk = true

theorem guaranteed_iff_isClean : s.Guaranteed ↔ s.IsClean := by
  constructor
  · rintro ⟨hblank, hfirst⟩ field values hget
    have hvalues : s.valuesAt field = values := valuesAt_of_get? hget
    have hmem : field ∈ s.fieldNames :=
      mem_fieldNames_iff.mpr (Option.isSome_iff_exists.mpr ⟨values, hget⟩)
    have hsize : 0 < s.sizeOf field := isOk_valueOf_iff.mp (hfirst field hmem)
    rw [sizeOf, hvalues] at hsize
    refine ⟨List.length_pos_iff.mp hsize, ?_⟩
    rw [← hvalues]
    exact hblank field
  · intro h
    constructor
    · intro field v hv
      obtain ⟨values, hget, hv⟩ := mem_valuesAt_iff.mp hv
      exact (h field values hget).2 v hv
    · intro field hmem
      exact isOk_valueOf_iff.mpr (h.hasField_iff.mp (mem_fieldNames_iff.mp hmem))

namespace HoldsLists

variable {lists : List (String × List Json)}

theorem get?_iff (h : s.HoldsLists lists) {values : List Value} :
    s.fields.get? field = some values ↔
      ∃ js, (field, js) ∈ lists ∧ js.map Value.ofJson = values := by
  constructor
  · intro hget
    have hmem : (field, values) ∈ s.fields.entries := Entries.mem_of_get? hget
    rw [h] at hmem
    obtain ⟨e, he, heq⟩ := List.mem_map.mp hmem
    obtain ⟨rfl, rfl⟩ := Prod.mk.inj heq
    exact ⟨e.2, he, (Value.itemsOfJson_eq_map e.2).symm⟩
  · rintro ⟨js, hjs, rfl⟩
    have hmem : (field, js.map Value.ofJson) ∈ s.fields.entries := by
      rw [h, ← Value.itemsOfJson_eq_map]
      exact List.mem_map_of_mem hjs
    exact Entries.get?_of_mem s.fields.ordered hmem

theorem isClean_iff (h : s.HoldsLists lists) :
    s.IsClean ↔ ∀ e ∈ lists, e.2 ≠ [] ∧ ∀ j ∈ e.2, j.isBlank = false := by
  constructor
  · rintro hclean ⟨field, js⟩ he
    obtain ⟨hne, hblank⟩ := hclean field (js.map Value.ofJson) (h.get?_iff.mpr ⟨js, he, rfl⟩)
    refine ⟨fun hnil => hne (List.map_eq_nil_iff.mpr hnil), ?_⟩
    intro j hj
    rw [← Value.isBlank_ofJson]
    exact hblank (Value.ofJson j) (List.mem_map_of_mem hj)
  · intro hlists field values hget
    obtain ⟨js, he, rfl⟩ := h.get?_iff.mp hget
    obtain ⟨hne, hblank⟩ := hlists (field, js) he
    refine ⟨fun hnil => hne (List.map_eq_nil_iff.mp hnil), ?_⟩
    intro v hv
    obtain ⟨j, hj, rfl⟩ := List.mem_map.mp hv
    rw [Value.isBlank_ofJson]
    exact hblank j hj

theorem within (h : s.HoldsLists lists) :
    s.Within (fun v => ∃ e ∈ lists, ∃ j ∈ e.2, Value.ofJson j = v) (∃ e ∈ lists, e.2 = []) := by
  intro field values hget
  obtain ⟨js, he, rfl⟩ := h.get?_iff.mp hget
  constructor
  · intro hnil
    exact ⟨(field, js), he, List.map_eq_nil_iff.mp hnil⟩
  · intro v hv _
    obtain ⟨j, hj, rfl⟩ := List.mem_map.mp hv
    exact ⟨(field, js), he, j, hj, rfl⟩

end HoldsLists

theorem get?_of_valueOf_error (hmem : field ∈ s.fieldNames)
    (herror : (s.valueOf field).isOk = false) : s.fields.get? field = some [] := by
  obtain ⟨values, hvalues⟩ := Option.isSome_iff_exists.mp (mem_fieldNames_iff.mp hmem)
  have hsize : ¬0 < s.sizeOf field := by
    rw [← isOk_valueOf_iff, herror]
    exact Bool.false_ne_true
  rw [sizeOf, valuesAt_of_get? hvalues] at hsize
  rw [hvalues, List.length_eq_zero_iff.mp (Nat.eq_zero_of_not_pos hsize)]

/-- A sprite that was read holds the lists of its document. It keeps what is promised of sprites exactly
if no list is empty or holds a null or a blank text, and then whatever is done to it. Otherwise all
that is ever flawed in it comes from the document. -/
theorem guaranteed_iff_document (h : ofText? text = some s) :
    ∃ lists, Json.read? text = some (.object (ofLists lists)) ∧ s.HoldsLists lists ∧
      (s.Guaranteed ↔ ∀ e ∈ lists, e.2 ≠ [] ∧ ∀ j ∈ e.2, j.isBlank = false) ∧
      (s.Guaranteed → ∀ mutations, (s.run mutations).Guaranteed) ∧
      ∀ mutations field,
        (∀ v ∈ (s.run mutations).valuesAt field, v.isBlank = true →
          ∃ e ∈ lists, ∃ j ∈ e.2, Value.ofJson j = v) ∧
        (field ∈ (s.run mutations).fieldNames →
          ((s.run mutations).valueOf field).isOk = false → ∃ e ∈ lists, e.2 = []) := by
  obtain ⟨lists, hread, hlists⟩ := exists_lists_of_ofText? h
  refine ⟨lists, hread, hlists, ?_, ?_, ?_⟩
  · rw [guaranteed_iff_isClean, hlists.isClean_iff]
  · intro hs mutations
    rw [guaranteed_iff_isClean] at hs ⊢
    exact hs.run mutations
  · intro mutations field
    have hwithin := hlists.within.run mutations
    constructor
    · intro v hv hblank
      obtain ⟨values, hget, hv⟩ := mem_valuesAt_iff.mp hv
      exact (hwithin field values hget).2 v hv hblank
    · intro hmem herror
      exact (hwithin field [] (get?_of_valueOf_error hmem herror)).1 rfl

/-- A null and a list with nothing in it. -/
def flawedText : String := "\x7b\"a\":[null],\"b\":[]\x7d"

/-- Adding a null to the empty field of a document leaves it as it was read. -/
theorem guaranteed_iff_document_flawed :
    ∃ s, ofText? flawedText = some s ∧ "b" ∈ (s.run [.add "b" .null]).fieldNames ∧
      ((s.run [.add "b" .null]).valueOf "b").isOk = false ∧
      ∃ lists, Json.read? flawedText = some (.object (ofLists lists)) ∧ ∃ e ∈ lists, e.2 = [] := by
  have hread : ((ofText? flawedText).map fun s =>
      ((s.run [.add "b" .null]).fieldNames, ((s.run [.add "b" .null]).valueOf "b").isOk)) =
        some (["a", "b"], false) := by
    decide +kernel
  obtain ⟨s, hs, hfields⟩ := Option.map_eq_some_iff.mp hread
  obtain ⟨hnames, herror⟩ := Prod.mk.inj hfields
  have hmem : "b" ∈ (s.run [.add "b" .null]).fieldNames := by
    rw [hnames]
    decide
  obtain ⟨lists, hlists, -, -, -, hstems⟩ := guaranteed_iff_document hs
  exact ⟨s, hs, hmem, herror, lists, hlists, (hstems [.add "b" .null] "b").2 hmem herror⟩

/-- A document can bring a null and a field without a first value into a sprite. -/
theorem not_guaranteed_read :
    ∃ s, ofText? flawedText = some s ∧ s.hasValue "a" .null = true ∧
      s.valueOf "b" = .error (.noSuchField "b") ∧ ¬s.Guaranteed := by
  have hread : ((ofText? flawedText).map fun s =>
      (s.hasValue "a" .null, s.fieldNames, s.sizeOf "b")) = some (true, ["a", "b"], 0) := by
    decide +kernel
  obtain ⟨s, hs, hfields⟩ := Option.map_eq_some_iff.mp hread
  obtain ⟨hnull, hfields⟩ := Prod.mk.inj hfields
  obtain ⟨hnames, hsize⟩ := Prod.mk.inj hfields
  have herror : s.valueOf "b" = .error (.noSuchField "b") := by
    have hnil : s.valuesAt "b" = [] := List.length_eq_zero_iff.mp hsize
    rw [valueOf, first, hnil]
    rfl
  refine ⟨s, hs, hnull, herror, ?_⟩
  intro hguaranteed
  have hmem : "b" ∈ s.fieldNames := by
    rw [hnames]
    decide
  have hok := hguaranteed.2 "b" hmem
  rw [herror] at hok
  cases hok

end Sprite

end Causeway
