import Causeway.Proofs.Relational.Index
import Causeway.Proofs.Relational.TableNames

/-!
# The classes of tables

Metadata keep the last of the tables with one name, and the index marks the rows of all of them with it. So
no table is lost and no two are confused exactly where no two tables clash
(`Connection.metadata_complete_iff`).
-/

namespace Causeway

/-- What every round keeps holds of the result. -/
theorem Ends.invariant {α β : Type} {round : α → α ⊕ β} {P : α → Prop} {Q : β → Prop}
    (hround : ∀ a, P a → (round a).elim P Q) {a : α} {b : β} (h : Ends round a b) (ha : P a) : Q b := by
  induction h with
  | last hlast =>
    have hkept := hround _ ha
    rwa [hlast] at hkept
  | next hnext _ ih =>
    have hkept := hround _ ha
    rw [hnext] at hkept
    exact ih hkept

end Causeway

namespace Causeway.Relational

/-! ### Classes -/

namespace Connection

variable {c : Connection} {e : Engine} {t : TableInfo} {count : TableInfo → Nat} {m : Metadata}

/-- A class tells of a table, with `rows` rows. Of columns with one name it tells the last. -/
structure Describes (e : Engine) (t : TableInfo) (rows : Nat) (cls : TypeClass) : Prop where
  name : cls.name = t.className e
  rows : cls.cardinality = rows
  columns : ∀ column, cls.properties.get? column =
    (t.columns.findRev? (·.1 == column)).map fun c => ⟨c.1, .ofName c.2⟩

theorem typeClass_eq (e : Engine) (t : TableInfo) (rows : Nat) :
    typeClass e t rows = {
      name := t.className e
      cardinality := rows
      properties := NameMap.ofList (t.columns.map fun c => (c.1, ⟨c.1, .ofName c.2⟩)) } := by
  -- the name and the size stay while the columns are added
  have hfold : ∀ (columns : List (String × String)) (cls : TypeClass),
      columns.foldl (fun cls c => cls.withProperty c.1 (.ofName c.2)) cls =
        { cls with properties :=
            columns.foldl (fun m c => m.insert c.1 ⟨c.1, .ofName c.2⟩) cls.properties } := by
    intro columns
    induction columns with
    | nil => exact fun cls => rfl
    | cons column columns ih => exact fun cls => ih _
  rw [NameMap.ofList_eq_foldl, List.foldl_map]
  exact hfold t.columns _

theorem describes_iff {rows : Nat} {cls : TypeClass} :
    Describes e t rows cls ↔ cls = typeClass e t rows := by
  have hcolumns (column : String) : (typeClass e t rows).properties.get? column =
      (t.columns.findRev? (·.1 == column)).map fun c => ⟨c.1, .ofName c.2⟩ := by
    rw [typeClass_eq]
    exact NameMap.get?_ofList_map Prod.fst (fun c => TypeProperty.mk c.1 (.ofName c.2)) t.columns column
  constructor
  · rintro ⟨hname, hrows, hproperties⟩
    rw [typeClass_eq] at hcolumns ⊢
    obtain ⟨name, cardinality, properties⟩ := cls
    obtain rfl := hname
    obtain rfl := hrows
    congr
    exact NameMap.ext fun column => (hproperties column).trans (hcolumns column).symm
  · rintro rfl
    refine ⟨?_, ?_, hcolumns⟩
    · rw [typeClass_eq]
    · rw [typeClass_eq]

/-- The classes are those of the tables, and of tables with one name the last stays. -/
theorem metadata_eq (hcount : ∀ t ∈ c.tables, c.rowCount t = .ok (count t)) :
    c.metadata e = .ok {
      nodeClasses := NameMap.ofList (c.tables.map fun t => (t.className e, typeClass e t (count t))) } := by
  have hclasses : ∀ tables : List TableInfo, (∀ t ∈ tables, c.rowCount t = .ok (count t)) →
      tables.mapM (fun t => (c.rowCount t).map (typeClass e t)) =
        .ok (tables.map fun t => typeClass e t (count t)) := by
    intro tables htables
    induction tables with
    | nil => rfl
    | cons t tables ih =>
      rw [List.mapM_cons, htables t List.mem_cons_self,
        ih fun t ht => htables t (List.mem_cons_of_mem _ ht)]
      rfl
  have hentries : (c.tables.map fun t => typeClass e t (count t)).map (fun cls => (cls.name, cls)) =
      c.tables.map fun t => (t.className e, typeClass e t (count t)) := by
    rw [List.map_map]
    exact List.map_congr_left fun t _ => by rw [Function.comp_apply, typeClass_eq]
  rw [metadata, hclasses c.tables hcount, ← hentries]
  rfl

/-! ### Sprites -/

/-- A name that is not blank is the first value of the field for it. A blank name is passed over, and leaves
the field to the columns. -/
structure Marked (name : String) (sprite : Sprite) : Prop where
  named : Text.isBlankText name = false → sprite.first tableField = .ok (.string name)
  unnamed : Text.isBlankText name = true → ∃ row : NameMap Value, sprite = Sprite.empty.load row.entries

theorem marked_rowSprite (name : String) (row : NameMap Value) : Marked name (rowSprite name row) := by
  constructor
  · intro hname
    exact first_tableField_rowSprite hname row
  · intro hname
    have hadd : Sprite.empty.add tableField (.string name) = Sprite.empty := if_pos hname
    exact ⟨row, by rw [rowSprite, hadd]⟩

/-- Windows are pages of rows of a table that goes by a name. -/
def RowWindows (name : String) (windows : List (List Sprite)) : Prop :=
  ∃ pages : List (List (NameMap Value)), windows = pages.map (List.map (rowSprite name))

theorem RowWindows.concat {name : String} {windows : List (List Sprite)} (h : RowWindows name windows)
    (rows : List (NameMap Value)) : RowWindows name (windows ++ [rows.map (rowSprite name)]) := by
  obtain ⟨pages, rfl⟩ := h
  refine ⟨pages ++ [rows], ?_⟩
  rw [List.map_append, List.map_singleton]

theorem rowWindows_nextPage (p : Paging) (hp : RowWindows (t.className e) p.windows) :
    (c.nextPage e t p).elim (fun p' => RowWindows (t.className e) p'.windows)
      (fun s => RowWindows (t.className e) s.windows) := by
  unfold nextPage
  cases c.query { text := t.pageQuery p.offset } with
  | error failure => exact hp
  | ok page =>
    dsimp only
    split
    · exact hp
    · split
      · exact hp.concat page.rows
      · exact hp.concat page.rows

/-- The index of a table comes to an end, and a sprite is in one of its windows. -/
def Indexed (c : Connection) (e : Engine) (t : TableInfo) (sprite : Sprite) : Prop :=
  ∃ s, Ends (c.nextPage e t) {} s ∧ sprite ∈ s.windows.flatten

theorem Indexed.marked {sprite : Sprite} (h : c.Indexed e t sprite) :
    Marked (t.className e) sprite := by
  obtain ⟨s, hends, hsprite⟩ := h
  obtain ⟨pages, hpages⟩ : RowWindows (t.className e) s.windows :=
    hends.invariant rowWindows_nextPage ⟨[], rfl⟩
  rw [hpages, ← List.map_flatten] at hsprite
  obtain ⟨row, -, rfl⟩ := List.mem_map.mp hsprite
  exact marked_rowSprite _ row

theorem indexed_of_pagedAs {a : Answer} (h : c.PagedAs t a) {sprite : Sprite}
    (hsprite : sprite ∈ a.sprites (t.className e)) : c.Indexed e t sprite := by
  have hsize : 0 < pageSize := by decide
  refine ⟨_, ends_of_pagedAs h {}, ?_⟩
  change sprite ∈ (windowsOf pageSize (a.sprites (t.className e))).flatten
  rwa [flatten_windowsOf hsize]

/-- The index is put together from those of the tables. -/
theorem indexed_of_scriptOf {tables : List TableInfo}
    (hends : ∀ t ∈ tables, ∃ last, Ends (c.nextPage e t) {} last) {s : Script}
    (hs : c.scriptOf e tables = some s) {sprite : Sprite} (hsprite : sprite ∈ s.windows.flatten) :
    ∃ t ∈ tables, c.Indexed e t sprite := by
  induction tables generalizing s with
  | nil =>
    obtain rfl := Option.some.inj hs
    exact absurd hsprite List.not_mem_nil
  | cons t tables ih =>
    obtain ⟨first, hfirst⟩ := hends t List.mem_cons_self
    have htable : c.tableScript e t = some first := hfirst.repeatM_eq
    rw [scriptOf, htable] at hs
    simp only [Option.bind_eq_bind, Option.bind_some] at hs
    cases hfailure : first.failure with
    | some failure =>
      rw [hfailure] at hs
      obtain rfl := Option.some.inj hs
      exact ⟨t, List.mem_cons_self, first, hfirst, hsprite⟩
    | none =>
      rw [hfailure] at hs
      obtain ⟨rest, hrest, hs⟩ := Option.bind_eq_some_iff.mp hs
      obtain rfl := Option.some.inj hs
      rw [List.flatten_append] at hsprite
      rcases List.mem_append.mp hsprite with hsprite | hsprite
      · exact ⟨t, List.mem_cons_self, first, hfirst, hsprite⟩
      · obtain ⟨u, hu, hindexed⟩ := ih (fun t ht => hends t (List.mem_cons_of_mem _ ht)) hrest hsprite
        exact ⟨u, List.mem_cons_of_mem _ hu, hindexed⟩

/-! ### No table is lost -/

/-- Metadata have a class for each table and no other, and the class tells of the table. -/
structure Complete (e : Engine) (tables : List TableInfo) (count : TableInfo → Nat) (m : Metadata) :
    Prop where
  names : m.nodeClasses.names.Perm (tables.map (·.className e))
  classes : ∀ t ∈ tables, ∃ cls,
    m.nodeClasses.get? (t.className e) = some cls ∧ Describes e t (count t) cls

theorem findRev?_className {tables : List TableInfo} (hnodup : (tables.map (·.className e)).Nodup)
    (ht : t ∈ tables) : tables.findRev? (·.className e == t.className e) = some t := by
  rw [List.findRev?_eq_find?_reverse]
  cases hfound : tables.reverse.find? (·.className e == t.className e) with
  | none =>
    rw [List.find?_eq_none] at hfound
    exact absurd (beq_self_eq_true _) (hfound t (List.mem_reverse.mpr ht))
  | some u =>
    have hname : u.className e = t.className e := by simpa using List.find?_some hfound
    have hu : u ∈ tables := List.mem_reverse.mp (List.mem_of_find?_eq_some hfound)
    rw [List.inj_on_of_nodup_map hnodup hu ht hname]

theorem complete_iff_nodup {tables : List TableInfo} (hlast : ∀ name, m.nodeClasses.get? name =
      (tables.findRev? (·.className e == name)).map fun t => typeClass e t (count t)) :
    Complete e tables count m ↔ (tables.map (·.className e)).Nodup := by
  constructor
  · intro h
    exact h.names.nodup_iff.mp m.nodeClasses.nodup_names
  · intro hnodup
    constructor
    · rw [List.perm_ext_iff_of_nodup m.nodeClasses.nodup_names hnodup]
      intro name
      rw [← NameMap.contains_iff_mem_names, NameMap.contains, hlast, Option.isSome_map,
        List.findRev?_eq_find?_reverse, List.find?_isSome]
      simp only [List.mem_reverse, beq_iff_eq, List.mem_map]
    · intro t ht
      refine ⟨_, ?_, describes_iff.mpr rfl⟩
      rw [hlast, findRev?_className hnodup ht, Option.map_some]

theorem metadata_of_connect {files : FileTree} {ds : DataSource} (hengine : Engine.ofTag ds.type = .ok e)
    (hconnect : connect files ds = .ok c) : Relational.metadata files ds = c.metadata e := by
  rw [Relational.metadata, hengine]
  change (connect files ds >>= fun c => c.metadata e) = _
  rw [hconnect]
  rfl

/-- Metadata tell of the last of the tables with one name, and so of all tables exactly if none clash. Then
the index tells rows of different tables apart by the first value of one field. A table that goes by a blank
name leaves the field to its columns. All that is assumed holds of a data source that is connected. -/
theorem metadata_complete_iff (c : Connection) (e : Engine) (count : TableInfo → Nat)
    (hcount : ∀ t ∈ c.tables, c.rowCount t = .ok (count t))
    (hplaces : (c.tables.map TableInfo.place).Nodup) :
    (∃ m, c.metadata e = .ok m ∧
      (∀ files ds, Engine.ofTag ds.type = .ok e → connect files ds = .ok c →
        Relational.metadata files ds = .ok m) ∧
      m.edgeClasses = NameMap.empty ∧
      (∀ name cls, m.nodeClasses.get? name = some cls ↔
        ∃ t, c.tables.findRev? (·.className e == name) = some t ∧ Describes e t (count t) cls) ∧
      (Complete e c.tables count m ↔ ∀ t ∈ c.tables, ∀ u ∈ c.tables, ¬t.Clash e u)) ∧
    ((∀ t ∈ c.tables, ∃ last, Ends (c.nextPage e t) {} last) →
      ∃ s, c.script e = some s ∧
        ∀ sprite ∈ s.windows.flatten, ∃ t ∈ c.tables, c.Indexed e t sprite) ∧
    (∀ t sprite, c.Indexed e t sprite → Marked (t.className e) sprite) ∧
    (∀ t u first second, c.Indexed e t first → c.Indexed e u second → t.place ≠ u.place →
      Text.isBlankText (t.className e) = false → Text.isBlankText (u.className e) = false →
      (first.first tableField = second.first tableField ↔ t.Clash e u ∨ u.Clash e t)) ∧
    ∀ files ds own, connect files ds = .ok own →
      (own.tables.map TableInfo.place).Nodup ∧
        ∀ t ∈ own.tables, (∃ n, own.rowCount t = .ok n) ∧ ∃ last, Ends (own.nextPage e t) {} last := by
  refine ⟨⟨_, metadata_eq hcount, ?_, rfl, ?_, ?_⟩, ?_, ?_, ?_, ?_⟩
  · intro files ds hengine hconnect
    rw [metadata_of_connect hengine hconnect, metadata_eq hcount]
  · intro name cls
    rw [NameMap.get?_ofList_map, Option.map_eq_some_iff]
    simp only [describes_iff, eq_comm]
  · rw [← TableInfo.nodup_className_iff hplaces]
    exact complete_iff_nodup fun name => NameMap.get?_ofList_map _ _ c.tables name
  · intro hends
    obtain ⟨s, hs⟩ := exists_scriptOf_of_ends hends
    exact ⟨s, hs, fun sprite hsprite => indexed_of_scriptOf hends hs hsprite⟩
  · intro t sprite hindexed
    exact hindexed.marked
  · intro t u first second hfirst hsecond hplace ht hu
    rw [hfirst.marked.named ht, hsecond.marked.named hu]
    have hclash : t.className e = u.className e ↔ t.Clash e u ∨ u.Clash e t := by
      rw [TableInfo.className_eq_iff]
      simp only [hplace, false_or]
    rw [← hclash]
    constructor
    · intro h
      exact Value.string.inj (Except.ok.inj h)
    · intro h
      rw [h]
  · intro files ds own hconnect
    obtain ⟨store, rfl⟩ := exists_store_of_connect hconnect
    refine ⟨store.nodup_places_tables, fun t ht => ⟨⟨_, Store.rowCount_eq_ok ht⟩, ?_⟩⟩
    exact store.exists_ends e (TableInfo.columns_ne_nil_of_mem_group ht)

end Connection

namespace Store

/-- Two tables with one name, in an implied schema and in another one, and a third in a schema whose name
begins with that of the other. -/
def registry : Store where
  tables := [
    { name := "people", columns := [("id", .integer .int32), ("born", .date)]
      rows := [[.integer .int32 1, .null], [.integer .int32 2, .null]] },
    { schema := "stats", name := "people", columns := [("count", .integer .int64)]
      rows := [[.integer .int64 2]] },
    { schema := "stats.old", name := "people", columns := [("count", .text)] }]

def peopleTable : TableInfo := ⟨"main", "people", [("id", "INTEGER"), ("born", "DATE")]⟩

def statsTable : TableInfo := ⟨"stats", "people", [("count", "BIGINT")]⟩

def oldStatsTable : TableInfo := ⟨"stats.old", "people", [("count", "VARCHAR")]⟩

theorem tables_registry :
    registry.connection.tables = [peopleTable, statsTable, oldStatsTable] :=
  (tables_of_pairwise (by decide)).trans rfl

theorem exists_indexed {s : Store} {t : TableInfo} (e : Engine) (hcolumns : t.columns ≠ []) {a : Answer}
    (hsorted : s.sorted t = .ok a) (hrows : 0 < s.rowCount t) :
    ∃ sprite, s.connection.Indexed e t sprite := by
  obtain ⟨table, htable, -, hperm⟩ := perm_of_sorted hsorted
  rw [rowCount, htable, Option.map_some, Option.getD_some, ← hperm.length_eq] at hrows
  obtain ⟨row, hrow⟩ := List.exists_mem_of_length_pos hrows
  have hpaged := pagedAs_of_sorted hcolumns hsorted
  exact ⟨_, Connection.indexed_of_pagedAs hpaged
    (List.mem_map_of_mem (List.mem_map_of_mem hrow))⟩

theorem metadata_complete_iff_registry :
    let c := registry.connection
    (∀ t ∈ c.tables, c.rowCount t = .ok (registry.rowCount t)) ∧
      (c.tables.map TableInfo.place).Nodup ∧
      (∃ m, c.metadata .duckdb = .ok m ∧
        m.nodeClasses.names.Perm ["people", "stats.people", "stats.old.people"] ∧
        ∃ cls, m.nodeClasses.get? "stats.people" = some cls ∧ cls.cardinality = 1 ∧
          cls.properties.get? "count" = some ⟨"count", .numeric⟩) ∧
      (∃ s, c.script .duckdb = some s ∧
        ∀ sprite ∈ s.windows.flatten, ∃ t ∈ c.tables, c.Indexed .duckdb t sprite) ∧
      ∃ first second, c.Indexed .duckdb peopleTable first ∧ c.Indexed .duckdb statsTable second ∧
        first.first Connection.tableField ≠ second.first Connection.tableField := by
  intro c
  have htables : c.tables = [peopleTable, statsTable, oldStatsTable] := tables_registry
  have hcount : ∀ t ∈ c.tables, c.rowCount t = .ok (registry.rowCount t) := fun _ => rowCount_eq_ok
  have hplaces : (c.tables.map TableInfo.place).Nodup := registry.nodup_places_tables
  have hfree : ∀ t ∈ c.tables, ∀ u ∈ c.tables, ¬t.Clash .duckdb u := by
    have hplain : ∀ t ∈ c.tables, '.' ∉ t.name.toList := by
      rw [htables]
      decide
    have himplied : ∀ t ∈ c.tables, Engine.duckdb.impliesSchema t.schema = true →
        t.schema = "main" := by
      rw [htables]
      decide
    intro t ht u hu
    apply TableInfo.not_clash_of_no_dot (hplain t ht) (hplain u hu)
    intro hti hui
    exact (himplied t ht hti).trans (himplied u hu hui).symm
  obtain ⟨⟨m, hm, -, -, -, hcomplete⟩, hscript, -, htells, -⟩ :=
    Connection.metadata_complete_iff c .duckdb registry.rowCount hcount hplaces
  have hpeople : peopleTable ∈ c.tables := by simp [htables]
  have hstats : statsTable ∈ c.tables := by simp [htables]
  refine ⟨hcount, hplaces, ⟨m, hm, ?_⟩, ?_, ?_⟩
  · have hall := hcomplete.mpr hfree
    have hnames := hall.names
    rw [htables] at hnames
    obtain ⟨cls, hcls, hdescribes⟩ := hall.classes statsTable hstats
    exact ⟨hnames, cls, hcls, hdescribes.rows, (hdescribes.columns "count").trans rfl⟩
  · apply hscript
    intro t ht
    exact registry.exists_ends .duckdb (TableInfo.columns_ne_nil_of_mem_group ht)
  · obtain ⟨first, hfirst⟩ := exists_indexed (s := registry) (t := peopleTable) .duckdb
      (List.cons_ne_nil _ _) rfl Nat.two_pos
    obtain ⟨second, hsecond⟩ := exists_indexed (s := registry) (t := statsTable) .duckdb
      (List.cons_ne_nil _ _) rfl Nat.one_pos
    refine ⟨first, second, hfirst, hsecond, ?_⟩
    rw [Ne, htells peopleTable statsTable first second hfirst hsecond (by decide) rfl rfl]
    rintro (hclash | hclash)
    · exact hfree peopleTable hpeople statsTable hstats hclash
    · exact hfree statsTable hstats peopleTable hpeople hclash

/-- Two tables with one name, each in an implied schema. -/
def homonyms : Store where
  tables := [
    { name := "t", columns := [("id", .integer .int32)], rows := [[.integer .int32 1]] },
    { schema := "public", name := "t", columns := [("name", .text)], rows := [[.text "x"], [.text "y"]] }]

def mainTable : TableInfo := ⟨"main", "t", [("id", "INTEGER")]⟩

def publicTable : TableInfo := ⟨"public", "t", [("name", "VARCHAR")]⟩

theorem tables_homonyms : homonyms.connection.tables = [mainTable, publicTable] :=
  (tables_of_pairwise (by decide)).trans rfl

/-- One class is left of the two tables, and rows of both carry one name. -/
theorem metadata_loses_table :
    let c := homonyms.connection
    c.tables = [mainTable, publicTable] ∧ mainTable.place ≠ publicTable.place ∧
      c.rowCount mainTable = .ok 1 ∧ c.rowCount publicTable = .ok 2 ∧
      (∃ m, c.metadata .duckdb = .ok m ∧ m.nodeClasses.names = ["t"] ∧
        ∃ cls, m.nodeClasses.get? "t" = some cls ∧
          Connection.Describes .duckdb publicTable 2 cls ∧
          ¬Connection.Describes .duckdb mainTable 1 cls) ∧
      ∃ first second, c.Indexed .duckdb mainTable first ∧ c.Indexed .duckdb publicTable second ∧
        first.first Connection.tableField = .ok (.string "t") ∧
        second.first Connection.tableField = .ok (.string "t") := by
  intro c
  have hcount : ∀ t ∈ c.tables, c.rowCount t = .ok (homonyms.rowCount t) := fun _ => rowCount_eq_ok
  refine ⟨tables_homonyms, by decide, rfl, rfl, ⟨_, Connection.metadata_eq hcount, ?_⟩, ?_⟩
  · rw [tables_homonyms]
    refine ⟨rfl, _, rfl, Connection.describes_iff.mpr rfl, ?_⟩
    intro h
    cases h.rows
  · obtain ⟨first, hfirst⟩ := exists_indexed (s := homonyms) (t := mainTable) .duckdb
      (List.cons_ne_nil _ _) rfl Nat.one_pos
    obtain ⟨second, hsecond⟩ := exists_indexed (s := homonyms) (t := publicTable) .duckdb
      (List.cons_ne_nil _ _) rfl Nat.two_pos
    exact ⟨first, second, hfirst, hsecond, hfirst.marked.named rfl,
      hsecond.marked.named rfl⟩

end Store

end Causeway.Relational
