import Causeway.Proofs.Relational.Stored
import Causeway.Proofs.Sprite.Calls
import Causeway.Proofs.Sprite.Fields
import Causeway.Relational.Provider

/-!
# Indexing tables

Where the engine pages the tables of a connection, a player is offered every row of every table once, in
the order of the pages, and is called to start and to finish a batch as often as it takes to cover the
rows (`exists_script_of_pagedAs`). A data source that is connected has a stored database behind it, and the
index of one always ends (`script_of_connect`).
-/

namespace Causeway.Relational

variable {c : Connection} {e : Engine} {files : FileTree} {ds : DataSource}

/-- The index of a data source is that of its connection. -/
theorem script_eq (hengine : Engine.ofTag ds.type = .ok e) (hconnect : connect files ds = .ok c)
    {s : Script} (hs : c.script e = some s) : script files ds = .ok s := by
  rw [script, hengine]
  change (connect files ds >>= fun c => pure ((c.script e).getD {})) = _
  rw [hconnect]
  change Except.ok ((c.script e).getD {}) = _
  rw [hs]
  rfl

/-- What is attached is a store. -/
theorem exists_store_of_connect (h : connect files ds = .ok c) :
    ∃ store : Store, c = store.connection := by
  obtain ⟨engine, -, hconnection⟩ := exists_of_bind_eq_ok h
  obtain ⟨target, -, hattach⟩ := exists_of_bind_eq_ok hconnection
  cases hscanner : engine.scanner? with
  | some scanner =>
    rw [hscanner] at hattach
    cases hattach
  | none =>
    cases hstore : attached? files (attachStatement engine target) with
    | none =>
      rw [hscanner, hstore] at hattach
      cases hattach
    | some store =>
      rw [hscanner, hstore] at hattach
      exact ⟨store, (Except.ok.inj hattach).symm⟩

theorem script_of_connect (hengine : Engine.ofTag ds.type = .ok e)
    (hconnect : connect files ds = .ok c) :
    ∃ s, c.script e = some s ∧ script files ds = .ok s := by
  obtain ⟨store, rfl⟩ := exists_store_of_connect hconnect
  obtain ⟨s, hs⟩ := store.exists_script e
  exact ⟨s, hs, script_eq hengine hconnect hs⟩

namespace Answer

/-- What a player is called for when the rows of an answer are indexed. -/
def indexCalls (a : Answer) (className : String) : List Player.Call :=
  (windowsOf pageSize (a.sprites className)).flatMap Player.Call.ofWindow

/-- A player has been called for every row once, in windows of which none is empty or too long. -/
structure IndexedBy (a : Answer) (className : String) (calls : List Player.Call) : Prop where
  offered : calls.filterMap Player.Call.sprite? = a.sprites className
  starts : calls.countP Player.Call.isStart = windowCount pageSize a.rows.length
  finishes : calls.countP Player.Call.isFinish = windowCount pageSize a.rows.length
  windows : ∃ windows : List (List Sprite), calls = windows.flatMap Player.Call.ofWindow ∧
    ∀ w ∈ windows, 0 < w.length ∧ w.length ≤ pageSize

theorem indexedBy_indexCalls (a : Answer) (className : String) :
    a.IndexedBy className (a.indexCalls className) := by
  have hsize : 0 < pageSize := by decide
  have hcount : (windowsOf pageSize (a.sprites className)).length =
      windowCount pageSize a.rows.length := by
    rw [length_windowsOf, sprites, List.length_map, List.length_map]
  constructor
  · rw [indexCalls, Player.Call.filterMap_flatMap_ofWindow, flatten_windowsOf hsize]
  · rw [indexCalls, Player.Call.countP_flatMap_ofWindow (fun _ => rfl) rfl, hcount]
  · rw [indexCalls, Player.Call.countP_flatMap_ofWindow (fun _ => rfl) rfl, hcount]
  · exact ⟨_, rfl, fun w hw => length_of_mem_windowsOf hsize hw⟩

end Answer

namespace Connection

/-- A column of that name comes behind. -/
theorem first_tableField_rowSprite {className : String} (hname : Text.isBlankText className = false)
    (row : NameMap Value) :
    (rowSprite className row).first tableField = .ok (.string className) := by
  unfold rowSprite
  apply Sprite.first_load_of_first
  exact Sprite.first_add_string rfl hname

/-- Where the engine pages every table, the index of the tables ends, and it calls a player for the
rows of one table after the other. The index of a data source that is connected ends in any case. -/
theorem exists_script_of_pagedAs (c : Connection) (e : Engine) (contents : TableInfo → Answer)
    (hpaged : ∀ t ∈ c.tables, c.PagedAs t (contents t)) :
    (∃ s, c.script e = some s ∧
      (∀ files ds, Engine.ofTag ds.type = .ok e → connect files ds = .ok c →
        Relational.script files ds = .ok s) ∧
      (∀ (σ : Type) (p : Player σ) (st : σ),
        p.Runs st (c.tables.flatMap fun t => (contents t).indexCalls (t.className e))
          (s.playOn p st)) ∧
      ∀ t ∈ c.tables, (∃ last, Ends (c.nextPage e t) {} last) ∧
        (contents t).IndexedBy (t.className e) ((contents t).indexCalls (t.className e)) ∧
        (Text.isBlankText (t.className e) = false →
          ∀ sprite ∈ (contents t).sprites (t.className e),
            sprite.first tableField = .ok (.string (t.className e)))) ∧
      ∀ files ds own, Engine.ofTag ds.type = .ok e → connect files ds = .ok own →
        ∃ s, own.script e = some s ∧ Relational.script files ds = .ok s := by
  let s : Script :=
    { windows := c.tables.flatMap fun t =>
        windowsOf pageSize ((contents t).sprites (t.className e)) }
  have hs : c.script e = some s := scriptOf_of_pagedAs hpaged
  refine ⟨⟨s, hs, ?_, ?_, ?_⟩, fun _ _ _ => script_of_connect⟩
  · intro files ds hengine hconnect
    exact script_eq hengine hconnect hs
  · intro σ p st
    have hcalls := Script.runs_playOn p st (s := s) rfl
    rwa [List.flatMap_assoc] at hcalls
  · intro t ht
    refine ⟨⟨_, ends_of_pagedAs (hpaged t ht) {}⟩, Answer.indexedBy_indexCalls _ _, ?_⟩
    intro hname sprite hsprite
    obtain ⟨row, -, rfl⟩ := List.mem_map.mp hsprite
    exact first_tableField_rowSprite hname row

end Connection

/-! ### A store -/

namespace Store

/-- What a store has of a table; nothing where it cannot be sorted. -/
def contents (s : Store) (t : TableInfo) : Answer := (s.sorted t).toOption.getD default

/-- A table without rows; one of more than two pages, with a column named as the field for the name of
the table; and one of exactly two pages in a schema of its own. -/
def measurements : Store where
  tables := [
    { name := "empty", columns := [("n", .integer .int32)] },
    { name := "numbers", columns := [("n", .integer .int32), ("@table", .text)]
      rows := (List.range 2503).map fun i =>
        [.integer .int32 (i * 7919 % 2503 : Nat), .text "other"] },
    { schema := "stats", name := "squares", columns := [("n", .integer .int64)]
      rows := (List.range 2000).map fun i => [.integer .int64 (i * i : Nat)] }]

def emptyTable : TableInfo := ⟨"main", "empty", [("n", "INTEGER")]⟩

def numbersTable : TableInfo := ⟨"main", "numbers", [("n", "INTEGER"), ("@table", "VARCHAR")]⟩

def squaresTable : TableInfo := ⟨"stats", "squares", [("n", "BIGINT")]⟩

theorem tables_measurements :
    measurements.connection.tables = [emptyTable, numbersTable, squaresTable] :=
  (tables_of_pairwise (by decide)).trans rfl

theorem length_contents (t : TableInfo) {table : StoredTable}
    (hsorted : measurements.sorted t = .ok (measurements.contents t))
    (htable : measurements.table? t.schema t.name = some table) :
    (measurements.contents t).rows.length = table.rows.length := by
  obtain ⟨sorted, hsame, -, hperm⟩ := perm_of_sorted hsorted
  obtain rfl : table = sorted := Option.some.inj (htable.symm.trans hsame)
  exact hperm.length_eq

/-- Three batches of numbers, two of squares, and nothing of the table without rows. -/
theorem exists_script_of_pagedAs_measurements :
    let c := measurements.connection
    let calls (t : TableInfo) := (measurements.contents t).indexCalls (t.className .duckdb)
    (∀ t ∈ c.tables, c.PagedAs t (measurements.contents t)) ∧
      ∃ s, c.script .duckdb = some s ∧
        (∀ (σ : Type) (p : Player σ) (st : σ),
          p.Runs st (calls emptyTable ++ (calls numbersTable ++ calls squaresTable)) (s.playOn p st)) ∧
        (calls emptyTable).countP Player.Call.isStart = 0 ∧
        (calls numbersTable).countP Player.Call.isStart = 3 ∧
        (calls squaresTable).countP Player.Call.isStart = 2 ∧
        ∀ sprite ∈ (measurements.contents numbersTable).sprites "numbers",
          sprite.first Connection.tableField = .ok (.string "numbers") := by
  intro c calls
  have hpaged : ∀ t ∈ c.tables, c.PagedAs t (measurements.contents t) := by
    rw [tables_measurements]
    intro t ht
    simp only [List.mem_cons, List.not_mem_nil, or_false] at ht
    rcases ht with rfl | rfl | rfl
    all_goals exact pagedAs_of_sorted (List.cons_ne_nil _ _) rfl
  obtain ⟨⟨s, hs, -, hcalls, hindexed⟩, -⟩ :=
    Connection.exists_script_of_pagedAs c .duckdb measurements.contents hpaged
  rw [tables_measurements] at hcalls hindexed
  have hempty : (measurements.contents emptyTable).rows.length = 0 :=
    length_contents emptyTable rfl rfl
  have hnumbers : (measurements.contents numbersTable).rows.length = 2503 := by
    rw [length_contents numbersTable rfl rfl, List.length_map, List.length_range]
  have hsquares : (measurements.contents squaresTable).rows.length = 2000 := by
    rw [length_contents squaresTable rfl rfl, List.length_map, List.length_range]
  have hstarts (t : TableInfo) (ht : t ∈ [emptyTable, numbersTable, squaresTable]) :=
    (hindexed t ht).2.1.starts
  refine ⟨hpaged, s, hs, ?_, ?_, ?_, ?_, (hindexed numbersTable (by simp)).2.2 rfl⟩
  · intro σ p st
    have hruns := hcalls σ p st
    rwa [List.flatMap_cons, List.flatMap_cons, List.flatMap_cons, List.flatMap_nil,
      List.append_nil] at hruns
  · exact (hstarts emptyTable (by simp)).trans (congrArg (windowCount pageSize) hempty)
  · exact (hstarts numbersTable (by simp)).trans (congrArg (windowCount pageSize) hnumbers)
  · exact (hstarts squaresTable (by simp)).trans (congrArg (windowCount pageSize) hsquares)

end Store

end Causeway.Relational
