import Causeway.Proofs.Relational.Grouping
import Causeway.Proofs.Relational.Paging
import Causeway.Relational.Evaluation

/-!
# Pages of stored tables

A store answers the query of a page with a part of what it answers without a limit
(`select_pageQuery`). So it pages every table that it can sort, and its index always ends
(`exists_script`). Its columns are listed in order, so no table is met twice (`nodup_places_tables`), and
each has its rows counted (`rowCount_eq_ok`).
-/

namespace Causeway.Relational

/-- A limit and an offset take a part of the answer. -/
theorem Statement.apply_limit (columns : List String) (rows : List (List Cell)) (params : List Cell)
    (order : List String) (limit offset : Nat) :
    apply columns rows params { order, limit := some limit, offset } =
      (apply columns rows params { order }).map fun a =>
        ⟨a.columns, (a.rows.drop offset).take limit⟩ := by
  have hpositions : order.mapM (sortPosition columns { order, limit := some limit, offset }) =
      order.mapM (sortPosition columns { order }) := rfl
  unfold apply
  dsimp only [filterRows]
  rw [hpositions]
  cases order.mapM (sortPosition columns { order }) with
  | error failure => rfl
  | ok positions => rfl

namespace Store

variable {s : Store} {t : TableInfo} {e : Engine}

/-- All rows of a table, sorted by the columns listed. -/
def sorted (s : Store) (t : TableInfo) : Except Error Answer :=
  Statement.evaluate s [] (.ofTable [catalogName, t.schema, t.name] { order := t.names })

/-- Sorting keeps the rows of the table. -/
theorem perm_of_sorted {a : Answer} (h : s.sorted t = .ok a) :
    ∃ table, s.table? t.schema t.name = some table ∧ a.columns = table.columns.map (·.1) ∧
      a.rows.Perm table.rows := by
  have hpath : Statement.tableOfPath s [catalogName, t.schema, t.name] =
      s.table? t.schema t.name := rfl
  rw [sorted, Statement.evaluate, hpath] at h
  cases htable : s.table? t.schema t.name with
  | none =>
    rw [htable] at h
    cases h
  | some table =>
    rw [htable] at h
    obtain ⟨positions, -, ha⟩ := exists_of_bind_eq_ok (x := t.names.mapM _) h
    obtain rfl := Except.ok.inj ha
    refine ⟨table, rfl, rfl, ?_⟩
    change (if positions.isEmpty then table.rows
      else table.rows.mergeSort (rowPrecedes positions)).Perm table.rows
    split
    · exact .refl _
    · exact List.mergeSort_perm _ _

theorem select_pageQuery (s : Store) (ht : t.columns ≠ []) (offset : Nat) :
    s.select (t.pageQuery offset) [] =
      (s.sorted t).map fun a => ⟨a.columns, (a.rows.drop offset).take pageSize⟩ := by
  have hcount : (Statement.ofPage t offset).parameterCount = ([] : List Cell).length := rfl
  rw [select, Statement.read?_pageQuery ht]
  dsimp only
  rw [if_pos hcount, sorted, Statement.ofPage, Statement.evaluate, Statement.evaluate]
  cases Statement.tableOfPath s [catalogName, t.schema, t.name] with
  | none => rfl
  | some table => exact Statement.apply_limit _ _ _ _ _ _

theorem pagedAs_of_sorted (ht : t.columns ≠ []) {a : Answer} (h : s.sorted t = .ok a) :
    s.connection.PagedAs t a := by
  intro offset
  change s.select (t.pageQuery offset) [] = _
  rw [select_pageQuery s ht, h]
  rfl

/-- A table that cannot be sorted fails with its first page. -/
theorem exists_ends (s : Store) (e : Engine) (ht : t.columns ≠ []) :
    ∃ script, Ends (s.connection.nextPage e t) {} script := by
  cases h : s.sorted t with
  | ok a => exact ⟨_, Connection.ends_of_pagedAs (pagedAs_of_sorted ht h) {}⟩
  | error failure =>
    have hselect : s.connection.select (t.pageQuery 0) [] = .error failure := by
      change s.select (t.pageQuery 0) [] = _
      rw [select_pageQuery s ht, h]
      rfl
    have hround : s.connection.nextPage e t {} = .inr { failure } := by
      rw [Connection.nextPage, Connection.query_pageQuery, hselect]
      rfl
    exact ⟨_, .last hround⟩

/-- Tables that are kept in order are listed as they are kept. -/
theorem tables_of_pairwise (h : s.tables.Pairwise fun a b =>
      (a.schema < b.schema || (a.schema == b.schema && (a.name < b.name || a.name == b.name)))) :
    s.connection.tables = TableInfo.group (s.tables.flatMap fun t =>
      t.columns.map fun (column, type) => ⟨t.schema, t.name, column, type.name⟩) := by
  change TableInfo.group s.columnRows = _
  rw [columnRows, List.mergeSort_of_pairwise h]

/-- The columns of a stored database are listed in order. -/
theorem sortedBy_columnRows (s : Store) : ColumnRow.SortedBy (· ≤ ·) s.columnRows := by
  let precedes (a b : StoredTable) : Bool :=
    a.schema < b.schema || (a.schema == b.schema && (a.name < b.name || a.name == b.name))
  have hprecedes (a b : StoredTable) : precedes a b = true ↔
      a.schema < b.schema ∨ a.schema = b.schema ∧ a.name ≤ b.name := by
    simp only [precedes, Bool.or_eq_true, Bool.and_eq_true, decide_eq_true_eq, beq_iff_eq]
    grind
  have htrans : ∀ a b c, precedes a b = true → precedes b c = true → precedes a c = true := by
    simp only [hprecedes]
    grind
  have htotal : ∀ a b, (precedes a b || precedes b a) = true := by
    simp only [Bool.or_eq_true, hprecedes]
    grind
  have hsorted := List.pairwise_mergeSort htrans htotal s.tables
  rw [columnRows, ColumnRow.SortedBy, List.pairwise_flatMap]
  constructor
  · intro t _
    exact List.pairwise_map.mpr (List.pairwise_of_forall fun _ _ => ⟨Std.le_refl _, fun _ => Std.le_refl _⟩)
  · refine hsorted.imp fun {t u} htu r hr q hq => ?_
    obtain ⟨c, -, rfl⟩ := List.mem_map.mp hr
    obtain ⟨d, -, rfl⟩ := List.mem_map.mp hq
    dsimp only
    rw [hprecedes] at htu
    grind

theorem nodup_places_tables (s : Store) : (s.connection.tables.map TableInfo.place).Nodup :=
  (TableInfo.groups_group s.columnRows).nodup_places (fun _ _ => Std.le_antisymm)
    s.sortedBy_columnRows

/-- A table that is listed is stored. -/
theorem isSome_table?_of_mem_tables (ht : t ∈ s.connection.tables) :
    (s.table? t.schema t.name).isSome := by
  have hgroups := TableInfo.groups_group s.columnRows
  obtain ⟨r, hr⟩ := TableInfo.exists_mem_rows (hgroups.filled t ht)
  have hlisted : r ∈ s.columnRows := by
    rw [← hgroups.joined]
    exact List.mem_flatMap_of_mem ht hr
  obtain ⟨stored, hstored, hcolumn⟩ := List.mem_flatMap.mp hlisted
  obtain ⟨column, -, rfl⟩ := List.mem_map.mp hcolumn
  obtain ⟨hschema, hname⟩ := Prod.mk.inj (TableInfo.place_of_mem_rows hr)
  rw [table?, List.find?_isSome]
  refine ⟨stored, List.mem_mergeSort.mp hstored, ?_⟩
  simp [sameName, ← hschema, ← hname]

def rowCount (s : Store) (t : TableInfo) : Nat :=
  ((s.table? t.schema t.name).map fun table => table.rows.length).getD 0

theorem rowCount_eq_ok (ht : t ∈ s.connection.tables) :
    s.connection.rowCount t = .ok (s.rowCount t) := by
  obtain ⟨table, htable⟩ := Option.isSome_iff_exists.mp (isSome_table?_of_mem_tables ht)
  simp only [connection, rowCount, htable, Option.map_some, Option.getD_some]

/-- The index of a store ends. -/
theorem exists_script (s : Store) (e : Engine) : ∃ script, s.connection.script e = some script := by
  apply Connection.exists_scriptOf_of_ends
  intro t ht
  exact s.exists_ends e (TableInfo.columns_ne_nil_of_mem_group ht)

end Store

end Causeway.Relational
