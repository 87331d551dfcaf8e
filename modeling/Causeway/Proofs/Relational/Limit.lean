import Causeway.Proofs.Document.Written
import Causeway.Proofs.Relational.WholeTable
import Mathlib.Data.List.Forall2

/-!
# Limited queries

One row more than the limit is asked for, which is enough to tell whether the result is cut off.
Where the engine keeps to what it is asked for, the table has the first rows up to the limit, says
exactly whether there are more, and types its columns by the rows that it has (`query_limited`).
-/

namespace Causeway.Relational

variable {columns : List String} {row : List Cell} {name : String} {i : Nat}

/-! ### Records -/

/-- The record has the value of each cell under the name of its column, and nothing else. -/
def Shows (columns : List String) (row : List Cell) (r : NameMap Value) : Prop :=
  ∀ name v, r.get? name = some v ↔
    ∃ i : Nat, columns[i]? = some name ∧ row[i]?.map Cell.toValue = some v

theorem get?_zip (hdistinct : columns.Nodup) (hcolumn : columns[i]? = some name)
    (values : List Value) : Entries.get? name (columns.zip values) = values[i]? := by
  induction columns generalizing i values with
  | nil => cases hcolumn
  | cons c columns ih =>
    obtain ⟨hnew, hrest⟩ := List.nodup_cons.mp hdistinct
    cases values with
    | nil => rfl
    | cons v values =>
      rw [List.zip_cons_cons, Entries.get?]
      cases i with
      | zero =>
        obtain rfl := Option.some.inj hcolumn
        rw [if_pos rfl, List.getElem?_cons_zero]
      | succ i =>
        rw [List.getElem?_cons_succ] at hcolumn
        have hname : name ≠ c := fun h => hnew (h ▸ List.mem_of_getElem? hcolumn)
        rw [if_neg hname, List.getElem?_cons_succ, ih hrest hcolumn]

theorem get?_record (hdistinct : columns.Nodup) (hwidth : row.length = columns.length)
    (hcolumn : columns[i]? = some name) :
    (record columns row).get? name = row[i]?.map Cell.toValue := by
  have hkeys : ((columns.zip (row.map Cell.toValue)).map (·.1)).Nodup := by
    have hfirst : (columns.zip (row.map Cell.toValue)).map (·.1) = columns :=
      List.map_fst_zip (Nat.le_of_eq (by rw [List.length_map, hwidth]))
    rwa [hfirst]
  rw [record, NameMap.get?, NameMap.ofList, Entries.get?_ofList hkeys, get?_zip hdistinct hcolumn,
    List.getElem?_map]

theorem shows_record (hdistinct : columns.Nodup) (hwidth : row.length = columns.length) :
    Shows columns row (record columns row) := by
  intro name v
  constructor
  · intro h
    have hmem := Json.mem_of_mem_ofList (Entries.mem_of_get? h)
    obtain ⟨i, hi⟩ := List.mem_iff_getElem?.mp hmem
    obtain ⟨hcolumn, hvalue⟩ := List.getElem?_zip_eq_some.mp hi
    exact ⟨i, hcolumn, List.getElem?_map ▸ hvalue⟩
  · rintro ⟨i, hcolumn, hvalue⟩
    rw [get?_record hdistinct hwidth hcolumn, hvalue]

/-! ### Types of columns -/

/-- The type of the first value that is not null; that of texts where there is none. -/
def FirstType (values : List Value) (type : SemanticType) : Prop :=
  (∃ before v after, values = before ++ v :: after ∧ (∀ u ∈ before, u.isNull = true) ∧
    v.isNull = false ∧ type = .ofValue v) ∨
  (∀ v ∈ values, v.isNull = true) ∧ type = .text

/-- The values of the cells in one place of each row. -/
def valuesIn (rows : List (List Cell)) (i : Nat) : List Value :=
  rows.filterMap fun row => row[i]?.map Cell.toValue

theorem firstType_columnType {rows : List (List Cell)} (hdistinct : columns.Nodup)
    (hwidth : ∀ row ∈ rows, row.length = columns.length) (hcolumn : columns[i]? = some name) :
    FirstType (valuesIn rows i) (columnType name (rows.map (record columns))) := by
  have hvalues : (rows.map (record columns)).filterMap (·.get? name) = valuesIn rows i := by
    rw [List.filterMap_map]
    exact List.filterMap_congr fun row hrow => get?_record hdistinct (hwidth row hrow) hcolumn
  unfold columnType
  rw [hvalues]
  cases hfirst : (valuesIn rows i).find? fun v => !v.isNull with
  | some v =>
    obtain ⟨hv, before, after, hsplit, hbefore⟩ := List.find?_eq_some_iff_append.mp hfirst
    refine .inl ⟨before, v, after, hsplit, fun u hu => ?_, ?_, rfl⟩
    · simpa using hbefore u hu
    · simpa using hv
  | none =>
    refine .inr ⟨fun v hv => ?_, rfl⟩
    simpa using List.find?_eq_none.mp hfirst v hv

/-! ### One row more -/

namespace Connection

variable {c : Connection} {query : String} {params : List Cell} {a : Answer}

/-- The engine answers a query as a whole, and with the first of its rows where so many are asked
for. -/
structure Answers (c : Connection) (query : String) (params : List Cell) (a : Answer) : Prop where
  distinct : a.columns.Nodup
  width : ∀ row ∈ a.rows, row.length = a.columns.length
  whole : c.select query params = .ok a
  first : ∀ count : UInt64,
    c.select (wrapped query count.toNat) params = .ok ⟨a.columns, a.rows.take count.toNat⟩

/-- The rows that a limit leaves. -/
def kept (rows : List (List Cell)) (limit : UInt64) : List (List Cell) :=
  if limit = 0 then rows else rows.take limit.toNat

theorem select_limitedQuery (h : c.Answers query params a) (limit : UInt64) :
    ∃ rows, c.select (limitedQuery query limit.toNat) params = .ok ⟨a.columns, rows⟩ ∧
      kept rows limit = kept a.rows limit ∧
      (limit.toNat < rows.length ↔ limit.toNat < a.rows.length) := by
  by_cases hwrapped : 0 < limit.toNat ∧ limit.toNat < greatestLimit
  · -- there is a number one above the limit, and so a row above it if the answer has one
    have hnext : (limit + 1).toNat = limit.toNat + 1 := by
      have hgreatest : greatestLimit = 18446744073709551615 := rfl
      rw [UInt64.toNat_add, UInt64.toNat_one]
      omega
    refine ⟨a.rows.take (limit + 1).toNat, ?_, ?_, ?_⟩
    · rw [limitedQuery, if_pos hwrapped, ← hnext]
      exact h.first (limit + 1)
    · unfold kept
      rw [hnext, List.take_take, Nat.min_eq_left (Nat.le_succ _)]
      split
      · rename_i hzero
        rw [hzero] at hwrapped
        exact absurd hwrapped.1 (Nat.lt_irrefl 0)
      · rfl
    · rw [hnext, List.length_take]
      omega
  · refine ⟨a.rows, ?_, rfl, Iff.rfl⟩
    rw [limitedQuery, if_neg hwrapped]
    exact h.whole

theorem length_kept_lt_iff (rows : List (List Cell)) (limit : UInt64) :
    (kept rows limit).length < rows.length ↔ 0 < limit ∧ limit.toNat < rows.length := by
  have hpos : 0 < limit ↔ 0 < limit.toNat := UInt64.lt_iff_toNat_lt
  unfold kept
  split
  · rename_i hzero
    subst hzero
    simp
  · rename_i hsome
    have hne : limit.toNat ≠ 0 := fun h => hsome (UInt64.toNat_inj.mp h)
    rw [hpos, List.length_take]
    omega

theorem width_of_mem_kept (h : c.Answers query params a) {limit : UInt64} :
    ∀ row ∈ kept a.rows limit, row.length = a.columns.length := by
  unfold kept
  split
  · exact h.width
  · exact fun row hrow => h.width row (List.mem_of_mem_take hrow)

theorem tableOf_eq (columns : List String) (rows : List (List Cell)) (limit : UInt64) :
    tableOf ⟨columns, rows⟩ limit.toNat = {
      columns := columns.map fun name =>
        ⟨name, columnType name ((kept rows limit).map (record columns))⟩
      rows := (kept rows limit).map (record columns)
      truncated := (kept rows limit).length < rows.length } := by
  have hzero : limit = 0 ↔ limit.toNat = 0 := UInt64.toNat_inj.symm
  simp only [tableOf, kept, hzero]

theorem firstType_of_mem_columns {rows : List (List Cell)} (hdistinct : columns.Nodup)
    (hwidth : ∀ row ∈ rows, row.length = columns.length) {i : Nat} {column : Column}
    (hcolumn : (columns.map fun name =>
      (⟨name, columnType name (rows.map (record columns))⟩ : Column))[i]? = some column) :
    FirstType (valuesIn rows i) column.type := by
  rw [List.getElem?_map] at hcolumn
  obtain ⟨name, hname, rfl⟩ := Option.map_eq_some_iff.mp hcolumn
  exact firstType_columnType hdistinct hwidth hname

/-- A store answers so for a table of rows of one width, if the names of its columns differ in more
than case. -/
theorem answers_wholeQuery {s : Store} {t : TableInfo} {table : StoredTable}
    (htable : s.table? t.schema t.name = some table)
    (hnames : table.answer.columns.Pairwise fun m n => Store.sameName n m = false)
    (hwidth : ∀ row ∈ table.rows, row.length = table.columns.length) :
    s.connection.Answers t.wholeQuery [] table.answer where
  distinct := by
    refine hnames.imp ?_
    rintro m n hne rfl
    rw [Store.sameName, beq_self_eq_true] at hne
    cases hne
  width row hrow := by
    rw [hwidth row hrow, StoredTable.answer, List.length_map]
  whole := Store.select_wholeQuery htable
  first count := Store.select_wrapped htable hnames count.toNat

/-- Whatever the limit, the greatest one included, the table has the first rows up to it, is marked
as truncated exactly if there are more, and types each column by its first value that is not null.
-/
theorem query_limited (text : String) (params : List Value)
    (h : c.Answers (trimQuery text) (params.map Cell.ofValue) a) (limit : UInt64) :
    ∃ t, c.query { text, params, limit := limit.toNat } = .ok t ∧
      List.Forall₂ (Shows a.columns) (kept a.rows limit) t.rows ∧
      (t.truncated = true ↔ 0 < limit ∧ limit.toNat < a.rows.length) ∧
      t.columns.map Column.name = a.columns ∧
      ∀ (i : Nat) (column : Column), t.columns[i]? = some column →
        FirstType (valuesIn (kept a.rows limit) i) column.type := by
  obtain ⟨rows, hselect, hkept, hmore⟩ := select_limitedQuery h limit
  have hquery : c.query { text, params, limit := limit.toNat } =
      .ok (tableOf ⟨a.columns, rows⟩ limit.toNat) := by
    rw [query, hselect]
    rfl
  rw [tableOf_eq, hkept] at hquery
  refine ⟨_, hquery, ?_, ?_, ?_, fun i column hcolumn => ?_⟩
  · rw [List.forall₂_map_right_iff, List.forall₂_same]
    exact fun row hrow => shows_record h.distinct (width_of_mem_kept h row hrow)
  · rw [decide_eq_true_iff, ← hkept, length_kept_lt_iff, hmore]
  · rw [List.map_map]
    exact List.map_id' a.columns
  · exact firstType_of_mem_columns h.distinct (width_of_mem_kept h) hcolumn

/-- The first reading has no number, and the second has no note. -/
def storedReadings : StoredTable where
  name := "readings"
  columns := [("n", .integer .int32), ("note", .text)]
  rows := [[.null, .text "cold"], [.integer .int32 7, .null], [.integer .int32 9, .text "hot"]]

def readings : TableInfo := ⟨"main", "readings", [("n", "INTEGER"), ("note", "VARCHAR")]⟩

/-- Two of the three readings, and all of them with the greatest limit. -/
theorem query_limited_readings :
    let c := Store.connection { tables := [storedReadings] }
    c.Answers (trimQuery readings.wholeQuery) [] storedReadings.answer ∧
      (∃ t, c.query { text := readings.wholeQuery, limit := 2 } = .ok t ∧
        List.Forall₂ (Shows ["n", "note"]) (storedReadings.rows.take 2) t.rows ∧
        t.truncated = true) ∧
      ∃ t, c.query { text := readings.wholeQuery, limit := greatestLimit } = .ok t ∧
        List.Forall₂ (Shows ["n", "note"]) storedReadings.rows t.rows ∧ t.truncated ≠ true := by
  intro c
  have hanswers : c.Answers (trimQuery readings.wholeQuery) [] storedReadings.answer := by
    rw [readings.trimQuery_wholeQuery]
    exact answers_wholeQuery rfl (by decide) (by decide)
  obtain ⟨t, htwo, hrows, hmore, -⟩ := query_limited readings.wholeQuery [] hanswers 2
  obtain ⟨t', hall, hrows', hmore', -⟩ :=
    query_limited readings.wholeQuery [] hanswers (UInt64.ofNat greatestLimit)
  have hless : ¬(0 < UInt64.ofNat greatestLimit ∧
      (UInt64.ofNat greatestLimit).toNat < storedReadings.answer.rows.length) := by decide
  exact ⟨hanswers, ⟨t, htwo, hrows, hmore.mpr (by decide)⟩, t', hall, hrows', mt hmore'.mp hless⟩

end Connection

end Causeway.Relational
