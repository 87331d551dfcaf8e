import Causeway.Proofs.Relational.PageQuery
import Causeway.Relational.Evaluation

/-!
# All rows of a stored table

A store answers the query for all rows of a table with its rows (`select_wholeQuery`), and with the
first of them where the query is wrapped into one for so many rows (`select_wrapped`).
-/

namespace Causeway.Relational

/-- A query of which so many rows are asked for. -/
def wrapped (query : String) (count : Nat) : String :=
  "SELECT * FROM (" ++ query ++ ") AS q LIMIT " ++ toString count

namespace TableInfo

/-- The query for all rows of a table. -/
def wholeQuery (t : TableInfo) : String := String.ofList ("SELECT * FROM ".toList ++ t.qualified)

def wholeTokens (t : TableInfo) : List SqlToken := [
  .word "SELECT", .symbol "*", .word "FROM", .word catalogName, .symbol ".", .quoted t.schema,
  .symbol ".", .quoted t.name]

def wrappedTokens (t : TableInfo) (count : Nat) : List SqlToken :=
  .word "SELECT" :: .symbol "*" :: .word "FROM" :: .symbol "(" :: (t.wholeTokens ++ [
    .symbol ")", .word "AS", .word "q", .word "LIMIT", .number count])

theorem lex_wholeQuery (t : TableInfo) {r : List Char} (hr : r.head? ≠ some '"') :
    SqlToken.lex (t.wholeQuery.toList ++ r) = (SqlToken.lex r).map (t.wholeTokens ++ ·) := by
  have htext : t.wholeQuery.toList = "SELECT * FROM ".toList ++ t.qualified := String.toList_ofList
  rw [htext, List.append_assoc, lex_selectAll, lex_qualified t hr, Option.map_map]
  rfl

theorem lex_wrapped (t : TableInfo) (count : Nat) :
    SqlToken.lex (wrapped t.wholeQuery count).toList = some (t.wrappedTokens count) := by
  have hopen (r : List Char) : SqlToken.lex ('(' :: r) = (SqlToken.lex r).map (.symbol "(" :: ·) :=
    SqlToken.lex_symbol rfl
  have hclose (r : List Char) : SqlToken.lex (')' :: r) = (SqlToken.lex r).map (.symbol ")" :: ·) :=
    SqlToken.lex_symbol rfl
  have hnone : ∀ d ∈ ([] : List Char).head?, Number.isDigit d = false := fun d hd => nomatch hd
  have htext : (wrapped t.wholeQuery count).toList = "SELECT * FROM ".toList ++ '(' ::
      (t.wholeQuery.toList ++ ')' :: ' ' :: ('A' :: "S".toList ++ ' ' :: ('q' :: [] ++ ' ' ::
        ('L' :: "IMIT".toList ++ ' ' :: (Nat.toDigits 10 count ++ []))))) := by
    unfold wrapped
    rw [Nat.toString_eq_ofList_toDigits]
    simp
  rw [htext, lex_selectAll, hopen, lex_wholeQuery t (by simp), hclose, SqlToken.lex_space,
    SqlToken.lex_word_space, SqlToken.lex_word_space, SqlToken.lex_word_space,
    SqlToken.lex_toDigits count hnone, SqlToken.lex]
  all_goals rfl

/-- It ends with a mark, so nothing is cut off. -/
theorem trimQuery_wholeQuery (t : TableInfo) : trimQuery t.wholeQuery = t.wholeQuery := by
  have hmark : (quoteName t.name).getLast? = some '"' := by
    rw [quoteName, enclosed, ← List.cons_append, List.getLast?_concat]
  have hlast : ("SELECT * FROM ".toList ++ t.qualified).getLast? = some '"' := by
    simp only [qualified, List.getLast?_append, List.getLast?_cons, hmark, Option.getD_some,
      Option.some_or]
  exact trimQuery_of_ends rfl hlast ⟨rfl, rfl⟩ (by decide)

end TableInfo

namespace Statement

def ofWhole (t : TableInfo) : Statement := .ofTable [catalogName, t.schema, t.name] {}

theorem read?_wholeQuery (t : TableInfo) : read? t.wholeQuery = some (ofWhole t) := by
  have htokens := t.lex_wholeQuery (r := []) (by simp)
  rw [List.append_nil, SqlToken.lex] at htokens
  rw [read?, htokens]
  rfl

theorem read?_wrapped (t : TableInfo) (count : Nat) :
    read? (wrapped t.wholeQuery count) = some (.ofStatement (ofWhole t) { limit := count }) := by
  rw [read?, t.lex_wrapped]
  rfl

/-- Names that differ in more than case are kept. -/
theorem distinctNames_of_pairwise {names seen : List String}
    (hnames : names.Pairwise fun m n => Store.sameName n m = false)
    (hseen : ∀ n ∈ names, ∀ m ∈ seen, Store.sameName n m = false) :
    distinctNames seen names = names := by
  induction names generalizing seen with
  | nil => rfl
  | cons n names ih =>
    obtain ⟨hfirst, hrest⟩ := List.pairwise_cons.mp hnames
    have hfresh : (seen.any (Store.sameName n)) = false := by
      rw [List.any_eq_false]
      intro m hm
      rw [hseen n List.mem_cons_self m hm]
      exact Bool.false_ne_true
    have hlater : ∀ m ∈ names, ∀ k ∈ n :: seen, Store.sameName m k = false := by
      intro m hm k hk
      rcases List.mem_cons.mp hk with rfl | hk
      · exact hfirst m hm
      · exact hseen m (List.mem_cons_of_mem n hm) k hk
    rw [distinctNames]
    simp only [List.find?_cons, hfresh, Bool.not_false, Option.getD_some]
    rw [ih hrest hlater]

end Statement

/-- The whole of a table. -/
def StoredTable.answer (t : StoredTable) : Answer := ⟨t.columns.map (·.1), t.rows⟩

namespace Store

variable {s : Store} {t : TableInfo} {table : StoredTable}

theorem evaluate_ofWhole (h : s.table? t.schema t.name = some table) :
    (Statement.ofWhole t).evaluate s [] = .ok table.answer := by
  have hpath : Statement.tableOfPath s [catalogName, t.schema, t.name] =
      s.table? t.schema t.name := rfl
  rw [Statement.ofWhole, Statement.evaluate, hpath, h]
  rfl

theorem select_wholeQuery (h : s.table? t.schema t.name = some table) :
    s.select t.wholeQuery [] = .ok table.answer := by
  rw [select, Statement.read?_wholeQuery]
  exact evaluate_ofWhole h

theorem select_wrapped (h : s.table? t.schema t.name = some table)
    (hnames : table.answer.columns.Pairwise fun m n => sameName n m = false) (count : Nat) :
    s.select (wrapped t.wholeQuery count) [] =
      .ok ⟨table.answer.columns, table.answer.rows.take count⟩ := by
  have hcount : (Statement.ofStatement (.ofWhole t) { limit := count }).parameterCount =
      ([] : List Cell).length := rfl
  rw [select, Statement.read?_wrapped]
  dsimp only
  rw [if_pos hcount, Statement.evaluate, evaluate_ofWhole h]
  dsimp only [bind, Except.bind]
  rw [Statement.distinctNames_of_pairwise hnames (by simp)]
  rfl

end Store

end Causeway.Relational
