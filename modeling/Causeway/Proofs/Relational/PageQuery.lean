import Causeway.Proofs.Relational.Tokens
import Causeway.Relational.Connection

/-!
# The query of a page, read back

The query for a page of a table is a statement about that table: all its columns, sorted by those that
it lists, with the limit and the offset of the page (`read?_pageQuery`). Names are read back whatever is
in them, so pages have one query only if they are the same part of the same table
(`TableInfo.pageQuery_names_page`).
-/

namespace Causeway.Relational

open Number

/-- Only white space and semicolons are cut off a query. -/
theorem trimQuery_of_ends {cs : List Char} {a z : Char} (ha : cs.head? = some a)
    (hz : cs.getLast? = some z) (hblank : Text.isBlank a = false ∧ Text.isBlank z = false)
    (hend : z ≠ ';') : trimQuery (String.ofList cs) = String.ofList cs := by
  have hkeep (p : Char → Bool) (l : List Char) (x : Char) (hx : l.head? = some x)
      (hp : p x = false) : l.dropWhile p = l := by
    cases l with
    | nil => rfl
    | cons y l =>
      obtain rfl : y = x := Option.some.inj hx
      rw [List.dropWhile_cons, hp]
      rfl
  have hlast : cs.reverse.head? = some z := by rw [List.head?_reverse, hz]
  have htrim : Text.trim cs = cs := by
    rw [Text.trim, Text.trimStart, hkeep _ cs a ha hblank.1, Text.trimEnd,
      hkeep _ cs.reverse z hlast hblank.2, List.reverse_reverse]
  rw [trimQuery, String.toList_ofList, htrim,
    hkeep (· == ';') cs.reverse z hlast (beq_false_of_ne hend), List.reverse_reverse]

namespace TableInfo

/-- The names of the columns. -/
def names (t : TableInfo) : List String := t.columns.map (·.1)

def limitTokens (offset : Nat) : List SqlToken :=
  [.word "LIMIT", .number pageSize, .word "OFFSET", .number offset]

def orderTokens (t : TableInfo) (offset : Nat) : List SqlToken :=
  .word "ORDER" :: .word "BY" :: (SqlToken.ofNames t.names ++ limitTokens offset)

/-- The tokens of the query of a page. -/
def pageTokens (t : TableInfo) (offset : Nat) : List SqlToken :=
  .word "SELECT" :: .symbol "*" :: .word "FROM" :: .word catalogName :: .symbol "." ::
    .quoted t.schema :: .symbol "." :: .quoted t.name :: t.orderTokens offset

/-- The text of the query, clause by clause. -/
theorem toList_pageQuery (t : TableInfo) (offset : Nat) :
    (t.pageQuery offset).toList = "SELECT * FROM ".toList ++ (t.qualified ++ ' ' ::
      ('O' :: "RDER".toList ++ ' ' :: ('B' :: "Y".toList ++ ' ' ::
        (Text.joinWith ", ".toList (t.names.map quoteName) ++ ' ' ::
          ('L' :: "IMIT".toList ++ ' ' :: (Nat.toDigits 10 pageSize ++ ' ' ::
            ('O' :: "FFSET".toList ++ ' ' :: (Nat.toDigits 10 offset ++ [])))))))) := by
  have hdigits (n : Nat) : (toString n).toList = Nat.toDigits 10 n := by
    rw [Nat.toString_eq_ofList_toDigits, String.toList_ofList]
  unfold pageQuery names
  rw [String.toList_ofList, hdigits, hdigits, List.map_map]
  simp [Function.comp_def]

/-- It begins with a letter and ends with a digit, so nothing is cut off. -/
theorem trimQuery_pageQuery (t : TableInfo) (offset : Nat) :
    trimQuery (t.pageQuery offset) = t.pageQuery offset := by
  obtain ⟨z, hz⟩ : ∃ z, (Nat.toDigits 10 offset).getLast? = some z :=
    ⟨_, List.getLast?_eq_some_getLast Nat.toDigits_ne_nil⟩
  have hdigit := Number.bounds_of_mem_toDigits (List.mem_of_getLast? hz)
  have hblank : Text.isBlank z = false := SqlToken.isBlank_of_bounds (by omega) (by omega)
  have hend : z ≠ ';' := by
    rintro rfl
    exact absurd hdigit.2 (by decide)
  have hlast : (t.pageQuery offset).toList.getLast? = some z := by
    unfold pageQuery
    rw [String.toList_ofList, List.getLast?_append, Nat.toString_eq_ofList_toDigits,
      String.toList_ofList, hz]
    rfl
  have hfirst : (t.pageQuery offset).toList.head? = some 'S' := by
    rw [toList_pageQuery]
    rfl
  have htrim := trimQuery_of_ends hfirst hlast ⟨rfl, hblank⟩ hend
  rwa [String.ofList_toList] at htrim

theorem lex_selectAll (r : List Char) :
    SqlToken.lex ("SELECT * FROM ".toList ++ r) =
      (SqlToken.lex r).map fun tokens => .word "SELECT" :: .symbol "*" :: .word "FROM" :: tokens := by
  have hstar (r : List Char) : SqlToken.lex ('*' :: r) = (SqlToken.lex r).map (.symbol "*" :: ·) :=
    SqlToken.lex_symbol rfl
  have htext : "SELECT * FROM ".toList ++ r =
      'S' :: "ELECT".toList ++ ' ' :: '*' :: ' ' :: ('F' :: "ROM".toList ++ ' ' :: r) := rfl
  rw [htext, SqlToken.lex_word_space, hstar, SqlToken.lex_space, SqlToken.lex_word_space,
    Option.map_map, Option.map_map]
  all_goals rfl

theorem lex_qualified (t : TableInfo) {r : List Char} (hr : r.head? ≠ some '"') :
    SqlToken.lex (t.qualified ++ r) = (SqlToken.lex r).map fun tokens =>
      .word catalogName :: .symbol "." :: .quoted t.schema :: .symbol "." :: .quoted t.name ::
        tokens := by
  have hdot (r : List Char) : SqlToken.lex ('.' :: r) = (SqlToken.lex r).map (.symbol "." :: ·) :=
    SqlToken.lex_symbol rfl
  have hend (r : List Char) : ∀ d ∈ ('.' :: r).head?, SqlToken.isWordChar d = false := by
    rintro d ⟨⟩
    rfl
  have htext : t.qualified ++ r =
      's' :: "ource_db".toList ++ '.' :: (quoteName t.schema ++ '.' :: (quoteName t.name ++ r)) := by
    simp [qualified, catalogName]
  rw [htext, SqlToken.lex_word rfl (List.all_eq_true.mp rfl) (hend _), hdot,
    SqlToken.lex_quoteName t.schema (by simp), hdot, SqlToken.lex_quoteName t.name hr,
    Option.map_map, Option.map_map, Option.map_map, Option.map_map]
  rfl

theorem lex_pageQuery (t : TableInfo) (offset : Nat) :
    SqlToken.lex (t.pageQuery offset).toList = some (t.pageTokens offset) := by
  have hnone : ∀ d ∈ ([] : List Char).head?, isDigit d = false := fun d hd => nomatch hd
  have hspace (r : List Char) : ∀ d ∈ (' ' :: r).head?, isDigit d = false := by
    rintro d ⟨⟩
    rfl
  rw [toList_pageQuery, lex_selectAll, lex_qualified t (by simp), SqlToken.lex_space,
    SqlToken.lex_word_space, SqlToken.lex_word_space, SqlToken.lex_names t.names (by simp),
    SqlToken.lex_space, SqlToken.lex_word_space, SqlToken.lex_toDigits pageSize (hspace _),
    SqlToken.lex_space, SqlToken.lex_word_space, SqlToken.lex_toDigits offset hnone, SqlToken.lex]
  all_goals rfl

theorem orderTokens_inj {t u : TableInfo} {offset other : Nat} :
    t.orderTokens offset = u.orderTokens other ↔ t.names = u.names ∧ offset = other := by
  constructor
  · intro h
    have hclauses : SqlToken.ofNames t.names ++ limitTokens offset =
        SqlToken.ofNames u.names ++ limitTokens other := by
      simpa only [orderTokens, List.cons.injEq, true_and] using h
    -- Both clauses of limits have four tokens, so the names end at one place.
    obtain ⟨hnames, hlimits⟩ := List.append_inj' hclauses rfl
    refine ⟨SqlToken.ofNames_injective hnames, ?_⟩
    simpa [limitTokens] using hlimits
  · rintro ⟨hnames, rfl⟩
    rw [orderTokens, orderTokens, hnames]

theorem pageTokens_inj {t u : TableInfo} {offset other : Nat} :
    t.pageTokens offset = u.pageTokens other ↔
      t.schema = u.schema ∧ t.name = u.name ∧ t.names = u.names ∧ offset = other := by
  simp only [pageTokens, List.cons.injEq, SqlToken.quoted.injEq, orderTokens_inj, true_and]

theorem pageQuery_inj {t u : TableInfo} {offset other : Nat} :
    t.pageQuery offset = u.pageQuery other ↔
      t.schema = u.schema ∧ t.name = u.name ∧ t.names = u.names ∧ offset = other := by
  rw [← pageTokens_inj]
  constructor
  · intro h
    have hlex : some (t.pageTokens offset) = some (u.pageTokens other) :=
      calc some (t.pageTokens offset) = SqlToken.lex (t.pageQuery offset).toList :=
            (lex_pageQuery t offset).symm
        _ = SqlToken.lex (u.pageQuery other).toList := by rw [h]
        _ = some (u.pageTokens other) := lex_pageQuery u other
    exact Option.some.inj hlex
  · intro h
    obtain ⟨hschema, hname, hnames, rfl⟩ := pageTokens_inj.mp h
    apply String.toList_inj.mp
    rw [toList_pageQuery, toList_pageQuery, qualified, qualified, hschema, hname, hnames]

end TableInfo

namespace Statement

variable {r ts : List SqlToken}

/-! ### Names with separators -/

theorem separated_cons {α : Type} {sep : String} {item : SqlReader α} {fuel : Nat} {x : α}
    {xs : List α} {later : List SqlToken} (hitem : item.run ts = some (x, .symbol sep :: later))
    (hlater : (separated sep item fuel).run later = some (xs, r)) :
    (separated sep item (fuel + 1)).run ts = some (x :: xs, r) := by
  have hsep : (acceptSymbol sep).run (.symbol sep :: later) = some (true, later) := if_pos rfl
  rw [separated, StateT.run_bind, hitem]
  simp only [Option.bind_eq_bind, Option.bind_some, StateT.run_bind, hsep, if_true, hlater]
  rfl

theorem separated_last {α : Type} {sep : String} {item : SqlReader α} {fuel : Nat} {x : α}
    (hitem : item.run ts = some (x, r)) (hr : r.head? ≠ some (.symbol sep)) :
    (separated sep item (fuel + 1)).run ts = some ([x], r) := by
  have hsep : (acceptSymbol sep).run r = some (false, r) := by
    match r with
    | .symbol v :: r => exact if_neg fun hv => hr (by rw [hv]; rfl)
    | [] | .quoted _ :: _ | .literal _ :: _ | .number _ :: _ | .word _ :: _ => rfl
  rw [separated, StateT.run_bind, hitem]
  simp only [Option.bind_eq_bind, Option.bind_some, StateT.run_bind, hsep]
  rfl

theorem separated_ofNames {fuel : Nat} {names : List String} (hne : names ≠ [])
    (hfuel : names.length ≤ fuel) (hr : r.head? ≠ some (.symbol ",")) :
    (separated "," identifier fuel).run (SqlToken.ofNames names ++ r) = some (names, r) := by
  induction names generalizing fuel with
  | nil => exact absurd rfl hne
  | cons n names ih =>
    obtain ⟨fuel, rfl⟩ : ∃ k, fuel = k + 1 :=
      ⟨fuel - 1, (Nat.sub_add_cancel (Nat.le_trans (Nat.succ_pos _) hfuel)).symm⟩
    cases names with
    | nil => exact separated_last rfl hr
    | cons m names => exact separated_cons rfl (ih (by simp) (Nat.le_of_succ_le_succ hfuel))

/-! ### The whole statement -/

/-- What the query of a page says. -/
def ofPage (t : TableInfo) (offset : Nat) : Statement :=
  .ofTable [catalogName, t.schema, t.name]
    { order := t.names, limit := some pageSize, offset }

theorem clauses_orderTokens {t : TableInfo} (ht : t.columns ≠ []) {fuel : Nat}
    (hfuel : t.names.length ≤ fuel) (offset : Nat) :
    (clauses fuel none).run (t.orderTokens offset) =
      some ({ order := t.names, limit := some pageSize, offset }, []) := by
  have hne : t.names ≠ [] := fun h => ht (List.map_eq_nil_iff.mp h)
  have horder := separated_ofNames hne hfuel (r := TableInfo.limitTokens offset) nofun
  have hclauses : (clauses fuel none).run (t.orderTokens offset) =
      ((separated "," identifier fuel).run
        (SqlToken.ofNames t.names ++ TableInfo.limitTokens offset)).bind fun x =>
          (limits { order := x.1 }).run x.2 := rfl
  rw [hclauses, horder]
  rfl

theorem statement_pageTokens {t : TableInfo} (ht : t.columns ≠ []) {fuel : Nat}
    (hfuel : t.names.length ≤ fuel + 3) (offset : Nat) :
    (statement (fuel + 3)).run (t.pageTokens offset) = some (ofPage t offset, []) := by
  have hstatement : (statement (fuel + 3)).run (t.pageTokens offset) =
      ((clauses (fuel + 3) none).run (t.orderTokens offset)).bind fun x =>
        some (.ofTable [catalogName, t.schema, t.name] x.1, x.2) := rfl
  rw [hstatement, clauses_orderTokens ht hfuel]
  rfl

theorem read?_pageQuery {t : TableInfo} (ht : t.columns ≠ []) (offset : Nat) :
    read? (t.pageQuery offset) = some (ofPage t offset) := by
  -- The fuel is the number of tokens, which is more than that of the names.
  have hlong : t.names.length + 2 ≤ (t.pageTokens offset).length := by
    simp only [TableInfo.pageTokens, TableInfo.orderTokens, TableInfo.limitTokens, SqlToken.ofNames,
      List.length_cons, List.length_append, List.length_intersperse, List.length_map, List.length_nil]
    omega
  obtain ⟨fuel, hfuel⟩ : ∃ k, (t.pageTokens offset).length + 1 = k + 3 :=
    ⟨(t.pageTokens offset).length - 2, by omega⟩
  rw [read?, TableInfo.lex_pageQuery]
  simp only [Option.bind_eq_bind, Option.bind_some]
  rw [hfuel, statement_pageTokens ht (by omega) offset]

end Statement

namespace TableInfo

/-- The query of a page names the table in the catalog, all its columns in order, the size of a page and
where the page begins; and it names nothing else, so it tells all of these. -/
theorem pageQuery_names_page (t : TableInfo) (ht : t.columns ≠ []) (offset : Nat) :
    Statement.read? (t.pageQuery offset) =
        some (.ofTable [catalogName, t.schema, t.name] {
          columns := none
          condition := none
          order := t.columns.map (·.1)
          limit := some pageSize
          offset }) ∧
      ∀ (u : TableInfo) (other : Nat), t.pageQuery offset = u.pageQuery other ↔
        t.schema = u.schema ∧ t.name = u.name ∧
          t.columns.map (·.1) = u.columns.map (·.1) ∧ offset = other :=
  ⟨Statement.read?_pageQuery ht offset, fun _ _ => pageQuery_inj⟩

/-- Names made of quotes, and names with what stands between names. -/
def quoteTable : TableInfo where
  schema := "a\".\"b"
  name := "\""
  columns := [("\"\"", "INTEGER"), ("\", \"", "VARCHAR"), ("x LIMIT 1 OFFSET 2", "DATE")]

theorem pageQuery_names_page_quotes :
    quoteTable.columns ≠ [] ∧
      Statement.read? (quoteTable.pageQuery 3000) =
        some (.ofTable ["source_db", "a\".\"b", "\""] {
          order := ["\"\"", "\", \"", "x LIMIT 1 OFFSET 2"], limit := some 1000, offset := 3000 }) ∧
      quoteTable.pageQuery 3000 ≠ { quoteTable with schema := "a", name := "b\".\"" }.pageQuery 3000 := by
  have hcolumns : quoteTable.columns ≠ [] := List.cons_ne_nil _ _
  obtain ⟨hread, hsame⟩ := pageQuery_names_page quoteTable hcolumns 3000
  refine ⟨hcolumns, hread, fun heq => ?_⟩
  have hschema : "a\".\"b" = "a" := ((hsame _ _).mp heq).1
  exact absurd hschema (by decide)

end TableInfo

end Causeway.Relational
