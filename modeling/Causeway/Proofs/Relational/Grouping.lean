import Causeway.Proofs.Relational.TableNames
import Mathlib.Data.List.Chain

/-!
# Columns grouped into tables

Tables group the columns that a database lists: written out one after the other they give the list back,
none is empty, and no two neighbours are one table (`Groups`). There is one such way to group a list
(`Groups.unique`), so it does not matter whether it is found from the last column on or, as the tables
are read, by adding each column to the last table (`foldl_addToLast`). In a list that is sorted by schema
and table, every table is met once (`filter_group_of_sorted`).
-/

namespace Causeway.Relational

namespace ColumnRow

/-- The table that a column is in. -/
def place (r : ColumnRow) : String × String := (r.schema, r.table)

def nameAndType (r : ColumnRow) : String × String := (r.column, r.type)

/-- The columns are sorted by their schemas, and those of one schema by their tables. -/
def SortedBy (le : String → String → Prop) (rows : List ColumnRow) : Prop :=
  rows.Pairwise fun r s => le r.schema s.schema ∧ (r.schema = s.schema → le r.table s.table)

end ColumnRow

namespace TableInfo

/-- The columns of a table as they are listed. -/
def rows (t : TableInfo) : List ColumnRow := t.columns.map fun c => ⟨t.schema, t.name, c.1, c.2⟩

/-- The table of one column. -/
def ofRow (r : ColumnRow) : TableInfo := ⟨r.schema, r.table, [r.nameAndType]⟩

/-- Puts a column behind tables of which the last may be its own. -/
def addToLast (tables : List TableInfo) (r : ColumnRow) : List TableInfo :=
  match tables.getLast? with
  | some last =>
    if last.schema = r.schema ∧ last.name = r.table then
      tables.dropLast ++ [{ last with columns := last.columns ++ [r.nameAndType] }]
    else tables ++ [ofRow r]
  | none => [ofRow r]

/-- Tables that group a list of columns. -/
structure Groups (listed : List ColumnRow) (tables : List TableInfo) : Prop where
  joined : tables.flatMap rows = listed
  filled : ∀ t ∈ tables, t.columns ≠ []
  parted : tables.IsChain fun t u => t.place ≠ u.place

variable {listed : List ColumnRow} {tables : List TableInfo} {t u : TableInfo} {r : ColumnRow}

theorem rows_ofRow (r : ColumnRow) : (ofRow r).rows = [r] := rfl

theorem place_of_mem_rows (hr : r ∈ t.rows) : r.place = t.place := by
  obtain ⟨c, -, rfl⟩ := List.mem_map.mp hr
  rfl

theorem rows_cons (hplace : r.place = t.place) :
    rows { t with columns := r.nameAndType :: t.columns } = r :: t.rows := by
  obtain ⟨schema, name, columns⟩ := t
  obtain ⟨_, _, column, type⟩ := r
  obtain ⟨rfl, rfl⟩ := Prod.mk.inj hplace
  rfl

theorem exists_mem_rows (ht : t.columns ≠ []) : ∃ r, r ∈ t.rows := by
  obtain ⟨c, hc⟩ := List.exists_mem_of_ne_nil _ ht
  exact ⟨_, List.mem_map_of_mem hc⟩

/-! ### Grouping from the last column on -/

theorem Groups.addColumn (h : Groups listed tables) (r : ColumnRow) :
    Groups (r :: listed) (addColumn r tables) := by
  obtain ⟨hjoined, hfilled, hparted⟩ := h
  have hlone : (ofRow r).columns ≠ [] := List.cons_ne_nil _ _
  match tables with
  | [] =>
    refine ⟨?_, List.forall_mem_singleton.mpr hlone, .singleton _⟩
    rw [← hjoined]
    rfl
  | t :: tables =>
    obtain ⟨ht, hlater⟩ := List.forall_mem_cons.mp hfilled
    rw [TableInfo.addColumn]
    split
    · rename_i hplace
      refine ⟨?_, List.forall_mem_cons.mpr ⟨List.cons_ne_nil _ _, hlater⟩, ?_⟩
      · rw [← hjoined, List.flatMap_cons, List.flatMap_cons]
        exact congrArg (· ++ tables.flatMap rows) (rows_cons (Prod.ext hplace.1 hplace.2))
      · -- the first table is longer by a column, and still in its place
        exact List.isChain_cons.mpr (List.isChain_cons.mp hparted)
    · rename_i hplace
      refine ⟨?_, List.forall_mem_cons.mpr ⟨hlone, hfilled⟩, List.isChain_cons_cons.mpr ⟨?_, hparted⟩⟩
      · rw [← hjoined]
        rfl
      · intro heq
        exact hplace (Prod.mk.inj heq)

theorem groups_group (listed : List ColumnRow) : Groups listed (group listed) := by
  induction listed with
  | nil => exact ⟨rfl, fun t ht => absurd ht List.not_mem_nil, .nil⟩
  | cons r listed ih => exact ih.addColumn r

theorem columns_ne_nil_of_mem_group (ht : t ∈ group listed) : t.columns ≠ [] :=
  (groups_group listed).filled t ht

/-- The columns of a table are put together again in front of others. -/
theorem foldr_addColumn_rows (ht : t.columns ≠ []) (hnext : ∀ u ∈ tables.head?, t.place ≠ u.place) :
    t.rows.foldr TableInfo.addColumn tables = t :: tables := by
  obtain ⟨schema, name, columns⟩ := t
  induction columns with
  | nil => exact absurd rfl ht
  | cons c columns ih =>
    change TableInfo.addColumn ⟨schema, name, c.1, c.2⟩
      ((rows ⟨schema, name, columns⟩).foldr TableInfo.addColumn tables) = _
    cases columns with
    | nil =>
      cases tables with
      | nil => rfl
      | cons u tables =>
        have hplace : ¬(schema = u.schema ∧ name = u.name) := fun heq =>
          hnext u rfl (Prod.ext heq.1 heq.2)
        exact if_neg hplace
    | cons d columns =>
      rw [ih (List.cons_ne_nil _ _) hnext]
      exact if_pos ⟨rfl, rfl⟩

/-- There is one way to group columns. -/
theorem Groups.unique (h : Groups listed tables) : group listed = tables := by
  obtain ⟨rfl, hfilled, hparted⟩ := h
  induction tables with
  | nil => rfl
  | cons t tables ih =>
    obtain ⟨ht, hlater⟩ := List.forall_mem_cons.mp hfilled
    obtain ⟨hnext, hrest⟩ := List.isChain_cons.mp hparted
    calc group ((t :: tables).flatMap rows)
        = t.rows.foldr TableInfo.addColumn (group (tables.flatMap rows)) := by
          rw [List.flatMap_cons, group, List.foldr_append, group]
      _ = t.rows.foldr TableInfo.addColumn tables := by rw [ih hlater hrest]
      _ = t :: tables := foldr_addColumn_rows ht hnext

/-! ### Adding to the last table -/

theorem Groups.addToLast (h : Groups listed tables) (r : ColumnRow) :
    Groups (listed ++ [r]) (addToLast tables r) := by
  obtain ⟨rfl, hfilled, hparted⟩ := h
  have hlone : (ofRow r).columns ≠ [] := List.cons_ne_nil _ _
  rcases List.eq_nil_or_concat tables with rfl | ⟨front, last, rfl⟩
  · exact ⟨rfl, List.forall_mem_singleton.mpr hlone, .singleton _⟩
  rw [List.concat_eq_append] at hfilled hparted ⊢
  obtain ⟨hfront, hlast⟩ := List.forall_mem_append.mp hfilled
  rw [TableInfo.addToLast, List.getLast?_concat, List.dropLast_concat]
  dsimp only
  split
  · rename_i hplace
    refine ⟨?_, List.forall_mem_append.mpr ⟨hfront, ?_⟩, ?_⟩
    · simp [rows, hplace.1, hplace.2, ColumnRow.nameAndType]
    · rw [List.forall_mem_singleton]
      exact List.append_ne_nil_of_right_ne_nil _ (List.cons_ne_nil _ _)
    · obtain ⟨hbefore, -, hmeet⟩ := List.isChain_append.mp hparted
      refine hbefore.append (.singleton _) fun t ht u hu => ?_
      obtain rfl := Option.some.inj hu
      exact hmeet t ht last rfl
  · rename_i hplace
    refine ⟨?_, List.forall_mem_append.mpr ⟨hfilled, List.forall_mem_singleton.mpr hlone⟩, ?_⟩
    · rw [List.flatMap_append, List.flatMap_singleton, rows_ofRow]
    · refine hparted.append (.singleton _) ?_
      intro t ht u hu
      rw [List.getLast?_concat] at ht
      obtain rfl : last = t := Option.some.inj ht
      obtain rfl : ofRow r = u := Option.some.inj hu
      intro heq
      exact hplace (Prod.mk.inj heq)

theorem foldl_addToLast (listed : List ColumnRow) :
    listed.foldl addToLast [] = group listed := by
  have hgroups (past : List ColumnRow) (tables : List TableInfo) (h : Groups past tables) :
      Groups (past ++ listed) (listed.foldl TableInfo.addToLast tables) := by
    induction listed generalizing past tables with
    | nil => simpa using h
    | cons r listed ih => simpa using ih _ _ (h.addToLast r)
  exact (hgroups [] [] (groups_group [])).unique.symm

/-! ### Sorted columns -/

/-- Members in the order of a relation, of which neighbours differ, are all different. -/
theorem nodup_of_isChain_of_pairwise {α : Type} {R : α → α → Prop}
    (hanti : ∀ a b, R a b → R b a → a = b) {l : List α} (hparted : l.IsChain (· ≠ ·))
    (hsorted : l.Pairwise R) : l.Nodup := by
  induction l with
  | nil => exact List.nodup_nil
  | cons a l ih =>
    obtain ⟨hnext, hrest⟩ := List.isChain_cons.mp hparted
    obtain ⟨hbefore, hlater⟩ := List.pairwise_cons.mp hsorted
    refine List.nodup_cons.mpr ⟨fun hmem => ?_, ih hrest hlater⟩
    cases l with
    | nil => cases hmem
    | cons b l =>
      have hne : a ≠ b := hnext b rfl
      rcases List.mem_cons.mp hmem with heq | hbehind
      · exact hne heq
      · -- what stands between two equal members is equal to them
        have hab : R a b := hbefore b List.mem_cons_self
        have hba : R b a := (List.pairwise_cons.mp hlater).1 a hbehind
        exact hne (hanti a b hab hba)

variable {le : String → String → Prop}

theorem Groups.nodup_places (h : Groups listed tables) (hanti : ∀ a b, le a b → le b a → a = b)
    (hsorted : ColumnRow.SortedBy le listed) : (tables.map place).Nodup := by
  let R (p q : String × String) : Prop := le p.1 q.1 ∧ (p.1 = q.1 → le p.2 q.2)
  have hantiR : ∀ p q, R p q → R q p → p = q := by
    intro p q hpq hqp
    have hfirst : p.1 = q.1 := hanti _ _ hpq.1 hqp.1
    exact Prod.ext hfirst (hanti _ _ (hpq.2 hfirst) (hqp.2 hfirst.symm))
  refine nodup_of_isChain_of_pairwise hantiR ((List.isChain_map place).mpr h.parted) ?_
  rw [← h.joined, ColumnRow.SortedBy, List.pairwise_flatMap] at hsorted
  refine List.pairwise_map.mpr (hsorted.2.imp_of_mem fun {t u} ht hu hrows => ?_)
  obtain ⟨r, hr⟩ := exists_mem_rows (h.filled t ht)
  obtain ⟨s, hs⟩ := exists_mem_rows (h.filled u hu)
  have hrs : R r.place s.place := hrows r hr s hs
  rwa [place_of_mem_rows hr, place_of_mem_rows hs] at hrs

/-- The columns that are listed for a place are those of the tables in it. -/
theorem filter_flatMap_rows (tables : List TableInfo) (p : String × String) :
    (tables.flatMap rows).filter (fun r => r.place = p) =
      (tables.filter fun t => t.place = p).flatMap rows := by
  induction tables with
  | nil => rfl
  | cons t tables ih =>
    rw [List.flatMap_cons, List.filter_append, ih]
    by_cases hplace : t.place = p
    · have hall : t.rows.filter (fun r => r.place = p) = t.rows :=
        List.filter_eq_self.mpr fun r hr => decide_eq_true ((place_of_mem_rows hr).trans hplace)
      rw [hall, List.filter_cons, if_pos (decide_eq_true hplace), List.flatMap_cons]
    · have hnone : t.rows.filter (fun r => r.place = p) = [] := by
        refine List.filter_eq_nil_iff.mpr fun r hr => ?_
        rw [place_of_mem_rows hr, decide_eq_true_eq]
        exact hplace
      rw [hnone, List.filter_cons, if_neg (by simpa using hplace), List.nil_append]

theorem filter_place_eq (hplaces : (tables.map place).Nodup) (ht : t ∈ tables) :
    tables.filter (fun u => u.place = t.place) = [t] := by
  have hsame : ∀ u ∈ tables, decide (u.place = t.place) = (u == t) := by
    intro u hu
    rw [beq_eq_decide]
    refine decide_eq_decide.mpr ⟨fun hplace => ?_, fun heq => congrArg place heq⟩
    exact List.inj_on_of_nodup_map hplaces hu ht hplace
  rw [List.filter_congr hsame, List.filter_beq,
    List.count_eq_one_of_mem (List.Nodup.of_map place hplaces) ht]
  rfl

theorem nameAndType_rows (t : TableInfo) : t.rows.map ColumnRow.nameAndType = t.columns := by
  rw [rows, List.map_map]
  exact List.map_id _

theorem filter_group_of_sorted (hanti : ∀ a b, le a b → le b a → a = b)
    (hsorted : ColumnRow.SortedBy le listed) (p : String × String) :
    (group listed).filter (fun t => t.place = p) =
      if p ∈ listed.map ColumnRow.place then
        [⟨p.1, p.2, (listed.filter fun r => r.place = p).map ColumnRow.nameAndType⟩]
      else [] := by
  have hgroups := groups_group listed
  have hplaces := hgroups.nodup_places hanti hsorted
  have hlisted : (listed.filter fun r => r.place = p) =
      ((group listed).filter fun t => t.place = p).flatMap rows := by
    conv_lhs => rw [← hgroups.joined]
    exact filter_flatMap_rows _ p
  by_cases hmem : ∃ t ∈ group listed, t.place = p
  · obtain ⟨t, ht, rfl⟩ := hmem
    rw [filter_place_eq hplaces ht, List.flatMap_singleton] at hlisted
    obtain ⟨r, hr⟩ := exists_mem_rows (hgroups.filled t ht)
    have hfound : t.place ∈ listed.map ColumnRow.place := by
      rw [← place_of_mem_rows hr]
      rw [← hlisted] at hr
      exact List.mem_map_of_mem (List.mem_of_mem_filter hr)
    rw [if_pos hfound, filter_place_eq hplaces ht, hlisted, nameAndType_rows]
    rfl
  · have hnone : (group listed).filter (fun t => t.place = p) = [] := by
      refine List.filter_eq_nil_iff.mpr fun t ht hplace => ?_
      exact hmem ⟨t, ht, of_decide_eq_true hplace⟩
    rw [hnone, List.flatMap_nil] at hlisted
    have hmissing : p ∉ listed.map ColumnRow.place := by
      intro hp
      obtain ⟨r, hr, hplace⟩ := List.mem_map.mp hp
      exact List.filter_eq_nil_iff.mp hlisted r hr (decide_eq_true hplace)
    rw [if_neg hmissing, hnone]

/-- Tables give the listed columns back in order, none without columns and no two neighbours the same,
which is what adding column after column to the last table comes to. If the columns are sorted by schema
and table, each of the pairs that are listed is one table with all its columns in order. -/
theorem group_loses_nothing (listed : List ColumnRow) :
    (group listed).flatMap rows = listed ∧
      (∀ t ∈ group listed, t.columns ≠ []) ∧
      (group listed).IsChain (fun t u => (t.schema, t.name) ≠ (u.schema, u.name)) ∧
      listed.foldl addToLast [] = group listed ∧
      ∀ le : String → String → Prop, (∀ a b, le a b → le b a → a = b) →
        ColumnRow.SortedBy le listed →
        ∀ schema name : String,
          (group listed).filter (fun t => (t.schema, t.name) = (schema, name)) =
            if (schema, name) ∈ listed.map ColumnRow.place then
              [⟨schema, name, (listed.filter fun r => (r.schema, r.table) = (schema, name)).map
                ColumnRow.nameAndType⟩]
            else [] := by
  obtain ⟨hjoined, hfilled, hparted⟩ := groups_group listed
  refine ⟨hjoined, hfilled, hparted, foldl_addToLast listed, ?_⟩
  intro le hanti hsorted schema name
  exact filter_group_of_sorted hanti hsorted (schema, name)

/-- One name in two schemas, and one schema whose last table is called like the first of the next. -/
def sharedNames : List ColumnRow := [
  ⟨"main", "people", "id", "INTEGER"⟩, ⟨"main", "people", "name", "VARCHAR"⟩,
  ⟨"stats", "people", "id", "BIGINT"⟩, ⟨"stats", "places", "id", "BIGINT"⟩]

theorem group_loses_nothing_shared :
    (∀ a b : String, a ≤ b → b ≤ a → a = b) ∧ ColumnRow.SortedBy (· ≤ ·) sharedNames ∧
      (group sharedNames).filter (fun t => (t.schema, t.name) = ("stats", "people")) =
        [⟨"stats", "people", [("id", "BIGINT")]⟩] ∧
      (group sharedNames).filter (fun t => (t.schema, t.name) = ("main", "people")) =
        [⟨"main", "people", [("id", "INTEGER"), ("name", "VARCHAR")]⟩] := by
  have hanti : ∀ a b : String, a ≤ b → b ≤ a → a = b := fun _ _ => Std.le_antisymm
  have hsorted : ColumnRow.SortedBy (· ≤ ·) sharedNames := by
    unfold ColumnRow.SortedBy
    decide
  obtain ⟨-, -, -, -, honce⟩ := group_loses_nothing sharedNames
  exact ⟨hanti, hsorted, honce _ hanti hsorted "stats" "people",
    honce _ hanti hsorted "main" "people"⟩

end TableInfo

end Causeway.Relational
