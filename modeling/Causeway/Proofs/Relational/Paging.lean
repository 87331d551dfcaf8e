import Causeway.Proofs.Relational.PageQuery
import Causeway.Proofs.Sprite.Windows
import Causeway.Relational.Connection

/-!
# Tables page by page

Where the engine answers the query of each page with the next rows of one order of a table, the index
of the table ends, and its windows are those of the rows in that order (`ends_of_pagedAs`).
-/

namespace Causeway

variable {α β : Type} {round : α → α ⊕ β}

/-- A loop comes to its last round, and to a result. -/
inductive Ends (round : α → α ⊕ β) : α → β → Prop
  | last {a : α} {b : β} : round a = .inr b → Ends round a b
  | next {a a' : α} {b : β} : round a = .inl a' → Ends round a' b → Ends round a b

theorem Ends.repeatM_eq [Nonempty β] {a : α} {b : β} (h : Ends round a b) :
    repeatM (fun a => some (round a)) a = some b := by
  induction h with
  | last hround =>
    rw [repeatM_eq_of_monadTail, repeatM.body, hround]
    rfl
  | next hround _ ih =>
    rw [repeatM_eq_of_monadTail, repeatM.body, hround]
    exact ih

end Causeway

namespace Causeway.Relational

/-- The sprites of the rows of an answer. -/
def Answer.sprites (a : Answer) (className : String) : List Sprite :=
  (a.rows.map (record a.columns)).map (Connection.rowSprite className)

namespace Connection

variable {c : Connection} {e : Engine} {t : TableInfo} {a : Answer}

/-- The engine answers the query of each page of a table with the next rows of one order of them. -/
def PagedAs (c : Connection) (t : TableInfo) (a : Answer) : Prop :=
  ∀ offset, c.select (t.pageQuery offset) [] = .ok ⟨a.columns, (a.rows.drop offset).take pageSize⟩

theorem query_pageQuery (c : Connection) (t : TableInfo) (offset : Nat) :
    c.query { text := t.pageQuery offset } = (c.select (t.pageQuery offset) []).map (tableOf · 0) := by
  have hlimited : limitedQuery (t.pageQuery offset) 0 = t.pageQuery offset := rfl
  unfold query
  rw [TableInfo.trimQuery_pageQuery, hlimited]
  rfl

/-- One round of the loop. -/
theorem nextPage_eq (h : c.PagedAs t a) (p : Paging) {window : List Sprite}
    (hwindow : ((a.sprites (t.className e)).drop p.offset).take pageSize = window) :
    c.nextPage e t p =
      if window = [] then .inr { windows := p.windows }
      else if window.length < pageSize then .inr { windows := p.windows ++ [window] }
      else .inl { windows := p.windows ++ [window], offset := p.offset + window.length } := by
  let page := tableOf ⟨a.columns, (a.rows.drop p.offset).take pageSize⟩ 0
  have hquery : c.query { text := t.pageQuery p.offset } = .ok page := by
    rw [query_pageQuery, h p.offset]
    rfl
  have hpage : window = page.rows.map (rowSprite (t.className e)) := by
    rw [← hwindow, Answer.sprites, ← List.map_drop, ← List.map_take, ← List.map_drop, ← List.map_take]
    rfl
  rw [nextPage, hquery, hpage]
  simp only [List.map_eq_nil_iff, List.isEmpty_iff, List.length_map]

theorem ends_of_pagedAs (h : c.PagedAs t a) (p : Paging) :
    Ends (c.nextPage e t) p {
      windows := p.windows ++ windowsOf pageSize ((a.sprites (t.className e)).drop p.offset) } := by
  have hsize : 0 < pageSize := by decide
  generalize hleft : (a.sprites (t.className e)).drop p.offset = left
  -- A full page leaves fewer rows, and perhaps none: then the next page is empty and ends the loop
  -- without a window.
  induction hn : left.length using Nat.strongRecOn generalizing p left with
  | _ n ih =>
    subst hn
    have hround := nextPage_eq (e := e) h p rfl
    rw [hleft] at hround
    by_cases hnil : left = []
    · subst hnil
      rw [List.take_nil, if_pos rfl] at hround
      rw [windowsOf_nil hsize, List.append_nil]
      exact .last hround
    · have hpos := List.length_pos_iff.mpr hnil
      have hlength : (left.take pageSize).length = min pageSize left.length := List.length_take
      have hwindow : left.take pageSize ≠ [] := List.length_pos_iff.mp (by omega)
      rw [if_neg hwindow, hlength] at hround
      rw [windowsOf_of_ne_nil hsize hnil]
      by_cases hshort : left.length < pageSize
      · rw [if_pos (by omega)] at hround
        rw [List.drop_of_length_le (by omega), windowsOf_nil hsize]
        exact .last hround
      · have hfull : min pageSize left.length = pageSize := by omega
        rw [hfull, if_neg (Nat.lt_irrefl pageSize)] at hround
        have hrest : (a.sprites (t.className e)).drop (p.offset + pageSize) = left.drop pageSize := by
          rw [← hleft, List.drop_drop]
        have hless : (left.drop pageSize).length < left.length := by
          rw [List.length_drop]
          omega
        have hlater := ih _ hless ⟨p.windows ++ [left.take pageSize], p.offset + pageSize⟩ _ hrest rfl
        rw [List.append_assoc] at hlater
        exact .next hround hlater

/-- Where the index of every table ends, so does that of all tables. -/
theorem exists_scriptOf_of_ends {tables : List TableInfo}
    (h : ∀ t ∈ tables, ∃ last, Ends (c.nextPage e t) {} last) : ∃ s, c.scriptOf e tables = some s := by
  induction tables with
  | nil => exact ⟨_, rfl⟩
  | cons t tables ih =>
    obtain ⟨first, hends⟩ := h t List.mem_cons_self
    obtain ⟨rest, hrest⟩ := ih fun t ht => h t (List.mem_cons_of_mem _ ht)
    have hfirst : c.tableScript e t = some first := hends.repeatM_eq
    rw [scriptOf, hfirst]
    simp only [Option.bind_eq_bind, Option.bind_some]
    cases first.failure with
    | some _ => exact ⟨_, rfl⟩
    | none =>
      rw [hrest]
      exact ⟨_, rfl⟩

theorem scriptOf_of_pagedAs {contents : TableInfo → Answer} {tables : List TableInfo}
    (h : ∀ t ∈ tables, c.PagedAs t (contents t)) :
    c.scriptOf e tables = some {
      windows := tables.flatMap fun t =>
        windowsOf pageSize ((contents t).sprites (t.className e)) } := by
  induction tables with
  | nil => rfl
  | cons t tables ih =>
    have hfirst : c.tableScript e t = some _ :=
      (ends_of_pagedAs (h t List.mem_cons_self) {}).repeatM_eq
    have hrest := ih fun t ht => h t (List.mem_cons_of_mem _ ht)
    rw [scriptOf, hfirst, List.flatMap_cons]
    simp only [Option.bind_eq_bind, Option.bind_some, hrest]
    rfl

end Connection

end Causeway.Relational
