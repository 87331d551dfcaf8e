import Causeway.Graph.Json
import Causeway.Proofs.Value.Written

/-!
# Lists, maps and records that documents give back

What is read from a written list or map is read part by part, one level further down
(`listOf_written_iff`, `mapOf_written_iff`). A record gives for each declared name the one member of that
name, wherever it is written (`fields_written`).
-/

namespace Causeway

namespace Entries

variable {α : Type} {name : String} {l m : List (String × α)}

theorem get?_append (l m : List (String × α)) :
    get? name (l ++ m) = (get? name l).or (get? name m) := by
  induction l with
  | nil => rfl
  | cons e l ih =>
    obtain ⟨n, x⟩ := e
    by_cases hname : name = n
    · simp [get?, hname]
    · simpa [get?, hname] using ih

theorem get?_foldl_insert (h : (l.map (·.1)).Nodup) (kept : List (String × α)) :
    get? name (l.foldl (fun m e => insert e.1 e.2 m) kept) = (get? name l).or (get? name kept) := by
  induction l generalizing kept with
  | nil => rfl
  | cons e l ih =>
    obtain ⟨n, x⟩ := e
    obtain ⟨hnew, hrest⟩ := List.nodup_cons.mp h
    rw [List.foldl_cons, ih hrest]
    by_cases hname : name = n
    · subst hname
      have hnone : get? name l = none := by
        rw [← Option.not_isSome_iff_eq_none, get?_isSome_iff]
        exact hnew
      rw [hnone, get?_insert_self]
      simp [get?]
    · rw [get?_insert_of_ne hname]
      simp [get?, hname]

/-- Where names differ, putting entries in order changes nothing that is looked up. -/
theorem get?_ofList (h : (l.map (·.1)).Nodup) (name : String) :
    get? name (ofList l) = get? name l := by
  rw [ofList, get?_foldl_insert h]
  exact Option.or_none

/-- In ordered entries there is one of a name at most. -/
theorem filter_eq_get? (h : Ordered l) (name : String) :
    l.filter (·.1 == name) = ((get? name l).map (name, ·)).toList := by
  induction l with
  | nil => rfl
  | cons e l ih =>
    obtain ⟨n, x⟩ := e
    obtain ⟨hn, hl⟩ := List.pairwise_cons.mp h
    by_cases hname : n = name
    · subst hname
      have hnone : get? n l = none := get?_eq_none_of_lt hn
      rw [List.filter_cons_of_pos (by simp), ih hl, hnone]
      simp [get?]
    · rw [List.filter_cons_of_neg (by simpa using hname), ih hl, get?, if_neg (Ne.symm hname)]

end Entries

theorem NameMap.ofList_entries {α : Type} (m : NameMap α) : NameMap.ofList m.entries = m := by
  refine NameMap.ext fun name => ?_
  change Entries.get? name (Entries.ofList m.entries) = _
  rw [Entries.ofList_of_ordered m.ordered]
  rfl

theorem mapM_eq_some_map {α β : Type} {read : α → Option β} {g : α → β} {l : List α}
    (h : ∀ x ∈ l, read x = some (g x)) : l.mapM read = some (l.map g) := by
  induction l with
  | nil => rfl
  | cons x l ih =>
    obtain ⟨hx, hl⟩ := List.forall_mem_cons.mp h
    rw [List.mapM_cons, hx, ih hl]
    rfl

/-- What reading keeps of each part stays in order. -/
theorem map_of_mapM {α β γ : Type} {read : α → Option β} {g : α → γ} {k : β → γ} {l : List α}
    {m : List β} (hread : ∀ x ∈ l, ∀ y, read x = some y → k y = g x) (h : l.mapM read = some m) :
    m.map k = l.map g := by
  induction l generalizing m with
  | nil =>
    obtain rfl := Option.some.inj h
    rfl
  | cons x l ih =>
    obtain ⟨hx, hl⟩ := List.forall_mem_cons.mp hread
    rw [List.mapM_cons] at h
    obtain ⟨y, hy, h⟩ := Option.bind_eq_some_iff.mp h
    obtain ⟨rest, hrest, h⟩ := Option.bind_eq_some_iff.mp h
    obtain rfl := Option.some.inj h
    rw [List.map_cons, List.map_cons, hx y hy, ih hl hrest]

theorem mem_of_mapM {α β : Type} {read : α → Option β} {l : List α} {m : List β}
    (h : l.mapM read = some m) : ∀ y ∈ m, ∃ x ∈ l, read x = some y := by
  induction l generalizing m with
  | nil =>
    obtain rfl := Option.some.inj h
    exact fun y hy => absurd hy List.not_mem_nil
  | cons x l ih =>
    rw [List.mapM_cons] at h
    obtain ⟨y, hy, h⟩ := Option.bind_eq_some_iff.mp h
    obtain ⟨rest, hrest, h⟩ := Option.bind_eq_some_iff.mp h
    obtain rfl := Option.some.inj h
    refine List.forall_mem_cons.mpr ⟨⟨x, List.mem_cons_self, hy⟩, fun z hz => ?_⟩
    obtain ⟨w, hw, hread⟩ := ih hrest z hz
    exact ⟨w, List.mem_cons_of_mem x hw, hread⟩

theorem Reading.named_of_ordered {ν : Type} {members : List (String × ν)}
    (h : Entries.Ordered members) (names : List String) :
    named names members = some (names.map fun name => Entries.get? name members) := by
  refine mapM_eq_some_map fun name _ => ?_
  rw [Entries.filter_eq_get? h]
  cases Entries.get? name members <;> rfl

/-- Reading each part of a list gives the list back exactly if each part comes back. -/
theorem mapM_eq_some_self_iff {α : Type} {read : α → Option α} {l : List α} :
    l.mapM read = some l ↔ ∀ x ∈ l, read x = some x := by
  induction l with
  | nil => simp
  | cons x l ih =>
    rw [List.mapM_cons, List.forall_mem_cons, ← ih]
    cases read x with
    | none => simp
    | some y => cases l.mapM read <;> simp

namespace Json

section Leaves

variable {p : Json → Prop}

theorem mem_itemLeaves {items : List Json} {y : Json} :
    y ∈ itemLeaves items ↔ ∃ j ∈ items, y ∈ j.leaves := by
  induction items with
  | nil => simp [itemLeaves]
  | cons j items ih => simp [itemLeaves, ih]

theorem forall_leaves_array {items : List Json} (h : ∀ j ∈ items, ∀ x ∈ j.leaves, p x) :
    ∀ x ∈ (Json.array items).leaves, p x := by
  intro x hx
  obtain ⟨j, hj, hx⟩ := mem_itemLeaves.mp hx
  exact h j hj x hx

theorem forall_leaves_obj {members : List (String × Json)}
    (h : ∀ e ∈ members, ∀ x ∈ e.2.leaves, p x) : ∀ x ∈ (obj members).leaves, p x := by
  intro x hx
  obtain ⟨e, he, hx⟩ := mem_memberLeaves.mp hx
  exact h e (mem_of_mem_ofList he) x hx

theorem forall_leaves_toJson {α : Type} {m : NameMap α} {f : α → Json}
    (h : ∀ e ∈ m.entries, ∀ x ∈ (f e.2).leaves, p x) : ∀ x ∈ (m.toJson f).leaves, p x := by
  intro x hx
  obtain ⟨_, hmapped, hx⟩ := mem_memberLeaves.mp hx
  obtain ⟨e, he, rfl⟩ := List.mem_map.mp hmapped
  exact h e he x hx

end Leaves

variable {α : Type} {read : Node → Option α} {f : α → Json} {depth : Nat}

theorem text_written (s : String) : Node.text ⟨depth, (Json.string s).written⟩ = some s := rfl

theorem bool_written (b : Bool) : Node.bool ⟨depth, (Json.bool b).written⟩ = some b := rfl

theorem writtenItems_eq_map (items : List Json) : writtenItems items = items.map written := by
  induction items with
  | nil => rfl
  | cons x items ih => rw [writtenItems, ih, List.map_cons]

theorem writtenMembers_eq_map (members : List (String × Json)) :
    writtenMembers members = members.map fun e => (some e.1, e.2.written) := by
  induction members with
  | nil => rfl
  | cons e members ih => rw [writtenMembers, ih, List.map_cons]

theorem members_written (members : List (String × Json)) :
    Node.members ⟨depth + 1, (Json.object members).written⟩ =
      some (members.map fun e => (e.1, ⟨depth, e.2.written⟩)) := by
  have hmembers : Node.members ⟨depth + 1, (Json.object members).written⟩ =
      (writtenMembers members).mapM fun e => e.1.map fun name => (name, Node.mk depth e.2) := rfl
  rw [hmembers, writtenMembers_eq_map, List.mapM_map]
  exact mapM_eq_some_map fun e _ => rfl

/-- The members of a record are looked up one by one. -/
theorem fields_written {members : List (String × Json)} (h : (members.map (·.1)).Nodup)
    (names : List String) :
    reading.fields names ⟨depth + 1, (Json.obj members).written⟩ =
      some (names.map fun name => (Entries.get? name members).map fun x => ⟨depth, x.written⟩) := by
  have hmembers : reading.fields names ⟨depth + 1, (Json.obj members).written⟩ =
      (Node.members ⟨depth + 1, (Json.obj members).written⟩).bind (Reading.named names) := rfl
  have hordered := Entries.ordered_ofList members
  rw [hmembers, obj, members_written, Option.bind_some,
    Reading.named_of_ordered (Entries.ordered_map hordered fun _ x => Node.mk depth x.written)]
  refine congrArg some (List.map_congr_left fun name _ => ?_)
  exact (Entries.get?_map (fun _ x => Node.mk depth x.written) name _).trans
    (congrArg _ (Entries.get?_ofList h name))

theorem listOf_written (l : List α) :
    reading.listOf read ⟨depth + 1, (Json.array (l.map f)).written⟩ =
      l.mapM fun x => read ⟨depth, (f x).written⟩ := by
  have hitems : reading.listOf read ⟨depth + 1, (Json.array (l.map f)).written⟩ =
      ((writtenItems (l.map f)).map fun x => Node.mk depth x).mapM read := rfl
  rw [hitems, writtenItems_eq_map, List.map_map, List.map_map, List.mapM_map]
  rfl

theorem listOf_written_iff (l : List α) :
    reading.listOf read ⟨depth + 1, (Json.array (l.map f)).written⟩ = some l ↔
      ∀ x ∈ l, read ⟨depth, (f x).written⟩ = some x := by
  rw [listOf_written, mapM_eq_some_self_iff]

theorem mapOf_written_iff (m : NameMap α) :
    reading.mapOf read ⟨depth + 1, (m.toJson f).written⟩ = some m ↔
      ∀ e ∈ m.entries, read ⟨depth, (f e.2).written⟩ = some e.2 := by
  have hread : reading.mapOf read ⟨depth + 1, (m.toJson f).written⟩ =
      (m.entries.mapM fun e => (read ⟨depth, (f e.2).written⟩).map (e.1, ·)).map NameMap.ofList := by
    have hmembers : reading.members ⟨depth + 1, (m.toJson f).written⟩ =
        some ((m.map fun _ x => f x).entries.map fun e => (e.1, ⟨depth, e.2.written⟩)) :=
      members_written _
    rw [Reading.mapOf, hmembers, Option.bind_eq_bind, Option.bind_some, NameMap.map, List.map_map,
      List.mapM_map]
    exact (Option.map_eq_bind ..).symm
  have hentry : ∀ e : String × α, (read ⟨depth, (f e.2).written⟩).map (e.1, ·) = some e ↔
      read ⟨depth, (f e.2).written⟩ = some e.2 := by
    rintro ⟨n, x⟩
    cases read ⟨depth, (f x).written⟩ <;> simp
  simp only [← hentry]
  rw [hread, ← mapM_eq_some_self_iff]
  constructor
  · intro h
    obtain ⟨entries, hentries, hm⟩ := Option.map_eq_some_iff.mp h
    have hnames : entries.map (·.1) = m.names := by
      refine map_of_mapM (fun e _ x hx => ?_) hentries
      obtain ⟨y, -, rfl⟩ := Option.map_eq_some_iff.mp hx
      rfl
    have hordered : Entries.Ordered entries := by
      rw [Entries.Ordered, ← List.pairwise_map, hnames]
      exact m.pairwise_names
    rw [hentries, ← Entries.ofList_of_ordered hordered]
    exact congrArg (some ∘ NameMap.entries) hm
  · intro h
    rw [h, Option.map_some, NameMap.ofList_entries]

end Json

end Causeway
