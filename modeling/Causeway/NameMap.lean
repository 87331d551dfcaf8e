/-!
Finite maps keyed by names and kept in name order, which is the order of code points. The entries
are a list in strictly increasing order, so two maps that look up alike are equal (`NameMap.ext`).
-/

namespace Causeway

universe u v

namespace Entries

variable {α : Type u} {β : Type v}

/-- Names strictly increase from left to right. -/
def Ordered (l : List (String × α)) : Prop := l.Pairwise fun a b => a.1 < b.1

def get? (name : String) : List (String × α) → Option α
  | [] => none
  | (n, x) :: r => if name = n then some x else get? name r

/-- Puts an entry in its place; an entry of the same name is replaced. -/
def insert (name : String) (x : α) : List (String × α) → List (String × α)
  | [] => [(name, x)]
  | (n, y) :: r =>
    if name < n then (name, x) :: (n, y) :: r
    else if name = n then (name, x) :: r
    else (n, y) :: insert name x r

def erase (name : String) (l : List (String × α)) : List (String × α) :=
  l.filter fun e => e.1 ≠ name

/-- Inserts the entries from left to right, so the last one of a name stays. -/
def ofList (l : List (String × α)) : List (String × α) :=
  l.foldl (fun m e => insert e.1 e.2 m) []

theorem mem_insert {name : String} {x : α} {l : List (String × α)} {e : String × α}
    (h : e ∈ insert name x l) : e = (name, x) ∨ e ∈ l := by
  induction l with
  | nil => simpa [insert] using h
  | cons a r ih =>
    obtain ⟨n, y⟩ := a
    simp only [insert] at h
    split at h
    · simpa using h
    · split at h
      · rcases List.mem_cons.1 h with h | h
        · exact .inl h
        · exact .inr (List.mem_cons_of_mem _ h)
      · rcases List.mem_cons.1 h with h | h
        · exact .inr (h ▸ List.mem_cons_self)
        · exact (ih h).imp_right (List.mem_cons_of_mem _)

theorem name_lt_of_not {a b : String} (h : ¬a < b) (h' : a ≠ b) : b < a := by
  have h1 : b ≤ a := Std.not_lt.1 h
  exact Std.lt_of_le_of_ne h1 (Ne.symm h')

theorem ordered_nil : Ordered ([] : List (String × α)) := List.Pairwise.nil

theorem ordered_insert {l : List (String × α)} (h : Ordered l) (name : String) (x : α) :
    Ordered (insert name x l) := by
  induction l with
  | nil => exact List.pairwise_singleton _ _
  | cons a r ih =>
    obtain ⟨n, y⟩ := a
    obtain ⟨hn, hr⟩ := List.pairwise_cons.1 h
    simp only [insert]
    split
    · rename_i hlt
      refine List.pairwise_cons.2 ⟨fun e he => ?_, h⟩
      rcases List.mem_cons.1 he with he | he
      · exact he ▸ hlt
      · exact String.lt_trans hlt (hn e he)
    · split
      · rename_i heq
        exact List.pairwise_cons.2 ⟨fun e he => heq ▸ hn e he, hr⟩
      · rename_i hnlt hne
        refine List.pairwise_cons.2 ⟨fun e he => ?_, ih hr⟩
        rcases mem_insert he with he | he
        · exact he ▸ name_lt_of_not hnlt hne
        · exact hn e he

theorem ordered_filter {l : List (String × α)} (h : Ordered l) (p : String × α → Bool) :
    Ordered (l.filter p) := List.Pairwise.filter p h

theorem ordered_erase {l : List (String × α)} (h : Ordered l) (name : String) :
    Ordered (erase name l) := ordered_filter h _

theorem ordered_ofList_go {l : List (String × α)} {m : List (String × α)} (h : Ordered m) :
    Ordered (l.foldl (fun m e => insert e.1 e.2 m) m) := by
  induction l generalizing m with
  | nil => exact h
  | cons e r ih => exact ih (ordered_insert h _ _)

theorem ordered_ofList (l : List (String × α)) : Ordered (ofList l) :=
  ordered_ofList_go ordered_nil

theorem ordered_map {l : List (String × α)} (h : Ordered l) (f : String → α → β) :
    Ordered (l.map fun e => (e.1, f e.1 e.2)) :=
  List.pairwise_map.2 h

theorem map_insert (f : α → β) (name : String) (x : α) (l : List (String × α)) :
    (insert name x l).map (fun e => (e.1, f e.2)) =
      insert name (f x) (l.map fun e => (e.1, f e.2)) := by
  induction l with
  | nil => rfl
  | cons a r ih =>
    obtain ⟨n, y⟩ := a
    simp only [insert, List.map_cons]
    split
    · rfl
    · split
      · rfl
      · rw [List.map_cons, ih]

theorem map_ofList (f : α → β) (l : List (String × α)) :
    (ofList l).map (fun e => (e.1, f e.2)) = ofList (l.map fun e => (e.1, f e.2)) := by
  have hgo : ∀ m : List (String × α),
      (l.foldl (fun m e => insert e.1 e.2 m) m).map (fun e => (e.1, f e.2)) =
        (l.map fun e => (e.1, f e.2)).foldl (fun m e => insert e.1 e.2 m)
          (m.map fun e => (e.1, f e.2)) := by
    induction l with
    | nil => exact fun m => rfl
    | cons e r ih =>
      intro m
      rw [List.foldl_cons, ih, map_insert]
      rfl
  exact hgo []

theorem get?_insert_self (name : String) (x : α) (l : List (String × α)) :
    get? name (insert name x l) = some x := by
  induction l with
  | nil => simp [insert, get?]
  | cons a r ih =>
    obtain ⟨n, y⟩ := a
    simp only [insert]
    split
    · simp [get?]
    · split
      · simp [get?]
      · rename_i hne
        simp [get?, hne, ih]

theorem get?_insert_of_ne {name other : String} (h : other ≠ name) (x : α)
    (l : List (String × α)) : get? other (insert name x l) = get? other l := by
  induction l with
  | nil => simp [insert, get?, h]
  | cons a r ih =>
    obtain ⟨n, y⟩ := a
    simp only [insert]
    split
    · simp [get?, h]
    · split
      · rename_i heq
        simp [get?, h, ← heq]
      · simp [get?, ih]

theorem get?_eq_none_of_lt {name : String} {l : List (String × α)}
    (h : ∀ e ∈ l, name < e.1) : get? name l = none := by
  induction l with
  | nil => rfl
  | cons a r ih =>
    obtain ⟨n, y⟩ := a
    have hn : name < n := h (n, y) List.mem_cons_self
    have hne : name ≠ n := fun he => String.lt_irrefl n (he ▸ hn)
    simp only [get?, hne, if_false]
    exact ih fun e he => h e (List.mem_cons_of_mem _ he)

theorem get?_filter (p : String → Bool) (name : String) (l : List (String × α)) :
    get? name (l.filter fun e => p e.1) = if p name then get? name l else none := by
  induction l with
  | nil => simp [get?]
  | cons a r ih =>
    obtain ⟨n, y⟩ := a
    by_cases hn : p n = true
    · rw [List.filter_cons, if_pos hn]
      by_cases heq : name = n
      · subst heq
        simp [get?, hn]
      · simpa [get?, heq] using ih
    · rw [List.filter_cons, if_neg hn, ih]
      by_cases heq : name = n
      · subst heq
        simp [hn]
      · simp [get?, heq]

theorem get?_map (f : String → α → β) (name : String) (l : List (String × α)) :
    get? name (l.map fun e => (e.1, f e.1 e.2)) = (get? name l).map (f name) := by
  induction l with
  | nil => rfl
  | cons a r ih =>
    obtain ⟨n, y⟩ := a
    by_cases heq : name = n
    · simp [get?, heq]
    · simpa [get?, heq] using ih

theorem get?_erase (name other : String) (l : List (String × α)) :
    get? other (erase name l) = if other = name then none else get? other l := by
  have hfilter := get?_filter (fun n => decide (n ≠ name)) other l
  by_cases heq : other = name <;> simpa [erase, heq] using hfilter

theorem get?_of_mem {l : List (String × α)} {e : String × α} (h : Ordered l) (he : e ∈ l) :
    get? e.1 l = some e.2 := by
  induction l with
  | nil => exact absurd he List.not_mem_nil
  | cons a r ih =>
    obtain ⟨n, y⟩ := a
    obtain ⟨hn, hr⟩ := List.pairwise_cons.1 h
    rcases List.mem_cons.1 he with rfl | he
    · simp [get?]
    · have hlt : n < e.1 := hn e he
      have hne : e.1 ≠ n := fun heq => String.lt_irrefl n (heq ▸ hlt)
      rw [get?, if_neg hne, ih hr he]

theorem mem_of_get? {name : String} {x : α} {l : List (String × α)} (h : get? name l = some x) :
    (name, x) ∈ l := by
  induction l with
  | nil => cases h
  | cons a r ih =>
    obtain ⟨n, y⟩ := a
    by_cases heq : name = n
    · rw [get?, if_pos heq] at h
      rw [heq, ← Option.some.inj h]
      exact List.mem_cons_self
    · rw [get?, if_neg heq] at h
      exact List.mem_cons_of_mem _ (ih h)

theorem insert_of_forall_lt {name : String} {l : List (String × α)} (h : ∀ e ∈ l, e.1 < name)
    (x : α) : insert name x l = l ++ [(name, x)] := by
  induction l with
  | nil => rfl
  | cons a r ih =>
    obtain ⟨n, y⟩ := a
    have hlt : n < name := h (n, y) List.mem_cons_self
    have hnot : ¬name < n := String.lt_asymm hlt
    have hne : name ≠ n := fun heq => String.lt_irrefl n (heq ▸ hlt)
    rw [insert, if_neg hnot, if_neg hne, ih fun e he => h e (List.mem_cons_of_mem _ he)]
    rfl

/-- Entries in order stay as they are. -/
theorem ofList_of_ordered {l : List (String × α)} (h : Ordered l) : ofList l = l := by
  have hfold : ∀ m : List (String × α), Ordered (m ++ l) →
      l.foldl (fun m e => insert e.1 e.2 m) m = m ++ l := by
    clear h
    induction l with
    | nil => exact fun m _ => (List.append_nil m).symm
    | cons a r ih =>
      intro m hm
      have hlast : ∀ e ∈ m, e.1 < a.1 := by
        intro e he
        exact (List.pairwise_append.1 hm).2.2 e he a List.mem_cons_self
      have hassoc : m ++ a :: r = (m ++ [a]) ++ r := by simp
      rw [List.foldl_cons, insert_of_forall_lt hlast, hassoc]
      rw [hassoc] at hm
      exact ih (m ++ [a]) hm
  exact hfold [] h

theorem get?_isSome_iff {name : String} {l : List (String × α)} :
    (get? name l).isSome = true ↔ name ∈ l.map (·.1) := by
  induction l with
  | nil => simp [get?]
  | cons a r ih =>
    obtain ⟨n, x⟩ := a
    by_cases h : name = n
    · simp [get?, h]
    · simp [get?, h, ih]

/-- Ordered entries are determined by what they look up. -/
theorem eq_of_get?_eq {l m : List (String × α)} (hl : Ordered l) (hm : Ordered m)
    (h : ∀ name, get? name l = get? name m) : l = m := by
  induction l generalizing m with
  | nil =>
    cases m with
    | nil => rfl
    | cons b s => simpa [get?] using h b.1
  | cons a r ih =>
    obtain ⟨n, x⟩ := a
    cases m with
    | nil => simpa [get?] using h n
    | cons b s =>
      obtain ⟨k, y⟩ := b
      obtain ⟨hn, hr⟩ := List.pairwise_cons.1 hl
      obtain ⟨hk, hs⟩ := List.pairwise_cons.1 hm
      have hnk : n = k := by
        by_cases hlt : n < k
        · have hnone : get? n ((k, y) :: s) = none := get?_eq_none_of_lt fun e he => by
            rcases List.mem_cons.1 he with he | he
            · exact he ▸ hlt
            · exact String.lt_trans hlt (hk e he)
          have := h n
          rw [hnone] at this
          simp [get?] at this
        · by_cases heq : n = k
          · exact heq
          · have hgt := name_lt_of_not hlt heq
            have hnone : get? k ((n, x) :: r) = none := get?_eq_none_of_lt fun e he => by
              rcases List.mem_cons.1 he with he | he
              · exact he ▸ hgt
              · exact String.lt_trans hgt (hn e he)
            have := h k
            rw [hnone] at this
            simp [get?] at this
      subst hnk
      have hxy : x = y := by simpa [get?] using h n
      subst hxy
      refine congrArg _ (ih hr hs fun name => ?_)
      by_cases hne : name = n
      · subst hne
        rw [get?_eq_none_of_lt hn, get?_eq_none_of_lt hk]
      · simpa [get?, hne] using h name

end Entries

/-- A finite map from names, in name order. -/
structure NameMap (α : Type u) where
  entries : List (String × α)
  ordered : Entries.Ordered entries

namespace NameMap

variable {α : Type u} {β : Type v}

def empty : NameMap α := ⟨[], Entries.ordered_nil⟩

instance : Inhabited (NameMap α) := ⟨empty⟩

def get? (m : NameMap α) (name : String) : Option α := Entries.get? name m.entries

def contains (m : NameMap α) (name : String) : Bool := (m.get? name).isSome

def insert (m : NameMap α) (name : String) (x : α) : NameMap α :=
  ⟨Entries.insert name x m.entries, Entries.ordered_insert m.ordered name x⟩

def erase (m : NameMap α) (name : String) : NameMap α :=
  ⟨Entries.erase name m.entries, Entries.ordered_erase m.ordered name⟩

/-- Replaces the entry of a name by what `f` makes of the present one. -/
def update (m : NameMap α) (name : String) (f : Option α → α) : NameMap α :=
  m.insert name (f (m.get? name))

/-- Inserts only where the name is free. -/
def insertNew (m : NameMap α) (name : String) (x : α) : NameMap α :=
  if m.contains name then m else m.insert name x

/-- The last entry of a name stays. -/
def ofList (l : List (String × α)) : NameMap α := ⟨Entries.ofList l, Entries.ordered_ofList l⟩

def filter (m : NameMap α) (p : String × α → Bool) : NameMap α :=
  ⟨m.entries.filter p, Entries.ordered_filter m.ordered p⟩

def map (m : NameMap α) (f : String → α → β) : NameMap β :=
  ⟨m.entries.map fun e => (e.1, f e.1 e.2), Entries.ordered_map m.ordered f⟩

def names (m : NameMap α) : List String := m.entries.map (·.1)

def values (m : NameMap α) : List α := m.entries.map (·.2)

def isEmpty (m : NameMap α) : Bool := m.entries.isEmpty

@[simp]
theorem get?_empty (name : String) : (empty : NameMap α).get? name = none := rfl

@[simp]
theorem contains_empty (name : String) : (empty : NameMap α).contains name = false := rfl

theorem get?_insert (m : NameMap α) (name other : String) (x : α) :
    (m.insert name x).get? other = if other = name then some x else m.get? other := by
  by_cases h : other = name
  · subst h
    simpa [get?, insert] using Entries.get?_insert_self other x m.entries
  · simpa [get?, insert, h] using Entries.get?_insert_of_ne h x m.entries

theorem contains_insert (m : NameMap α) (name other : String) (x : α) :
    (m.insert name x).contains other = (other == name || m.contains other) := by
  unfold contains
  rw [get?_insert]
  by_cases h : other = name <;> simp [h]

/-- The first entry of a name stays. -/
theorem get?_insertNew (m : NameMap α) (name other : String) (x : α) :
    (m.insertNew name x).get? other = (m.get? other).or (if other = name then some x else none) := by
  unfold insertNew contains
  by_cases heq : other = name
  · subst heq
    cases hm : m.get? other with
    | none => simp [get?_insert]
    | some y => simp [hm]
  · rw [if_neg heq, Option.or_none]
    split
    · rfl
    · rw [get?_insert, if_neg heq]

theorem contains_iff_mem_names (m : NameMap α) (name : String) :
    m.contains name = true ↔ name ∈ m.names :=
  Entries.get?_isSome_iff

theorem pairwise_names (m : NameMap α) : m.names.Pairwise (· < ·) :=
  List.pairwise_map.2 m.ordered

theorem nodup_names (m : NameMap α) : m.names.Nodup := by
  refine m.pairwise_names.imp ?_
  rintro a b hlt rfl
  exact String.lt_irrefl a hlt

theorem get?_erase (m : NameMap α) (name other : String) :
    (m.erase name).get? other = if other = name then none else m.get? other :=
  Entries.get?_erase name other m.entries

theorem get?_filter (m : NameMap α) (p : String → Bool) (name : String) :
    (m.filter fun e => p e.1).get? name = if p name then m.get? name else none :=
  Entries.get?_filter p name m.entries

theorem get?_map (m : NameMap α) (f : String → α → β) (name : String) :
    (m.map f).get? name = (m.get? name).map (f name) :=
  Entries.get?_map f name m.entries

theorem contains_map (m : NameMap α) (f : String → α → β) (name : String) :
    (m.map f).contains name = m.contains name := by
  rw [contains, get?_map, Option.isSome_map, contains]

@[ext] theorem ext {m n : NameMap α} (h : ∀ name, m.get? name = n.get? name) : m = n := by
  obtain ⟨l, hl⟩ := m
  obtain ⟨k, hk⟩ := n
  have : l = k := Entries.eq_of_get?_eq hl hk h
  subst this
  rfl

theorem ofList_eq_foldl (l : List (String × α)) :
    ofList l = l.foldl (fun m e => m.insert e.1 e.2) empty := by
  have hentries : ∀ m : NameMap α,
      (l.foldl (fun m e => m.insert e.1 e.2) m).entries =
        l.foldl (fun m e => Entries.insert e.1 e.2 m) m.entries := by
    induction l with
    | nil => exact fun m => rfl
    | cons e l ih => exact fun m => ih (m.insert e.1 e.2)
  refine ext fun name => ?_
  rw [get?, get?, hentries]
  rfl

/-- Of entries made from the items of a list, the last one of a name stays. -/
theorem get?_ofList_map {γ : Type u} (key : γ → String) (f : γ → α) (l : List γ) (name : String) :
    (ofList (l.map fun x => (key x, f x))).get? name = (l.findRev? (key · == name)).map f := by
  suffices h : ∀ m : NameMap α,
      (l.foldl (fun m x => m.insert (key x) (f x)) m).get? name =
        ((l.findRev? (key · == name)).map f).or (m.get? name) by
    rw [ofList_eq_foldl, List.foldl_map, h, get?_empty, Option.or_none]
  induction l with
  | nil => exact fun m => rfl
  | cons x l ih =>
    intro m
    rw [List.foldl_cons, ih, get?_insert, List.findRev?]
    cases l.findRev? (key · == name) with
    | some y => rfl
    | none =>
      by_cases hname : name = key x
      · simp [hname]
      · simp [hname, Ne.symm hname]

end NameMap

/-- A finite set of names, in name order. -/
abbrev NameSet := NameMap Unit

namespace NameSet

def ofList (l : List String) : NameSet := NameMap.ofList (l.map fun n => (n, ()))

def add (s : NameSet) (name : String) : NameSet := NameMap.insert s name ()

theorem contains_add (s : NameSet) (name other : String) :
    NameMap.contains (s.add name) other = (other == name || NameMap.contains s other) :=
  NameMap.contains_insert s name other ()

theorem contains_ofList (l : List String) (name : String) :
    NameMap.contains (ofList l) name = true ↔ name ∈ l := by
  suffices h : ∀ s : NameSet,
      NameMap.contains (l.foldl add s) name = true ↔ NameMap.contains s name = true ∨ name ∈ l by
    have hfold : ofList l = l.foldl add NameMap.empty := by
      unfold ofList
      rw [NameMap.ofList_eq_foldl, List.foldl_map]
      rfl
    rw [hfold, h]
    simp
  induction l with
  | nil => simp
  | cons a l ih =>
    intro s
    rw [List.foldl_cons, ih, contains_add]
    simp [or_assoc, or_comm (a := name = a)]

theorem mem_names_ofList (l : List String) (name : String) :
    name ∈ (ofList l).names ↔ name ∈ l := by
  rw [← NameMap.contains_iff_mem_names, contains_ofList]

end NameSet

end Causeway
