import Causeway.Proofs.Json.Numerals
import Causeway.Proofs.Value.Conversion

/-!
# JSON texts are read as what was written

Reading a compact text goes through it token by token: strings lose their escapes (`takeString_quoted`),
numbers are taken up to what follows them, items and members up to the bracket that closes them. What comes
out (`Json.written`) is the value again, with the numbers as they are spelled.
-/

namespace Causeway.Json

open Number

/-! ### Strings -/

section Strings

variable {s r : List Char} {us : List Unit16}

theorem hexWord_hexDigit : ∀ n < 32, hexWord '0' '0' (hexDigit (n / 16)) (hexDigit (n % 16)) = some n := by
  decide

theorem takeUnits_plain {c : Char} (hquote : c ≠ '"') (hslash : c ≠ '\\') (hcontrol : ¬c.toNat < 32)
    (r : List Char) : takeUnits (c :: r) = (takeUnits r).map fun x => (.char c :: x.1, x.2) := by
  rw [takeUnits.eq_def]
  split <;> rename_i heq
  · cases heq
  · exact absurd (List.cons.inj heq).1 hquote
  · exact absurd (List.cons.inj heq).1 hslash
  · exact absurd (List.cons.inj heq).1 hslash
  · obtain ⟨rfl, rfl⟩ := List.cons.inj heq
    rw [if_neg (not_or.mpr ⟨hslash, hcontrol⟩)]
    cases takeUnits r <;> rfl

theorem takeUnits_simple {c d : Char} (h : simpleEscape c = some d) (r : List Char) :
    takeUnits ('\\' :: c :: r) = (takeUnits r).map fun x => (.char d :: x.1, x.2) := by
  rw [takeUnits.eq_def]
  split <;> rename_i heq
  · cases heq
  · exact absurd (List.cons.inj heq).1 (by decide)
  · obtain ⟨rfl, -⟩ := List.cons.inj (List.cons.inj heq).2
    cases h
  · obtain ⟨rfl, rfl⟩ := List.cons.inj (List.cons.inj heq).2
    rw [h]
    cases takeUnits r <;> rfl
  · rename_i hno
    obtain ⟨rfl, rfl⟩ := List.cons.inj heq
    exact (hno c r rfl rfl).elim

theorem takeUnits_code (n : Nat) (hn : n < 32) (r : List Char) :
    takeUnits ('\\' :: 'u' :: '0' :: '0' :: hexDigit (n / 16) :: hexDigit (n % 16) :: r) =
      (takeUnits r).map fun x => (.unit n :: x.1, x.2) := by
  rw [takeUnits, hexWord_hexDigit n hn]
  cases takeUnits r <;> rfl

/-- What an escaped character is taken as. -/
def unitOf (c : Char) : Unit16 :=
  if c.toNat < 32 ∧ c ∉ ['\x08', '\x0c', '\n', '\r', '\t'] then .unit c.toNat else .char c

/-- A character is escaped by a letter, by its code, or not at all. -/
theorem escape_cases (c : Char) :
    (∃ d, simpleEscape d = some c ∧ escape c = ['\\', d]) ∨
    (c.toNat < 32 ∧ unitOf c = .unit c.toNat ∧
      escape c = ['\\', 'u', '0', '0', hexDigit (c.toNat / 16), hexDigit (c.toNat % 16)]) ∨
    (c ≠ '"' ∧ c ≠ '\\' ∧ ¬c.toNat < 32 ∧ escape c = [c]) := by
  have hback : c.toNat = 8 → c = '\x08' := fun h => Char.toNat_inj.mp h
  have hfeed : c.toNat = 12 → c = '\x0c' := fun h => Char.toNat_inj.mp h
  unfold escape
  split
  · exact .inl ⟨'"', by subst_vars; rfl, rfl⟩
  split
  · exact .inl ⟨'\\', by subst_vars; rfl, rfl⟩
  split
  · exact .inl ⟨'n', by subst_vars; rfl, rfl⟩
  split
  · exact .inl ⟨'r', by subst_vars; rfl, rfl⟩
  split
  · exact .inl ⟨'t', by subst_vars; rfl, rfl⟩
  split
  · exact .inl ⟨'b', congrArg some (hback ‹_›).symm, rfl⟩
  split
  · exact .inl ⟨'f', congrArg some (hfeed ‹_›).symm, rfl⟩
  split
  · rename_i hn hr ht hb hf hcontrol
    refine .inr (.inl ⟨hcontrol, if_pos ⟨hcontrol, ?_⟩, rfl⟩)
    simp only [List.mem_cons, List.not_mem_nil, or_false, not_or]
    refine ⟨?_, ?_, hn, hr, ht⟩
    · rintro rfl
      exact hb rfl
    · rintro rfl
      exact hf rfl
  · rename_i hquote hslash _ _ _ _ _ hcontrol
    exact .inr (.inr ⟨hquote, hslash, hcontrol, rfl⟩)

theorem simpleEscape_cases {c d : Char} (h : simpleEscape d = some c) :
    unitOf c = .char c ∧ 32 ≤ d.toNat := by
  unfold simpleEscape at h
  split at h <;> cases h <;> exact ⟨rfl, by decide⟩

theorem takeUnits_escape (c : Char) (r : List Char) :
    takeUnits (escape c ++ r) = (takeUnits r).map fun x => (unitOf c :: x.1, x.2) := by
  obtain ⟨d, hd, hescape⟩ | ⟨hcontrol, hunit, hescape⟩ | ⟨hquote, hslash, hcontrol, hescape⟩ :=
    escape_cases c <;> rw [hescape]
  · rw [(simpleEscape_cases hd).1]
    exact takeUnits_simple hd r
  · rw [hunit]
    exact takeUnits_code c.toNat hcontrol r
  · have hunit : unitOf c = .char c := if_neg fun h => hcontrol h.1
    rw [hunit]
    exact takeUnits_plain hquote hslash hcontrol r

theorem takeUnits_quoted (s r : List Char) :
    takeUnits (s.flatMap escape ++ '"' :: r) = some (s.map unitOf, r) := by
  induction s with
  | nil => rw [List.flatMap_nil, List.nil_append, takeUnits]; rfl
  | cons c s ih =>
    rw [List.flatMap_cons, List.append_assoc, takeUnits_escape, ih]
    rfl

theorem joinUnits_code {n : Nat} (hn : n < 32) (us : List Unit16) :
    joinUnits (.unit n :: us) = (joinUnits us).map (Char.ofNat n :: ·) := by
  have hhigh : isHigh n = false := Bool.and_eq_false_iff.mpr (.inl (decide_eq_false (by omega)))
  have hlow : isLow n = false := Bool.and_eq_false_iff.mpr (.inl (decide_eq_false (by omega)))
  cases us with
  | nil => simp [joinUnits, hhigh, hlow]
  | cons u us => cases u <;> simp [joinUnits, hhigh, hlow]

theorem joinUnits_unitOf (c : Char) (us : List Unit16) :
    joinUnits (unitOf c :: us) = (joinUnits us).map (c :: ·) := by
  unfold unitOf
  split
  · rename_i h
    rw [joinUnits_code h.1, Char.ofNat_toNat]
  · rfl

theorem joinUnits_map_unitOf (s : List Char) : joinUnits (s.map unitOf) = some s := by
  induction s with
  | nil => rfl
  | cons c s ih =>
    rw [List.map_cons, joinUnits_unitOf, ih]
    rfl

/-- A quoted string is taken up to its closing quote. -/
theorem takeString_quoted (s : String) (r : List Char) :
    takeString (s.toList.flatMap escape ++ '"' :: r) = some (some s, r) := by
  rw [takeString, takeUnits_quoted, Option.map_some]
  dsimp only
  rw [joinUnits_map_unitOf, Option.map_some, String.ofList_toList]

end Strings

/-! ### Values -/

mutual

/-- What the compact text of a value is read as. -/
def written : Json → Written
  | .null => .null
  | .bool b => .bool b
  | .integer i => (Numeral.ofInteger i).written
  | .real d => writtenReal d
  | .string s => .string (some s)
  | .array items => .array (writtenItems items)
  | .object members => .object (writtenMembers members)

def writtenItems : List Json → List Written
  | [] => []
  | x :: r => written x :: writtenItems r

def writtenMembers : List (String × Json) → List (Option String × Written)
  | [] => []
  | (n, x) :: r => (some n, written x) :: writtenMembers r

end

/-- A character at which a value can begin. -/
def BeginsValue (c : Char) : Prop := isSpace c = false ∧ c ≠ ']'

theorem skipSpace_cons {c : Char} (hc : isSpace c = false) (r : List Char) :
    skipSpace (c :: r) = c :: r :=
  List.dropWhile_cons_of_neg (by simp [hc])

theorem endsNumber_cons {c : Char} (hc : c = ',' ∨ c = ']' ∨ c = '\x7d') (r : List Char) :
    EndsNumber (c :: r) := by
  rintro d ⟨⟩
  rcases hc with rfl | rfl | rfl <;> decide

theorem beginsValue_of_isDigit {c : Char} (hc : isDigit c = true ∨ c = '-') : BeginsValue c := by
  constructor
  · rw [Bool.eq_false_iff]
    intro hspace
    simp only [isSpace, Bool.or_eq_true, beq_iff_eq] at hspace
    rcases hspace with ((rfl | rfl) | rfl) | rfl <;> exact absurd hc (by decide)
  · rintro rfl
    exact absurd hc (by decide)

/-- Every text of a value begins where a value can. -/
theorem exists_chars_cons {j : Json} (h : ∀ x ∈ j.leaves, x.IsFinite) :
    ∃ c r, j.chars = c :: r ∧ BeginsValue c := by
  cases j with
  | null => exact ⟨'n', _, rfl, by decide, by decide⟩
  | bool b => cases b <;> exact ⟨_, _, rfl, by decide, by decide⟩
  | integer i =>
    obtain ⟨c, r, hcons, hc⟩ := (Numeral.ofInteger i).exists_chars_cons
    rw [Numeral.chars_ofInteger] at hcons
    exact ⟨c, r, hcons, beginsValue_of_isDigit hc⟩
  | real d =>
    obtain ⟨n, hchars, -⟩ := exists_numeral_real (h _ (List.mem_singleton_self _))
    obtain ⟨c, r, hcons, hc⟩ := n.exists_chars_cons
    rw [hchars] at hcons
    exact ⟨c, r, hcons, beginsValue_of_isDigit hc⟩
  | string s => exact ⟨'"', _, rfl, by decide, by decide⟩
  | array items => exact ⟨'[', _, rfl, by decide, by decide⟩
  | object members => exact ⟨'\x7b', _, rfl, by decide, by decide⟩

namespace Written

variable {fuel : Nat} {r : List Char}

theorem take_number {c : Char} (hc : isDigit c = true ∨ c = '-') (fuel : Nat) (r : List Char) :
    take (fuel + 1) (c :: r) = takeNumber (c :: r) := by
  rw [take, skipSpace_cons (beginsValue_of_isDigit hc).1]
  -- every other branch asks for a first character that is neither
  split <;> first
    | rfl
    | (rename_i heq
       obtain ⟨rfl, -⟩ := List.cons.inj heq
       exact absurd hc (by decide))

theorem take_numeral (n : Numeral) (fuel : Nat) (rest : List Char) :
    take (fuel + 1) (n.chars ++ rest) = takeNumber (n.chars ++ rest) := by
  obtain ⟨c, r, hcons, hc⟩ := n.exists_chars_cons
  rw [hcons]
  exact take_number hc fuel (r ++ rest)

theorem take_quote (s : String) (fuel : Nat) (rest : List Char) :
    take (fuel + 1) (quote s ++ rest) = some (.string (some s), rest) := by
  have hquote : quote s ++ rest = '"' :: (s.toList.flatMap escape ++ '"' :: rest) := by
    rw [quote, List.cons_append, List.append_assoc]
    rfl
  rw [hquote, take, skipSpace_cons (by decide)]
  change (takeString _).map _ = _
  rw [takeString_quoted]
  rfl

theorem take_bracket (fuel : Nat) (r : List Char) :
    take (fuel + 1) ('[' :: r) = match skipSpace r with
      | ']' :: r => some (.array [], r)
      | r => (takeItems fuel r).map fun x => (.array x.1, x.2) := by
  rw [take, skipSpace_cons (by decide)]
  rfl

theorem take_brace (fuel : Nat) (r : List Char) :
    take (fuel + 1) ('\x7b' :: r) = match skipSpace r with
      | '\x7d' :: r => some (.object [], r)
      | r => (takeMembers fuel r).map fun x => (.object x.1, x.2) := by
  rw [take, skipSpace_cons (by decide)]
  rfl

theorem take_items (hr : ∀ c ∈ r.head?, BeginsValue c) (fuel : Nat) :
    take (fuel + 1) ('[' :: r) = (takeItems fuel r).map fun x => (.array x.1, x.2) := by
  have hskip : skipSpace r = r := by
    cases r with
    | nil => rfl
    | cons c r => exact skipSpace_cons (hr c rfl).1 r
  rw [take_bracket, hskip]
  split
  · exact absurd rfl (hr ']' rfl).2
  · rfl

theorem take_members (fuel : Nat) (r : List Char) :
    take (fuel + 1) ('\x7b' :: '"' :: r) =
      (takeMembers fuel ('"' :: r)).map fun x => (.object x.1, x.2) := by
  rw [take_brace, skipSpace_cons (by decide)]
  rfl

variable {x : Written} {s t : List Char}

theorem takeItems_cons (hx : take fuel s = some (x, ',' :: r)) :
    takeItems (fuel + 1) s = (takeItems fuel r).map fun y => (x :: y.1, y.2) := by
  rw [takeItems, hx]
  change (takeItems fuel r).bind _ = _
  cases takeItems fuel r <;> rfl

theorem takeItems_last (hx : take fuel s = some (x, ']' :: r)) :
    takeItems (fuel + 1) s = some ([x], r) := by
  rw [takeItems, hx]
  rfl

variable {n : Option String}

theorem takeMembers_cons (hn : takeString s = some (n, ':' :: t))
    (hx : take fuel t = some (x, ',' :: r)) :
    takeMembers (fuel + 1) ('"' :: s) = (takeMembers fuel r).map fun y => ((n, x) :: y.1, y.2) := by
  rw [takeMembers, skipSpace_cons (by decide)]
  change (takeString s).bind _ = _
  rw [hn]
  change (take fuel t).bind _ = _
  rw [hx]
  change (takeMembers fuel r).bind _ = _
  cases takeMembers fuel r <;> rfl

theorem takeMembers_last (hn : takeString s = some (n, ':' :: t))
    (hx : take fuel t = some (x, '\x7d' :: r)) :
    takeMembers (fuel + 1) ('"' :: s) = some ([(n, x)], r) := by
  rw [takeMembers, skipSpace_cons (by decide)]
  change (takeString s).bind _ = _
  rw [hn]
  change (take fuel t).bind _ = _
  rw [hx]
  rfl

/-- What stands behind an item. -/
def behindItem : List Json → List Char
  | [] => [']']
  | x :: r => ',' :: itemChars (x :: r)

/-- What stands behind a member. -/
def behindMember : List (String × Json) → List Char
  | [] => ['\x7d']
  | e :: r => ',' :: memberChars (e :: r)

theorem itemChars_cons (x : Json) (items : List Json) :
    itemChars (x :: items) = x.chars ++ behindItem items := by
  cases items <;> rfl

theorem memberChars_cons (e : String × Json) (members : List (String × Json)) :
    memberChars (e :: members) =
      '"' :: (e.1.toList.flatMap escape ++ '"' :: ':' :: (e.2.chars ++ behindMember members)) := by
  cases members <;> simp [memberChars, quote, behindMember]

theorem forall_mem_itemLeaves_cons {p : Json → Prop} {x : Json} {items : List Json} :
    (∀ y ∈ itemLeaves (x :: items), p y) ↔ (∀ y ∈ x.leaves, p y) ∧ ∀ y ∈ itemLeaves items, p y :=
  List.forall_mem_append

theorem forall_mem_memberLeaves_cons {p : Json → Prop} {e : String × Json}
    {members : List (String × Json)} :
    (∀ y ∈ memberLeaves (e :: members), p y) ↔
      (∀ y ∈ e.2.leaves, p y) ∧ ∀ y ∈ memberLeaves members, p y :=
  List.forall_mem_append

mutual

/-- A value is taken up to its end, whatever follows it. -/
theorem take_chars (j : Json) (h : ∀ x ∈ j.leaves, x.IsFinite) {fuel : Nat} {rest : List Char}
    (hfuel : j.chars.length ≤ fuel) (hrest : EndsNumber rest) :
    take fuel (j.chars ++ rest) = some (j.written, rest) := by
  -- no text is empty, so there is fuel for its first character
  obtain ⟨c, r, hcons, -⟩ := exists_chars_cons h
  obtain ⟨fuel, rfl⟩ : ∃ n, fuel = n + 1 := by
    rw [hcons, List.length_cons] at hfuel
    exact ⟨fuel - 1, by omega⟩
  cases j with
  | null =>
    rw [take]
    rfl
  | bool b =>
    rw [take]
    cases b <;> rfl
  | integer i =>
    change take (fuel + 1) ((toString i).toList ++ rest) = _
    rw [← Numeral.chars_ofInteger, take_numeral]
    exact takeNumber_append (Numeral.ofInteger i) hrest
  | real d =>
    have hfinite : d.isFinite = true := h _ (List.mem_singleton_self _)
    obtain ⟨n, hchars, -⟩ := exists_numeral_real hfinite
    change take (fuel + 1) (d.jsonText.toList ++ rest) = _
    rw [← hchars, take_numeral, hchars]
    exact (takeNumber_real hfinite hrest).1
  | string s => exact take_quote s fuel rest
  | array items =>
    change take (fuel + 1) ('[' :: (itemChars items ++ rest)) = _
    cases items with
    | nil =>
      rw [take]
      rfl
    | cons x items =>
      obtain ⟨d, s, hd, hbegins⟩ := exists_chars_cons (forall_mem_itemLeaves_cons.mp h).1
      have hhead : ∀ c ∈ (itemChars (x :: items) ++ rest).head?, BeginsValue c := by
        rw [itemChars_cons, hd]
        rintro c ⟨⟩
        exact hbegins
      have hlength : (itemChars (x :: items)).length ≤ fuel := Nat.le_of_succ_le_succ hfuel
      rw [take_items hhead, takeItems_chars (x :: items) (List.cons_ne_nil _ _) h rest hlength]
      rfl
  | object members =>
    change take (fuel + 1) ('\x7b' :: (memberChars members ++ rest)) = _
    cases members with
    | nil =>
      rw [take]
      rfl
    | cons e members =>
      have hlength : (memberChars (e :: members)).length ≤ fuel := Nat.le_of_succ_le_succ hfuel
      have htaken := takeMembers_chars (e :: members) (List.cons_ne_nil _ _) h rest hlength
      rw [memberChars_cons, List.cons_append] at htaken ⊢
      rw [take_members, htaken]
      rfl

theorem takeItems_chars (items : List Json) (hne : items ≠ [])
    (h : ∀ y ∈ itemLeaves items, y.IsFinite) {fuel : Nat} (rest : List Char)
    (hfuel : (itemChars items).length ≤ fuel) :
    takeItems fuel (itemChars items ++ rest) = some (writtenItems items, rest) := by
  cases items with
  | nil => exact absurd rfl hne
  | cons x items =>
    obtain ⟨hx, hitems⟩ := forall_mem_itemLeaves_cons.mp h
    rw [itemChars_cons, List.length_append] at hfuel
    rw [itemChars_cons, List.append_assoc]
    cases items with
    | nil =>
      change x.chars.length + 1 ≤ fuel at hfuel
      obtain ⟨fuel, rfl⟩ : ∃ n, fuel = n + 1 := ⟨fuel - 1, by omega⟩
      exact takeItems_last (take_chars x hx (by omega) (endsNumber_cons (by decide) rest))
    | cons y items =>
      change x.chars.length + ((itemChars (y :: items)).length + 1) ≤ fuel at hfuel
      obtain ⟨fuel, rfl⟩ : ∃ n, fuel = n + 1 := ⟨fuel - 1, by omega⟩
      have hfirst := take_chars x hx (show x.chars.length ≤ fuel by omega)
        (endsNumber_cons (.inl rfl) (itemChars (y :: items) ++ rest))
      refine (takeItems_cons hfirst).trans ?_
      rw [takeItems_chars (y :: items) (List.cons_ne_nil _ _) hitems rest (by omega)]
      rfl

theorem takeMembers_chars (members : List (String × Json)) (hne : members ≠ [])
    (h : ∀ y ∈ memberLeaves members, y.IsFinite) {fuel : Nat} (rest : List Char)
    (hfuel : (memberChars members).length ≤ fuel) :
    takeMembers fuel (memberChars members ++ rest) = some (writtenMembers members, rest) := by
  cases members with
  | nil => exact absurd rfl hne
  | cons e members =>
    obtain ⟨n, x⟩ := e
    obtain ⟨hx, hmembers⟩ := forall_mem_memberLeaves_cons.mp h
    have hname := takeString_quoted n (':' :: (x.chars ++ (behindMember members ++ rest)))
    have hlength : x.chars.length + (behindMember members).length < fuel := by
      rw [memberChars_cons] at hfuel
      simp only [List.length_cons, List.length_append] at hfuel
      omega
    obtain ⟨fuel, rfl⟩ : ∃ n, fuel = n + 1 := ⟨fuel - 1, by omega⟩
    have htext : memberChars ((n, x) :: members) ++ rest = '"' :: (n.toList.flatMap escape ++
        '"' :: ':' :: (x.chars ++ (behindMember members ++ rest))) := by
      rw [memberChars_cons]
      simp
    rw [htext]
    cases members with
    | nil =>
      exact takeMembers_last hname
        (take_chars x hx (by omega) (endsNumber_cons (by decide) rest))
    | cons e members =>
      have hfirst := take_chars x hx (show x.chars.length ≤ fuel by omega)
        (endsNumber_cons (.inl rfl) (memberChars (e :: members) ++ rest))
      have hrest : (memberChars (e :: members)).length ≤ fuel := by
        change x.chars.length + ((memberChars (e :: members)).length + 1) < fuel + 1 at hlength
        omega
      refine (takeMembers_cons hname hfirst).trans ?_
      rw [takeMembers_chars (e :: members) (List.cons_ne_nil _ _) hmembers rest hrest]
      rfl

end

theorem read?_ofList (cs : List Char) :
    read? (String.ofList cs) =
      (take (cs.length + 1) cs).bind fun x => if (skipSpace x.2).isEmpty then some x.1 else none := by
  unfold read?
  rw [String.toList_ofList]
  rfl

/-- A document is read as what was written. -/
theorem read?_text {j : Json} (h : ∀ x ∈ j.leaves, x.IsFinite) : read? j.text = some j.written := by
  have hend : EndsNumber [] := fun c hc => nomatch hc
  have htaken := take_chars j h (Nat.le_succ j.chars.length) hend
  rw [List.append_nil] at htaken
  rw [text, read?_ofList, htaken]
  rfl

end Written

end Causeway.Json
