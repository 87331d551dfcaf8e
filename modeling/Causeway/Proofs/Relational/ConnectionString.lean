import Causeway.Proofs.ElementId
import Causeway.Proofs.Relational.Tokens
import Causeway.Relational.Provider
import Mathlib.Data.List.Forall2

/-!
# Connection strings read back

A connection string is a row of pairs with a space between neighbours. Read the way a driver reads it
(`readPairs`), it gives back what it was made of, whatever the texts of the descriptor are: the escapes
keep every quote and every backslash of a value inside of it (`takeQuoted_escaped`). The string is then
quoted once more to stand in an SQL statement, which reads it back as well
(`connectionString_reads_back`).
-/

namespace Causeway.Relational

/-! ### How drivers read a connection string -/

/-- A value up to its closing quote. A backslash takes the next character as it is. -/
def takeQuoted : List Char → Option (List Char × List Char)
  | [] => none
  | [c] => if c = '\'' then some ([], []) else none
  | c :: d :: r =>
    if c = '\'' then some ([], d :: r)
    else if c = '\\' then (takeQuoted r).map fun (s, r) => (d :: s, r)
    else (takeQuoted (d :: r)).map fun (s, r) => (c :: s, r)

/-- A value in quotes, or else up to a space. -/
def takeValue : List Char → Option (List Char × List Char)
  | [] => some ([], [])
  | c :: r =>
    if c = '\'' then takeQuoted r
    else some ((c :: r).takeWhile (fun d => d ≠ ' '), (c :: r).dropWhile fun d => d ≠ ' ')

/-- A key up to the equals sign, and its value. -/
def takePair (s : List Char) : Option ((String × String) × List Char) :=
  let key := s.takeWhile fun c => c ≠ '='
  match s.dropWhile fun c => c ≠ '=' with
  | [] => none
  | _ :: r => (takeValue r).map fun (v, r) => ((String.ofList key, String.ofList v), r)

theorem length_le_of_takeQuoted {s : List Char} {x : List Char × List Char}
    (h : takeQuoted s = some x) : x.2.length ≤ s.length := by
  fun_induction takeQuoted s generalizing x with
  | case1 => cases h
  | case2 => cases h; exact Nat.zero_le _
  | case3 => cases h
  | case4 d r => cases h; exact Nat.le_succ _
  | case5 d r _ ih =>
    obtain ⟨y, hy, rfl⟩ := Option.map_eq_some_iff.mp h
    have hrest := ih hy
    exact Nat.le_trans hrest (Nat.le_add_right r.length 2)
  | case6 c d r _ _ ih =>
    obtain ⟨y, hy, rfl⟩ := Option.map_eq_some_iff.mp h
    have hrest := ih hy
    exact Nat.le_trans hrest (Nat.le_succ _)

theorem length_le_of_takeValue {s : List Char} {x : List Char × List Char}
    (h : takeValue s = some x) : x.2.length ≤ s.length := by
  unfold takeValue at h
  split at h
  · cases h
    exact Nat.le_refl _
  · split at h
    · exact Nat.le_trans (length_le_of_takeQuoted h) (Nat.le_succ _)
    · cases h
      exact (List.dropWhile_suffix _).length_le

theorem length_lt_of_takePair {s : List Char} {x : (String × String) × List Char}
    (h : takePair s = some x) : x.2.length < s.length := by
  have hdrop := (List.dropWhile_suffix (l := s) fun c => decide (c ≠ '=')).length_le
  unfold takePair at h
  dsimp only at h
  split at h
  · cases h
  · rename_i r hr
    obtain ⟨y, hy, rfl⟩ := Option.map_eq_some_iff.mp h
    have hvalue := length_le_of_takeValue hy
    rw [hr, List.length_cons] at hdrop
    exact Nat.lt_of_lt_of_le (Nat.lt_succ_of_le hvalue) hdrop

/-- Pairs with one space between neighbours. -/
def readPairs (s : List Char) : Option (List (String × String)) :=
  match _h : takePair s with
  | none => none
  | some (p, []) => some [p]
  | some (p, c :: r) => if c = ' ' then (readPairs r).map (p :: ·) else none
  termination_by s.length
  decreasing_by
    have hlength := length_lt_of_takePair _h
    simp only [List.length_cons] at hlength
    omega

theorem readPairs_eq (s : List Char) :
    readPairs s = (takePair s).bind fun x =>
      match x.2 with
      | [] => some [x.1]
      | c :: r => if c = ' ' then (readPairs r).map (x.1 :: ·) else none := by
  rw [readPairs]
  split <;> simp [*]

/-! ### Pairs -/

variable {r : List Char}

/-- A backslash in front of every quote and every backslash. -/
def escaped (s : List Char) : List Char :=
  s.flatMap fun c => if c = '\\' ∨ c = '\'' then ['\\', c] else [c]

theorem escaped_cons (c : Char) (s : List Char) :
    escaped (c :: s) = (if c = '\\' ∨ c = '\'' then ['\\', c] else [c]) ++ escaped s :=
  List.flatMap_cons

/-- The backslashes that quotes get come after the others have been doubled, and stay single. -/
theorem replaceChar_quote_backslash (s : List Char) :
    Text.replaceChar '\'' ['\\', '\''] (Text.replaceChar '\\' ['\\', '\\'] s) = escaped s := by
  induction s with
  | nil => rfl
  | cons c s ih =>
    by_cases hbackslash : c = '\\'
    · subst hbackslash
      rw [Text.replaceChar_cons, if_pos rfl, List.cons_append, List.singleton_append,
        Text.replaceChar_cons, Text.replaceChar_cons, ih]
      rfl
    · rw [Text.replaceChar_cons, if_neg hbackslash, List.singleton_append, Text.replaceChar_cons, ih,
        escaped_cons]
      by_cases hquote : c = '\''
      · rw [if_pos hquote, if_pos (.inr hquote), hquote]
      · rw [if_neg hquote, if_neg (not_or.mpr ⟨hbackslash, hquote⟩)]

theorem quoteValue_eq (s : String) : quoteValue s = '\'' :: (escaped s.toList ++ ['\'']) := by
  rw [quoteValue, replaceChar_quote_backslash]

theorem takeQuoted_cons_of_ne {c : Char} (hquote : c ≠ '\'') (hbackslash : c ≠ '\\') (s : List Char) :
    takeQuoted (c :: s) = (takeQuoted s).map fun x => (c :: x.1, x.2) := by
  cases s with
  | nil =>
    rw [takeQuoted, takeQuoted, if_neg hquote]
    rfl
  | cons d s => rw [takeQuoted, if_neg hquote, if_neg hbackslash]

/-- No quote in a value is its closing quote. -/
theorem takeQuoted_escaped (s r : List Char) :
    takeQuoted (escaped s ++ '\'' :: r) = some (s, r) := by
  induction s with
  | nil =>
    cases r with
    | nil => rfl
    | cons d r => rw [escaped, List.flatMap_nil, List.nil_append, takeQuoted, if_pos rfl]
  | cons c s ih =>
    rw [escaped_cons, List.append_assoc]
    by_cases hescape : c = '\\' ∨ c = '\''
    · rw [if_pos hescape, List.cons_append, List.singleton_append, takeQuoted, if_neg (by decide),
        if_pos rfl, ih, Option.map_some]
    · rw [not_or] at hescape
      obtain ⟨hbackslash, hquote⟩ := hescape
      rw [if_neg (by simp [hbackslash, hquote]), List.singleton_append,
        takeQuoted_cons_of_ne hquote hbackslash, ih, Option.map_some]

/-- A part of a connection string is read as a pair, whether it is the last or a space comes behind. -/
def ReadAs (part : List Char) (p : String × String) : Prop :=
  ∀ r : List Char, (∀ c ∈ r.head?, c = ' ') → takePair (part ++ r) = some (p, r)

theorem takePair_append {key value v : List Char} (hkey : '=' ∉ key)
    (hvalue : takeValue (value ++ r) = some (v, r)) :
    takePair (key ++ '=' :: value ++ r) = some ((String.ofList key, String.ofList v), r) := by
  have hplain : ∀ c ∈ key, decide (c ≠ '=') = true := by
    intro c hc
    exact decide_eq_true fun heq => hkey (heq ▸ hc)
  obtain ⟨htake, hdrop⟩ := Text.span_append (l := '=' :: (value ++ r)) hplain (by simp)
  unfold takePair
  dsimp only
  rw [List.append_assoc, List.cons_append, htake, hdrop]
  dsimp only
  rw [hvalue]
  rfl

theorem readAs_quotedPart (key : String) (hkey : '=' ∉ key.toList) (value : String) :
    ReadAs (quotedPart key value) (key, value) := by
  intro r _
  have hvalue : takeValue (quoteValue value ++ r) = some (value.toList, r) := by
    rw [quoteValue_eq, List.cons_append, List.append_assoc, List.singleton_append, takeValue,
      if_pos rfl]
    exact takeQuoted_escaped value.toList r
  have hpair := takePair_append hkey hvalue
  rwa [String.ofList_toList, String.ofList_toList] at hpair

/-- A value without quotes must not need them. -/
theorem readAs_plainPart (key : String) {value : String} (hkey : '=' ∉ key.toList)
    (hne : value.toList ≠ []) (hspace : ' ' ∉ value.toList) (hquote : '\'' ∉ value.toList) :
    ReadAs (key.toList ++ '=' :: value.toList) (key, value) := by
  intro r hr
  obtain ⟨c, w, hcons⟩ := List.exists_cons_of_ne_nil hne
  rw [hcons] at hspace hquote
  have hplain : ∀ d ∈ c :: w, decide (d ≠ ' ') = true := by
    intro d hd
    exact decide_eq_true fun heq => hspace (heq ▸ hd)
  have hbehind : ∀ d ∈ r.head?, decide (d ≠ ' ') = false := by
    intro d hd
    simp [hr d hd]
  obtain ⟨htake, hdrop⟩ := Text.span_append hplain hbehind
  have hread : takeValue (value.toList ++ r) = some (value.toList, r) := by
    have hfirst : c ≠ '\'' := fun heq => hquote (heq ▸ List.mem_cons_self)
    rw [hcons, List.cons_append, takeValue, if_neg hfirst, ← List.cons_append, htake, hdrop]
  have hpair := takePair_append hkey hread
  rwa [String.ofList_toList, String.ofList_toList] at hpair

/-- Parts that are read one by one are read together. -/
theorem readPairs_joinWith {parts : List (List Char)} {pairs : List (String × String)}
    (h : List.Forall₂ ReadAs parts pairs) (hne : parts ≠ []) :
    readPairs (Text.joinWith [' '] parts) = some pairs := by
  induction h with
  | nil => exact absurd rfl hne
  | @cons part p parts pairs hfirst hrest ih =>
    cases hrest with
    | nil =>
      have hlast := hfirst [] (by simp)
      rw [List.append_nil] at hlast
      rw [Text.joinWith, readPairs_eq, hlast]
      rfl
    | @cons next q parts pairs hnext hlater =>
      have hspace := hfirst (' ' :: Text.joinWith [' '] (next :: parts)) (by simp)
      have hpairs := ih (List.cons_ne_nil _ _)
      rw [Text.joinWith, List.append_assoc, List.singleton_append, readPairs_eq, hspace]
      · simp [hpairs]
      · exact List.cons_ne_nil _ _

/-! ### The parts of a connection string -/

/-- What a descriptor says of a server, under the keys that its driver knows. -/
def parameters (databaseKey passwordKey : String) (port : UInt16) (ds : DataSource) :
    List (String × String) :=
  [("host", if ds.server = "" then "localhost" else ds.server),
    ("port", toString (if ds.port = 0 then port else ds.port).toNat), (databaseKey, ds.database)] ++
  (if ds.username = "" then [] else [("user", ds.username)]) ++
  (if ds.password = "" then [] else [(passwordKey, ds.password)])

def sslParameters (ds : DataSource) : List (String × String) :=
  if ds.enableSsl then [("sslmode", if ds.skipCertValidation then "require" else "verify-full")] else []

theorem forall₂_optionalPart (key : String) (hkey : '=' ∉ key.toList) (value : String) :
    List.Forall₂ ReadAs (if value = "" then [] else [quotedPart key value])
      (if value = "" then [] else [(key, value)]) := by
  split
  · exact .nil
  · exact .cons (readAs_quotedPart key hkey value) .nil

theorem readAs_port (n : Nat) :
    ReadAs ("port=".toList ++ (toString n).toList) ("port", toString n) := by
  have hdigits : (toString n).toList = Nat.toDigits 10 n := by
    rw [Nat.toString_eq_ofList_toDigits, String.toList_ofList]
  refine readAs_plainPart "port" (by decide) ?_ ?_ ?_
  · rw [hdigits]
    exact Nat.toDigits_ne_nil
  · rw [hdigits]
    intro hspace
    exact absurd (Number.bounds_of_mem_toDigits hspace).1 (by decide)
  · rw [hdigits]
    intro hquote
    exact absurd (Number.bounds_of_mem_toDigits hquote).1 (by decide)

theorem forall₂_sslPart (e : Engine) (ds : DataSource) :
    List.Forall₂ ReadAs (sslPart e ds) (if e = .postgres then sslParameters ds else []) := by
  have hmode : ReadAs
      ("sslmode=".toList ++ (if ds.skipCertValidation then "require" else "verify-full").toList)
      ("sslmode", if ds.skipCertValidation then "require" else "verify-full") := by
    split
    · exact readAs_plainPart "sslmode" (by decide) (by decide) (by decide) (by decide)
    · exact readAs_plainPart "sslmode" (by decide) (by decide) (by decide) (by decide)
  unfold sslPart sslParameters
  by_cases hengine : e = .postgres
  · by_cases henabled : ds.enableSsl = true
    · rw [if_pos ⟨hengine, henabled⟩, if_pos hengine, if_pos henabled]
      exact .cons hmode .nil
    · rw [if_neg (fun h => henabled h.2), if_pos hengine, if_neg henabled]
      exact .nil
  · rw [if_neg (fun h => hengine h.1), if_neg hengine]
    exact .nil

theorem forall₂_serverParts {e : Engine} (hdatabase : '=' ∉ e.keys.1.toList)
    (hpassword : '=' ∉ e.keys.2.toList) (ds : DataSource) :
    List.Forall₂ ReadAs (serverParts e ds)
      (parameters e.keys.1 e.keys.2 e.defaultPort ds ++
        if e = .postgres then sslParameters ds else []) := by
  have hfixed := List.Forall₂.cons
    (readAs_quotedPart "host" (by decide) (if ds.server = "" then "localhost" else ds.server))
    (.cons (readAs_port (if ds.port = 0 then e.defaultPort else ds.port).toNat)
      (.cons (readAs_quotedPart e.keys.1 hdatabase ds.database) .nil))
  have huser := forall₂_optionalPart "user" (by decide) ds.username
  have hlogin := List.rel_append (List.rel_append hfixed huser)
    (forall₂_optionalPart e.keys.2 hpassword ds.password)
  exact List.rel_append hlogin (forall₂_sslPart e ds)

theorem readPairs_serverParts {e : Engine} (hdatabase : '=' ∉ e.keys.1.toList)
    (hpassword : '=' ∉ e.keys.2.toList) (ds : DataSource) :
    readPairs (String.ofList (Text.joinWith [' '] (serverParts e ds))).toList =
      some (parameters e.keys.1 e.keys.2 e.defaultPort ds ++
        if e = .postgres then sslParameters ds else []) := by
  rw [String.toList_ofList]
  exact readPairs_joinWith (forall₂_serverParts hdatabase hpassword ds) (List.cons_ne_nil _ _)

/-! ### The statement that attaches -/

theorem lex_quoteLiteral (s : String) (hr : r.head? ≠ some '\'') :
    SqlToken.lex ((quoteLiteral s).toList ++ r) = (SqlToken.lex r).map (.literal s :: ·) := by
  have hfirst : SqlToken.first '\'' (Text.replaceChar '\'' ['\'', '\''] s.toList ++ '\'' :: r) =
      some (some (.literal s), r) := by
    rw [SqlToken.first, if_neg (by decide), if_pos rfl, SqlToken.takeEnclosed_replaceChar '\'' s.toList hr,
      Option.map_some]
    dsimp only
    rw [String.ofList_toList]
  rw [quoteLiteral, String.toList_ofList, enclosed, List.cons_append, List.append_assoc,
    List.singleton_append, SqlToken.lex_cons, hfirst]
  rfl

/-- What stands behind the target in the statement. -/
def Engine.attachTokens (e : Engine) : List SqlToken :=
  [.word "AS", .word catalogName, .symbol "("] ++
    (match e.scanner? with
      | some (_, kind) => [.word "TYPE", .word kind, .symbol ","]
      | none => []) ++
    [.word "READ_ONLY", .symbol ")", .symbol ";"]

theorem lex_attachTokens (e : Engine) :
    SqlToken.lex (" AS " ++ catalogName ++ " " ++ e.attachOptions ++ ";").toList =
      some e.attachTokens := by
  cases e <;> decide +kernel

theorem lex_attachStatement (e : Engine) (target : String) :
    SqlToken.lex (attachStatement e target).toList =
      some (.word "ATTACH" :: .literal target :: e.attachTokens) := by
  have htext : (attachStatement e target).toList = 'A' :: "TTACH".toList ++ ' ' ::
      ((quoteLiteral target).toList ++
        (" AS " ++ catalogName ++ " " ++ e.attachOptions ++ ";").toList) := by
    simp [attachStatement]
  have hspace : (" AS " ++ catalogName ++ " " ++ e.attachOptions ++ ";").toList.head? ≠ some '\'' := by
    cases e <;> decide
  rw [htext, SqlToken.lex_word_space rfl rfl, lex_quoteLiteral target hspace, lex_attachTokens]
  rfl

theorem attached?_attachStatement (files : FileTree) (e : Engine) (target : String) :
    attached? files (attachStatement e target) = files.database? target := by
  rw [attached?, lex_attachStatement]
  rfl

/-- A connection string is read as what the descriptor says, whatever its texts are: as the server, the
port and the database, the user and the password if there are any, and the security of the connection.
The statement that attaches a target is read as having this target in it, and nothing else of it, and so
it attaches the target. -/
theorem connectionString_reads_back (ds : DataSource) :
    (∃ s, connectionString .postgres ds = .ok s ∧
      readPairs s.toList = some (parameters "dbname" "password" 5432 ds ++ sslParameters ds)) ∧
    (∃ s, connectionString .mysql ds = .ok s ∧
      readPairs s.toList = some (parameters "database" "passwd" 3306 ds)) ∧
    ∀ (e : Engine) (target : String),
      SqlToken.lex (quoteLiteral target).toList = some [.literal target] ∧
      SqlToken.lex (attachStatement e target).toList =
        some (.word "ATTACH" :: .literal target :: e.attachTokens) ∧
      ∀ files, attached? files (attachStatement e target) = files.database? target := by
  refine ⟨⟨_, rfl, ?_⟩, ⟨_, rfl, ?_⟩, fun e target =>
    ⟨?_, lex_attachStatement e target, fun files => attached?_attachStatement files e target⟩⟩
  · exact readPairs_serverParts (e := .postgres) (by decide) (by decide) ds
  · have hpairs := readPairs_serverParts (e := .mysql) (by decide) (by decide) ds
    rwa [if_neg (by decide), List.append_nil] at hpairs
  · have hliteral := lex_quoteLiteral target (r := []) (by decide)
    rw [List.append_nil] at hliteral
    rw [hliteral, SqlToken.lex]
    rfl

end Causeway.Relational
