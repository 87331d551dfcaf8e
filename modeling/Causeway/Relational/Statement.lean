import Causeway.Number.Decimal
import Causeway.Text.Blank

/-!
Statements that read tables: a selection of columns from a table or from another statement, with a
comparison, an order, a limit and an offset.
-/

namespace Causeway.Relational

open Number

inductive SqlToken where
  | word (s : String)
  | quoted (s : String)
  | literal (s : String)
  | number (n : Nat)
  | symbol (s : String)
  deriving DecidableEq, Repr

namespace SqlToken

/-- A text up to its closing mark; a doubled mark stands for itself. -/
def takeEnclosed (mark : Char) : List Char → Option (List Char × List Char)
  | [] => none
  | [c] => if c = mark then some ([], []) else none
  | c :: d :: r =>
    if c = mark then
      if d = mark then (takeEnclosed mark r).map fun (s, r) => (mark :: s, r)
      else some ([], d :: r)
    else (takeEnclosed mark (d :: r)).map fun (s, r) => (c :: s, r)

def startsWord (c : Char) : Bool := c.isAlpha || c == '_' || 127 < c.toNat

def isWordChar (c : Char) : Bool := startsWord c || isDigit c || c == '$'

/-- What a text begins with, and the rest; white space and comments to the end of a line are no
tokens. -/
def first (c : Char) (r : List Char) : Option (Option SqlToken × List Char) :=
  if c = '"' then
    (takeEnclosed '"' r).map fun (name, rest) => (some (.quoted (String.ofList name)), rest)
  else if c = '\'' then
    (takeEnclosed '\'' r).map fun (text, rest) => (some (.literal (String.ofList text)), rest)
  else if c = '-' ∧ r.head? = some '-' then some (none, r.dropWhile (· ≠ '\n'))
  else if c = '>' ∧ r.head? = some '=' then some (some (.symbol ">="), r.tail)
  else if Text.isBlank c then some (none, r)
  else if isDigit c then
    some (some (.number (ofDigits (c :: r.takeWhile isDigit))), r.dropWhile isDigit)
  else if startsWord c then
    some (some (.word (String.ofList (c :: r.takeWhile isWordChar))), r.dropWhile isWordChar)
  else some (some (.symbol (String.singleton c)), r)

theorem length_le_of_takeEnclosed {mark : Char} {s : List Char} {x : List Char × List Char}
    (h : takeEnclosed mark s = some x) : x.2.length ≤ s.length := by
  fun_induction takeEnclosed mark s generalizing x with
  | case1 => cases h
  | case2 => cases h; exact Nat.zero_le _
  | case3 => cases h
  | case4 r ih =>
    obtain ⟨y, hy, rfl⟩ := Option.map_eq_some_iff.1 h
    have hrest := ih hy
    exact Nat.le_trans hrest (Nat.le_add_right r.length 2)
  | case5 => cases h; exact Nat.le_succ _
  | case6 c d r _ ih =>
    obtain ⟨y, hy, rfl⟩ := Option.map_eq_some_iff.1 h
    have hrest := ih hy
    exact Nat.le_trans hrest (Nat.le_succ _)

theorem length_le_of_first {c : Char} {r : List Char} {x : Option SqlToken × List Char}
    (h : first c r = some x) : x.2.length ≤ r.length := by
  have hdrop (p : Char → Bool) : (r.dropWhile p).length ≤ r.length :=
    (List.dropWhile_suffix p).length_le
  unfold first at h
  split at h
  · obtain ⟨y, hy, rfl⟩ := Option.map_eq_some_iff.1 h
    exact length_le_of_takeEnclosed hy
  split at h
  · obtain ⟨y, hy, rfl⟩ := Option.map_eq_some_iff.1 h
    exact length_le_of_takeEnclosed hy
  split at h
  · cases h; exact hdrop _
  split at h
  · cases h; exact (List.tail_suffix r).length_le
  split at h
  · cases h; exact Nat.le_refl _
  split at h
  · cases h; exact hdrop _
  split at h
  · cases h; exact hdrop _
  · cases h; exact Nat.le_refl _

/-- The tokens of a statement. -/
def lex : List Char → Option (List SqlToken)
  | [] => some []
  | c :: r =>
    match _h : first c r with
    | none => none
    | some x => (lex x.2).map (x.1.toList ++ ·)
  termination_by s => s.length
  decreasing_by exact Nat.lt_succ_of_le (length_le_of_first _h)

theorem lex_cons (c : Char) (r : List Char) :
    lex (c :: r) = (first c r).bind fun x => (lex x.2).map (x.1.toList ++ ·) := by
  rw [lex]
  split <;> simp [*]

end SqlToken

inductive Comparison where
  | equal
  | greater
  | atLeast
  deriving DecidableEq, Repr

/-- The right side of a comparison. -/
inductive Operand where
  | parameter
  | number (n : Nat)
  | literal (s : String)
  deriving DecidableEq, Repr

structure Condition where
  column : String
  comparison : Comparison
  operand : Operand
  deriving DecidableEq, Repr

/-- What is done with the rows of a source. -/
structure Selection where
  /-- Columns with the names that they get; all of them where there is no list. -/
  columns : Option (List (String × Option String)) := none
  condition : Option Condition := none
  order : List String := []
  limit : Option Nat := none
  offset : Nat := 0
  deriving Repr

inductive Statement where
  /-- One row with one number. -/
  | number (n : Nat)
  | ofTable (path : List String) (s : Selection)
  | ofStatement (inner : Statement) (s : Selection)
  deriving Repr

namespace Statement

/-- Words that name nothing unless they are quoted. -/
def reserved : List String := [
  "select", "from", "where", "order", "limit", "offset", "as", "and", "or", "not", "null", "table",
  "group", "having", "union", "distinct", "all", "on", "using", "in", "is", "asc", "desc", "true",
  "false", "case", "when", "then", "else", "end", "create", "default", "primary", "references"]

def lowerWord (s : String) : String := String.ofList (s.toList.map Char.toLower)

abbrev SqlReader := StateT (List SqlToken) Option

def next : SqlReader SqlToken := fun ts =>
  match ts with
  | t :: r => some (t, r)
  | [] => none

def acceptWord (w : String) : SqlReader Bool := fun ts =>
  match ts with
  | .word v :: r => if lowerWord v = w then some (true, r) else some (false, ts)
  | _ => some (false, ts)

def acceptSymbol (s : String) : SqlReader Bool := fun ts =>
  match ts with
  | .symbol v :: r => if v = s then some (true, r) else some (false, ts)
  | _ => some (false, ts)

def expectWord (w : String) : SqlReader Unit := do
  if ← acceptWord w then pure () else failure

def expectSymbol (s : String) : SqlReader Unit := do
  if ← acceptSymbol s then pure () else failure

def identifier : SqlReader String := do
  match ← next with
  | .quoted s => pure s
  | .word s => if reserved.contains (lowerWord s) then failure else pure s
  | _ => failure

/-- One or more of something with a separator between them. -/
def separated {α : Type} (sep : String) (item : SqlReader α) : Nat → SqlReader (List α)
  | 0 => failure
  | fuel + 1 => do
    let x ← item
    if ← acceptSymbol sep then do
      let r ← separated sep item fuel
      pure (x :: r)
    else pure [x]

def column : SqlReader (String × Option String) := do
  let name ← identifier
  if ← acceptWord "as" then do
    let newName ← identifier
    pure (name, some newName)
  else pure (name, none)

def comparison : SqlReader Comparison := do
  match ← next with
  | .symbol s =>
    if s = "=" then pure .equal
    else if s = ">" then pure .greater
    else if s = ">=" then pure .atLeast
    else failure
  | _ => failure

def operand : SqlReader Operand := do
  match ← next with
  | .symbol s => if s = "?" then pure .parameter else failure
  | .number n => pure (.number n)
  | .literal s => pure (.literal s)
  | _ => failure

def natural : SqlReader Nat := do
  match ← next with
  | .number n => pure n
  | _ => failure

/-- The clauses that cut a result. -/
def limits (s : Selection) : SqlReader Selection := do
  let mut s := s
  if ← acceptWord "limit" then s := { s with limit := some (← natural) }
  if ← acceptWord "offset" then s := { s with offset := ← natural }
  pure s

/-- The clauses behind the source. -/
def clauses (fuel : Nat) (columns : Option (List (String × Option String))) :
    SqlReader Selection := do
  let mut s : Selection := { columns }
  if ← acceptWord "where" then
    s := { s with condition := some ⟨← identifier, ← comparison, ← operand⟩ }
  if ← acceptWord "order" then
    expectWord "by"
    s := { s with order := ← separated "," identifier fuel }
  limits s

/-- A statement whose first word is still to come. -/
def statement : Nat → SqlReader Statement
  | 0 => failure
  | fuel + 1 => do
    expectWord "select"
    fun ts => match ts with
    | .number n :: r => some (.number n, r)
    | _ => (do
      let columns ← if ← acceptSymbol "*" then pure none
        else some <$> separated "," column (fuel + 1)
      expectWord "from"
      if ← acceptSymbol "(" then
        let inner ← statement fuel
        expectSymbol ")"
        let _ ← acceptWord "as"
        let _ ← identifier
        pure (.ofStatement inner (← clauses (fuel + 1) columns))
      else
        let path ← separated "." identifier (fuel + 1)
        pure (.ofTable path (← clauses (fuel + 1) columns)) : SqlReader Statement) ts

/-- Reads a whole statement. -/
def read? (s : String) : Option Statement := do
  let tokens ← SqlToken.lex s.toList
  match (statement (tokens.length + 1)).run tokens with
  | some (q, []) => some q
  | _ => none

/-- The number of parameters. -/
def parameterCount : Statement → Nat
  | .number _ => 0
  | .ofTable _ s => count s
  | .ofStatement inner s => inner.parameterCount + count s
where
  count (s : Selection) : Nat := if s.condition.any (·.operand == .parameter) then 1 else 0

end Statement

end Causeway.Relational
