import Causeway.Relational.Connection
import Causeway.Relational.Statement
import Causeway.Relational.Store

/-!
Evaluating statements over a store. Rows keep the order of the table unless they are sorted; sorting is
ascending and stable, with nulls last and texts by code points.
-/

namespace Causeway.Relational

open Number

namespace Cell

/-- A number as an exact ratio, its denominator positive; infinities and NaN have none. -/
def ratio? : Cell → Option (Int × Nat)
  | .integer _ i => some (i, 1)
  | .decimal coefficient scale => some (coefficient, tenPow scale)
  | .float x => ofView x.view
  | .double x => ofView x.view
  | _ => none
where
  ofView : FloatView → Option (Int × Nat)
    | .finite negative v =>
      let (n, d) := v.ratio
      some (if negative then -(n : Int) else n, d)
    | _ => none

/-- Where special floats lie: below all numbers, among them, above them, and above infinity. -/
def rank : Cell → Nat
  | .float x => ofView x.view
  | .double x => ofView x.view
  | _ => 1
where
  ofView : FloatView → Nat
    | .finite _ _ => 1
    | .infinite negative => if negative then 0 else 2
    | .nan _ => 3

def isNumber : Cell → Bool
  | .integer _ _ | .decimal _ _ | .float _ | .double _ => true
  | _ => false

def compareNumbers (a b : Cell) : Ordering :=
  match compare a.rank b.rank with
  | .eq =>
    match a.ratio?, b.ratio? with
    | some (n, d), some (m, e) => compare (n * e) (m * d)
    | _, _ => .eq
  | o => o

/-- A date or a timestamp in nanoseconds since 1970. -/
def nanos? : Cell → Option Int
  | .date days => some (days * Time.secondsPerDay * Time.billion)
  | .timestamp unit raw => some (raw * (Time.billion / unit.perSecond : Nat))
  | _ => none

/-- The order of two cells that can be compared. -/
def compare? (a b : Cell) : Option Ordering :=
  match a, b with
  | .boolean a, .boolean b => some (compare a.toNat b.toNat)
  | .text a, .text b => some (compare a b)
  | .blob a, .blob b => some (compare (a.map UInt8.toNat) (b.map UInt8.toNat))
  | a, b =>
    if a.isNumber && b.isNumber then some (compareNumbers a b)
    else match a.nanos?, b.nanos? with
      | some a, some b => some (compare a b)
      | _, _ => none

/-- The type of a cell, to which a text next to it is cast. -/
def type? : Cell → Option ColumnType
  | .boolean _ => some .boolean
  | .integer kind _ => some (.integer kind)
  | .float _ => some .float
  | .double _ => some .double
  | .decimal _ scale => some (.decimal 38 scale)
  | .timestamp unit _ => some (.timestamp unit)
  | .date _ => some .date
  | _ => none

/-- Casts a text to the type of the cell that it is compared with. -/
def unify (a b : Cell) : Option (Cell × Cell) :=
  match a, b with
  | .text s, b =>
    match b.type? with
    | some t => (Store.textCell t s).map (·, b)
    | none => some (a, b)
  | a, .text s =>
    match a.type? with
    | some t => (Store.textCell t s).map (a, ·)
    | none => some (a, b)
  | a, b => some (a, b)

/-- Whether a comparison holds; never with null, and an error where the cells do not compare. -/
def satisfies (c : Comparison) (a b : Cell) : Except Error Bool :=
  if a = .null ∨ b = .null then .ok false
  else match (unify a b).bind fun (a, b) => compare? a b with
    | some o => .ok (match c with
      | .equal => o == .eq
      | .greater => o == .gt
      | .atLeast => o != .lt)
    | none => .error (.database "the values cannot be compared")

/-- Whether `a` may stand before `b` in a sorted column. -/
def precedes (a b : Cell) : Option Ordering :=
  match a, b with
  | .null, .null => some .eq
  | .null, _ => some .gt
  | _, .null => some .lt
  | a, b => compare? a b

end Cell

/-- Whether one row may stand before another, by the first columns in which they differ. -/
def rowPrecedes (columns : List Nat) (a b : List Cell) : Bool :=
  match columns with
  | [] => true
  | i :: r =>
    match Cell.precedes (a[i]?.getD .null) (b[i]?.getD .null) with
    | some .lt => true
    | some .gt => false
    | _ => rowPrecedes r a b

namespace Statement

def fault (m : String) : Error := .database m

def position (names : List String) (name : String) : Except Error Nat :=
  match names.findIdx? (Store.sameName name) with
  | some i => .ok i
  | none => .error (fault ("no column " ++ name))

/-- Names that differ from those before them in more than case; a number is put behind a repeated one. -/
def distinctNames (seen : List String) : List String → List String
  | [] => []
  | n :: r =>
    let taken (s : String) : Bool := seen.any (Store.sameName s)
    let candidates := n :: (List.range seen.length).map fun i => n ++ "_" ++ toString (i + 1)
    let fresh := (candidates.find? fun s => !taken s).getD n
    fresh :: distinctNames (fresh :: seen) r

def operandCell (params : List Cell) : Operand → Except Error Cell
  | .parameter =>
    match params with
    | p :: _ => .ok p
    | [] => .error (fault "a parameter is missing")
  | .number n => .ok (.integer .int64 n)
  | .literal s => .ok (.text s)

def filterRows (names : List String) (params : List Cell) (rows : List (List Cell)) :
    Option Condition → Except Error (List (List Cell))
  | none => .ok rows
  | some c => do
    let i ← position names c.column
    let operand ← operandCell params c.operand
    rows.filterM fun row => Cell.satisfies c.comparison (row[i]?.getD .null) operand

/-- The column to sort by: one that was given a name, else one of the source. -/
def sortPosition (names : List String) (s : Selection) (name : String) : Except Error Nat :=
  let renamed := (s.columns.getD []).find? fun c => c.2.any (Store.sameName name)
  position names (match renamed with
    | some (column, _) => column
    | none => name)

/-- What a selection makes of its source. -/
def apply (names : List String) (rows : List (List Cell)) (params : List Cell) (s : Selection) :
    Except Error Answer := do
  let rows ← filterRows names params rows s.condition
  let order ← s.order.mapM (sortPosition names s)
  let rows := if order.isEmpty then rows else rows.mergeSort (rowPrecedes order)
  let rows := rows.drop s.offset
  let rows := match s.limit with
    | some n => rows.take n
    | none => rows
  match s.columns with
  | none => pure ⟨names, rows⟩
  | some columns => do
    let picked ← columns.mapM fun (name, newName) => do
      let i ← position names name
      pure (i, newName.getD (names[i]?.getD name))
    pure ⟨picked.map (·.2), rows.map fun row => picked.map fun (i, _) => row[i]?.getD .null⟩

def tableOfPath (store : Store) (path : List String) : Option StoredTable :=
  match path with
  | [name] => store.table? "main" name
  | [schema, name] =>
    match store.table? schema name with
    | some t => some t
    | none => if Store.sameName schema catalogName then store.table? "main" name else none
  | [catalog, schema, name] =>
    if Store.sameName catalog catalogName then store.table? schema name else none
  | _ => none

/-- The answer of a store to a statement; parameters go to the innermost comparison first. -/
def evaluate (store : Store) (params : List Cell) : Statement → Except Error Answer
  | .number n => .ok ⟨[toString n], [[.integer .int32 n]]⟩
  | .ofTable path s =>
    match tableOfPath store path with
    | some t => apply (t.columns.map (·.1)) t.rows params s
    | none => .error (fault ("no table " ++ ".".intercalate path))
  | .ofStatement inner s => do
    let a ← evaluate store params inner
    apply (distinctNames [] a.columns) a.rows (params.drop inner.parameterCount) s

end Statement

/-- The answer of a store to the text of a statement with parameters. -/
def Store.select (store : Store) (text : String) (params : List Cell) : Except Error Answer :=
  match Statement.read? text with
  | none => .error (.database "not a statement that reads tables")
  | some q =>
    if q.parameterCount = params.length then q.evaluate store params
    else .error (.database "wrong number of parameters")

/-- A store as a connection. -/
def Store.connection (store : Store) : Connection where
  columns := store.columnRows
  rowCount t :=
    match store.table? t.schema t.name with
    | some s => .ok s.rows.length
    | none => .error (.database ("no table " ++ t.name))
  select := store.select

end Causeway.Relational
