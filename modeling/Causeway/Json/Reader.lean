import Causeway.Json.Basic
import Causeway.Number.Stepwise

/-!
Reading JSON text. `Written.read?` takes a document by the grammar alone; what a number or a string
stands for, and how deep a value may nest, is decided where a part of it is turned into a value.
-/

namespace Causeway.Json

open Number

/-- A document as it is written: members in their order, names perhaps repeated, strings `none` where
an escape names half a character. -/
inductive Written where
  | null
  | bool (b : Bool)
  | number (whole : Bool) (d : Decimal)
  | string (s : Option String)
  | array (items : List Written)
  | object (members : List (Option String × Written))
  deriving Repr, Inhabited

/-- One element of a string: a character, or a code unit given by an escape. -/
inductive Unit16 where
  | char (c : Char)
  | unit (n : Nat)

def isSpace (c : Char) : Bool := c == ' ' || c == '\n' || c == '\r' || c == '\t'

def skipSpace (s : List Char) : List Char := s.dropWhile isSpace

def hexValue (c : Char) : Option Nat :=
  if '0' ≤ c ∧ c ≤ '9' then some (c.toNat - 48)
  else if 'a' ≤ c ∧ c ≤ 'f' then some (c.toNat - 87)
  else if 'A' ≤ c ∧ c ≤ 'F' then some (c.toNat - 55)
  else none

def hexWord (a b c d : Char) : Option Nat := do
  let a ← hexValue a
  let b ← hexValue b
  let c ← hexValue c
  let d ← hexValue d
  pure (((a * 16 + b) * 16 + c) * 16 + d)

/-- What a backslash and one character stand for. -/
def simpleEscape : Char → Option Char
  | '"' => some '"'
  | '\\' => some '\\'
  | '/' => some '/'
  | 'b' => some '\x08'
  | 'f' => some '\x0c'
  | 'n' => some '\n'
  | 'r' => some '\r'
  | 't' => some '\t'
  | _ => none

/-- The elements of a string up to its closing quote, and what follows it. -/
def takeUnits : List Char → Option (List Unit16 × List Char)
  | [] => none
  | '"' :: r => some ([], r)
  | '\\' :: 'u' :: a :: b :: c :: d :: r => do
    let n ← hexWord a b c d
    let (us, r) ← takeUnits r
    pure (.unit n :: us, r)
  | '\\' :: c :: r => do
    let c ← simpleEscape c
    let (us, r) ← takeUnits r
    pure (.char c :: us, r)
  | c :: r =>
    if c = '\\' ∨ c.toNat < 32 then none
    else do
      let (us, r) ← takeUnits r
      pure (.char c :: us, r)

def isHigh (n : Nat) : Bool := 0xD800 ≤ n && n < 0xDC00

def isLow (n : Nat) : Bool := 0xDC00 ≤ n && n < 0xE000

/-- Joins pairs of surrogates; one that stands alone makes the string unreadable. -/
def joinUnits : List Unit16 → Option (List Char)
  | [] => some []
  | .char c :: r => (joinUnits r).map (c :: ·)
  | .unit n :: .unit m :: r =>
    if isHigh n then
      if isLow m then
        (joinUnits r).map (Char.ofNat (0x10000 + (n - 0xD800) * 0x400 + (m - 0xDC00)) :: ·)
      else none
    else if isLow n then none
    else (joinUnits (.unit m :: r)).map (Char.ofNat n :: ·)
  | .unit n :: r =>
    if isHigh n || isLow n then none else (joinUnits r).map (Char.ofNat n :: ·)

/-- The string whose opening quote was just passed. -/
def takeString (s : List Char) : Option (Option String × List Char) :=
  (takeUnits s).map fun (us, r) => ((joinUnits us).map String.ofList, r)

/-- The digits before the point: a zero stands alone. -/
def takeWhole (s : List Char) : Option (List Char × List Char) :=
  let ds := s.takeWhile isDigit
  match ds with
  | [] => none
  | '0' :: _ :: _ => none
  | ds => some (ds, s.dropWhile isDigit)

/-- A point and one digit or more; nothing where there is no point. -/
def takeFraction : List Char → Option (List Char × List Char)
  | '.' :: r =>
    let ds := r.takeWhile isDigit
    if ds.isEmpty then none else some (ds, r.dropWhile isDigit)
  | s => some ([], s)

/-- An exponent mark, an optional sign and one digit or more; zero where there is no mark. -/
def takeExponent : List Char → Option (Int × Bool × List Char)
  | c :: r =>
    if c = 'e' ∨ c = 'E' then
      let (negative, r) := readSign r
      let ds := r.takeWhile isDigit
      if ds.isEmpty then none
      else
        let n : Int := ofDigits ds
        some (if negative then -n else n, true, r.dropWhile isDigit)
    else some (0, false, c :: r)
  | [] => some (0, false, [])

/-- Appends digits to a number up to the first that does not leave it in a machine word. -/
def keepDigits (n : Nat) : List Char → Nat × List Char
  | [] => (n, [])
  | c :: r =>
    if 10 * n + digitValue c < UInt64.size then keepDigits (10 * n + digitValue c) r else (n, c :: r)

/-- A number of kept digits. Digits that are dropped before the point still count as places. -/
def takeUnsigned (negative : Bool) (s : List Char) : Option (Written × List Char) := do
  let (whole, r) ← takeWhole s
  let (fraction, r) ← takeFraction r
  let (e, marked, r) ← takeExponent r
  let (n, dropped) := keepDigits 0 whole
  let (n, unused) := keepDigits n fraction
  let places : Int := (fraction.length - unused.length : Nat)
  let d : Decimal := ⟨negative, n, e + dropped.length - places⟩
  pure (.number (fraction.isEmpty && !marked && dropped.isEmpty) d, r)

def takeNumber : List Char → Option (Written × List Char)
  | '-' :: r => takeUnsigned true r
  | s => takeUnsigned false s

namespace Written

mutual

/-- A value after any white space; `fuel` bounds the characters that may be taken. -/
def take : Nat → List Char → Option (Written × List Char)
  | 0, _ => none
  | fuel + 1, s =>
    match skipSpace s with
    | 'n' :: 'u' :: 'l' :: 'l' :: r => some (.null, r)
    | 't' :: 'r' :: 'u' :: 'e' :: r => some (.bool true, r)
    | 'f' :: 'a' :: 'l' :: 's' :: 'e' :: r => some (.bool false, r)
    | '"' :: r => (takeString r).map fun (s, r) => (.string s, r)
    | '[' :: r =>
      match skipSpace r with
      | ']' :: r => some (.array [], r)
      | r => (takeItems fuel r).map fun (items, r) => (.array items, r)
    | '\x7b' :: r =>
      match skipSpace r with
      | '\x7d' :: r => some (.object [], r)
      | r => (takeMembers fuel r).map fun (members, r) => (.object members, r)
    | r => takeNumber r

/-- Items up to the closing bracket. -/
def takeItems : Nat → List Char → Option (List Written × List Char)
  | 0, _ => none
  | fuel + 1, s => do
    let (x, r) ← take fuel s
    match skipSpace r with
    | ',' :: r => do
      let (xs, r) ← takeItems fuel r
      pure (x :: xs, r)
    | ']' :: r => pure ([x], r)
    | _ => none

/-- Members up to the closing brace. -/
def takeMembers : Nat → List Char → Option (List (Option String × Written) × List Char)
  | 0, _ => none
  | fuel + 1, s =>
    match skipSpace s with
    | '"' :: r => do
      let (n, r) ← takeString r
      match skipSpace r with
      | ':' :: r => do
        let (x, r) ← take fuel r
        match skipSpace r with
        | ',' :: r => do
          let (xs, r) ← takeMembers fuel r
          pure ((n, x) :: xs, r)
        | '\x7d' :: r => pure ([(n, x)], r)
        | _ => none
      | _ => none
    | _ => none

end

/-- Reads a whole document: one value with nothing but white space around it. -/
def read? (s : String) : Option Written := do
  let cs := s.toList
  let (x, r) ← take (cs.length + 1) cs
  if (skipSpace r).isEmpty then pure x else none

end Written

/-- A number with neither point nor exponent is an integer if it is one of 64 bits, with a sign or
without; zero with a minus sign is not. What is too large for a double is no number. -/
def numberOf (whole : Bool) (d : Decimal) : Option Json :=
  let i : Int := if d.negative then -(d.coefficient : Int) else d.coefficient
  if whole ∧ leastInteger ≤ i ∧ i ≤ greatestInteger ∧ ¬(d.negative ∧ d.coefficient = 0) then
    some (.integer i)
  else
    let v := Double.ofNumeral d
    if v.isFinite then some (.real v) else none

mutual

/-- The value of a document whose arrays and objects nest at most `depth` deep. Of repeated names
the last one stays. -/
def ofWritten (depth : Nat) : Written → Option Json
  | .null => some .null
  | .bool b => some (.bool b)
  | .number whole d => numberOf whole d
  | .string s => s.map .string
  | .array items =>
    match depth with
    | 0 => none
    | depth + 1 => (itemsOfWritten depth items).map .array
  | .object members =>
    match depth with
    | 0 => none
    | depth + 1 => (membersOfWritten depth members).map obj

def itemsOfWritten (depth : Nat) : List Written → Option (List Json)
  | [] => some []
  | x :: r => do
    let x ← ofWritten depth x
    let r ← itemsOfWritten depth r
    pure (x :: r)

def membersOfWritten (depth : Nat) : List (Option String × Written) → Option (List (String × Json))
  | [] => some []
  | (n, x) :: r => do
    let n ← n
    let x ← ofWritten depth x
    let r ← membersOfWritten depth r
    pure ((n, x) :: r)

end

/-- Arrays and objects may nest this deep. -/
def depthLimit : Nat := 127

/-- Reads a JSON text as a value. -/
def read? (s : String) : Option Json := (Written.read? s).bind (ofWritten depthLimit)

end Causeway.Json
