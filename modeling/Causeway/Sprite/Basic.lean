import Causeway.Error
import Causeway.Pattern.Basic
import Causeway.Text.Search
import Causeway.Value.Extract
import Causeway.Value.Hash

/-!
Sprites: records whose fields hold several values each, in order. Adding skips nulls and blank
texts; a field without values is not there.
-/

namespace Causeway

/-- A record with several values to a field. -/
structure Sprite where
  fields : NameMap (List Value)
  deriving Inhabited

/-- How the values of a field are joined. -/
structure JoinOptions where
  separator : String := ", "
  before : String := ""
  after : String := ""
  /-- The most values to join. -/
  limit : Option Nat := none
  /-- Stands for the values that the limit left out. -/
  ellipsis : String := "..."

namespace Sprite

def empty : Sprite := ⟨NameMap.empty⟩

def valuesAt (s : Sprite) (field : String) : List Value := (s.fields.get? field).getD []

def hasField (s : Sprite) (field : String) : Bool := s.fields.contains field

def hasValue (s : Sprite) (field : String) (v : Value) : Bool := (s.valuesAt field).contains v

def sizeOf (s : Sprite) (field : String) : Nat := (s.valuesAt field).length

def isEmpty (s : Sprite) : Bool := s.fields.isEmpty

def fieldNames (s : Sprite) : List String := s.fields.names

/-- The fields whose names are selected, in name order. -/
def fieldsWhere (s : Sprite) (selects : String → Bool) : List String :=
  s.fieldNames.filter selects

def fieldsMatching (s : Sprite) (p : Pattern) : List String := s.fieldsWhere p.isFoundIn

/-- Puts values behind those of a field. -/
def extend (s : Sprite) (field : String) (values : List Value) : Sprite :=
  ⟨s.fields.update field fun old => old.getD [] ++ values⟩

/-- Appends one value unless it is blank. -/
def push (s : Sprite) (field : String) (v : Value) : Sprite :=
  if v.isBlank then s else s.extend field [v]

def pushAll (s : Sprite) (field : String) (values : List Value) : Sprite :=
  values.foldl (fun s v => s.push field v) s

/-- A list stands for its items, any other value for itself. -/
def flatten : Value → List Value
  | .list items => items
  | v => [v]

def add (s : Sprite) (field : String) (v : Value) : Sprite := s.pushAll field (flatten v)

def addAll (s : Sprite) (field : String) (values : List Value) : Sprite :=
  values.foldl (fun s v => s.add field v) s

/-- Appends one value unless it is blank or there already. -/
def pushNew (s : Sprite) (field : String) (v : Value) : Sprite :=
  if s.hasValue field v then s else s.push field v

def addIfNotExists (s : Sprite) (field : String) (v : Value) : Sprite :=
  (flatten v).foldl (fun s v => s.pushNew field v) s

def addAllIfNotExists (s : Sprite) (field : String) (values : List Value) : Sprite :=
  values.foldl (fun s v => s.addIfNotExists field v) s

def load (s : Sprite) (entries : List (String × Value)) : Sprite :=
  entries.foldl (fun s (field, v) => s.add field v) s

def remove (s : Sprite) (field : String) : Sprite := ⟨s.fields.erase field⟩

/-- Drops the first occurrence of a value, and the field with its last value. -/
def removeValue (s : Sprite) (field : String) (v : Value) : Sprite :=
  match s.fields.get? field with
  | none => s
  | some values =>
    let rest := values.eraseP (· == v)
    if rest.isEmpty then s.remove field else ⟨s.fields.insert field rest⟩

def removeWhere (s : Sprite) (selects : String → Bool) : Sprite :=
  ⟨s.fields.filter fun e => !selects e.1⟩

def removeMatching (s : Sprite) (p : Pattern) : Sprite := s.removeWhere p.isFoundIn

/-- Moves the values of one field behind those of another. -/
def rename (s : Sprite) (source target : String) : Sprite :=
  if source = target then s
  else match s.fields.get? source with
    | none => s
    | some values => (s.remove source).extend target values

/-- Renames the selected fields one after the other, in name order. -/
def renameWhere (s : Sprite) (selects : String → Bool) (newName : String → String) : Sprite :=
  (s.fieldsWhere selects).foldl (fun s field => s.rename field (newName field)) s

def renameMatching (s : Sprite) (p : Pattern) (newName : String → String) : Sprite :=
  s.renameWhere p.isFoundIn newName

/-- Puts the values of one field behind those of another, and keeps them. -/
def copy (s : Sprite) (source target : String) : Sprite :=
  match s.fields.get? source with
  | none => s
  | some values => s.extend target values

/-- Replaces every value of a field by its image. -/
def apply (s : Sprite) (field : String) (f : Value → Value) : Sprite :=
  (s.remove field).pushAll field ((s.valuesAt field).map f)

def applyWhere (s : Sprite) (selects : String → Bool) (f : Value → Value) : Sprite :=
  (s.fieldsWhere selects).foldl (fun s field => s.apply field f) s

def applyMatching (s : Sprite) (p : Pattern) (f : Value → Value) : Sprite :=
  s.applyWhere p.isFoundIn f

/-- Appends the images of one field's values to another. -/
def applyTo (s : Sprite) (source : String) (f : Value → Value) (target : String) : Sprite :=
  s.pushAll target ((s.valuesAt source).map f)

/-- The trimmed pieces of a value's text between separators. -/
def pieces (separator : String) (v : Value) : List Value :=
  (Text.splitAt separator.toList v.text.toList).map fun p => .string (String.ofList (Text.trim p))

/-- Replaces the values of a field by the pieces of their texts that are not blank. -/
def splitValues (s : Sprite) (field separator : String) : Sprite :=
  (s.remove field).pushAll field ((s.valuesAt field).flatMap (pieces separator))

/-- The joined text of some values. -/
def joinText (o : JoinOptions) (values : List Value) : String :=
  let count := min (o.limit.getD values.length) values.length
  let kept := Text.joined o.separator ((values.take count).map Value.text)
  let rest := if count < values.length then o.separator ++ o.ellipsis else ""
  o.before ++ kept ++ rest ++ o.after

/-- Replaces the values of a field by one joined text. -/
def joinValuesOf (s : Sprite) (field : String) (o : JoinOptions) : Sprite :=
  match s.fields.get? field with
  | none => s
  | some values => (s.remove field).push field (.string (joinText o values))

def joinValues (s : Sprite) (field separator : String) : Sprite :=
  s.joinValuesOf field { separator }

/-- The first value of a field. -/
def first (s : Sprite) (field : String) : Except Error Value :=
  match (s.valuesAt field).head? with
  | some v => .ok v
  | none => .error (.noSuchField field)

def valueOf (s : Sprite) (field : String) : Except Error String := (s.first field).map Value.text

def extractFrom {α : Type} (x : Extractor α) (field : String) (v : Value) : Except Error α :=
  match x.extract v with
  | some a => .ok a
  | none => .error (.valueType field x.expected)

def rawValueOf {α : Type} (s : Sprite) (x : Extractor α) (field : String) : Except Error α :=
  (s.first field).bind (extractFrom x field)

/-- All values of a field as texts. -/
def valuesOf (s : Sprite) (field : String) : List String := (s.valuesAt field).map Value.text

/-- The texts of all values in matching fields, in name order. -/
def valuesMatching (s : Sprite) (p : Pattern) : List String :=
  (s.fields.entries.filter fun e => p.isFoundIn e.1).flatMap fun e => e.2.map Value.text

def rawValuesOf {α : Type} (s : Sprite) (x : Extractor α) (field : String) :
    Except Error (List α) :=
  match s.fields.get? field with
  | none => .error (.noSuchField field)
  | some values => values.mapM (extractFrom x field)

/-- The first value of every field that has one. -/
def asMap (s : Sprite) : NameMap Value :=
  NameMap.ofList (s.fields.entries.filterMap fun e => e.2.head?.map (e.1, ·))

/-- The first values as texts. -/
def asTextMap (s : Sprite) : NameMap String := s.asMap.map fun _ v => v.text

/-- All pairs of a field and a value. -/
def entries (s : Sprite) : List (String × Value) :=
  s.fields.entries.flatMap fun e => e.2.map (e.1, ·)

def fieldText (e : String × List Value) : String :=
  e.1 ++ "=[" ++ Text.joined ", " (e.2.map Value.text) ++ "]"

def text (s : Sprite) : String :=
  "Sprite\x7b" ++ Text.joined ", " (s.fields.entries.map fieldText) ++ "\x7d"

def fieldsMap (s : Sprite) : Value := .map (s.fields.entries.map fun e => (e.1, .list e.2))

def toJson (s : Sprite) : Json := s.fieldsMap.serialize

/-- Two sprites are equal when their fields hold the same values. -/
def same (s t : Sprite) : Bool :=
  let rec go : List (String × List Value) → List (String × List Value) → Bool
    | [], [] => true
    | (m, a) :: as, (n, b) :: bs => m == n && Value.sameItems a b && go as bs
    | _, _ => false
  go s.fields.entries t.fields.entries

/-- What a sprite feeds to a hash function. -/
def hashInputs (s : Sprite) : List Value.HashInput :=
  .size s.fields.entries.length :: s.fields.entries.flatMap fun e =>
    .text e.1 :: .size e.2.length :: Value.itemHashInputs e.2

end Sprite

end Causeway
