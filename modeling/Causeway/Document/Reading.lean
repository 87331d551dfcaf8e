import Causeway.NameMap

/-!
Typed contents of documents. A `Reading` says how the nodes of one document format give numbers,
texts, truth values, members and items; records, maps and lists are read alike from all formats.
-/

namespace Causeway

/-- How contents are read out of the nodes of a document format. -/
structure Reading (ν : Type) where
  integer : ν → Option Int
  text : ν → Option String
  bool : ν → Option Bool
  /-- The node, unless it stands for nothing. -/
  present : ν → Option ν
  members : ν → Option (List (String × ν))
  items : ν → Option (List ν)
  /-- The nodes of a record given by position, where the format allows it. -/
  positions : ν → Option (List ν)

namespace Reading

variable {ν : Type} {α : Type}

/-- The one node of each declared name, in the order declared. A declared name that occurs twice
makes the record unreadable; a name that is not declared is passed over. -/
def named (names : List String) (members : List (String × ν)) : Option (List (Option ν)) :=
  names.mapM fun name =>
    match members.filter (·.1 == name) with
    | [] => some none
    | [(_, x)] => some (some x)
    | _ => none

/-- The nodes of a record by position; missing ones only at the end. -/
def placed (names : List String) (items : List ν) : Option (List (Option ν)) :=
  if names.length < items.length then none
  else some (items.map some ++ List.replicate (names.length - items.length) none)

/-- The nodes of a record's fields, given by name or by position. -/
def fields (r : Reading ν) (names : List String) (x : ν) : Option (List (Option ν)) :=
  match r.positions x with
  | some items => placed names items
  | none => (r.members x).bind (named names)

def integerWithin (r : Reading ν) (low high : Int) (x : ν) : Option Int :=
  (r.integer x).filter fun i => low ≤ i && i ≤ high

def listOf (r : Reading ν) (read : ν → Option α) (x : ν) : Option (List α) :=
  (r.items x).bind (·.mapM read)

/-- The last member of a name stays. -/
def mapOf (r : Reading ν) (read : ν → Option α) (x : ν) : Option (NameMap α) := do
  let members ← r.members x
  let entries ← members.mapM fun (n, y) => (read y).map (n, ·)
  pure (NameMap.ofList entries)

/-- A field that must be there. -/
def required (read : ν → Option α) (x : Option ν) : Option α := x.bind read

/-- A field with a value of its own where it is absent. -/
def withDefault (read : ν → Option α) (default : α) : Option ν → Option α
  | some x => read x
  | none => some default

/-- A field that may be absent or stand for nothing. -/
def optional (r : Reading ν) (read : ν → Option α) : Option ν → Option (Option α)
  | none => some none
  | some x =>
    match r.present x with
    | none => some none
    | some y => (read y).map some

end Reading

end Causeway
