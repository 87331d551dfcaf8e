import Causeway.Yaml.Token

/-!
The trees that YAML documents denote: scalars, sequences and mappings, with aliases replaced by what
they name.
-/

namespace Causeway.Yaml

inductive Tree where
  | scalar (plain : Bool) (tag : Option String) (text : String)
  | sequence (tag : Option String) (items : List Tree)
  | mapping (tag : Option String) (members : List (Tree × Tree))
  deriving Repr, Inhabited

namespace Tree

/-- Stands where a value is left out. -/
def absent : Tree := .scalar true none ""

end Tree

/-- The tokens still to be read and the anchors seen. -/
structure TreeState where
  tokens : List Token
  anchors : List (String × Tree) := []

abbrev TreeReader := StateT TreeState Option

namespace TreeReader

def peek : TreeReader Token := fun st => some (st.tokens.headD .streamEnd, st)

def drop : TreeReader Unit := fun st => some ((), { st with tokens := st.tokens.tail })

/-- Drops the next token if it is `t`. -/
def accept (t : Token) : TreeReader Bool := fun st =>
  match st.tokens with
  | u :: r => if u = t then some (true, { st with tokens := r }) else some (false, st)
  | [] => some (false, st)

def expect (t : Token) : TreeReader Unit := do
  if ← accept t then pure () else failure

def name (anchor : String) (x : Tree) : TreeReader Unit := fun st =>
  some ((), { st with anchors := (anchor, x) :: st.anchors })

def named (anchor : String) : TreeReader Tree := fun st =>
  (st.anchors.lookup anchor).map (·, st)

/-- An anchor and a tag, in either order. -/
def properties : TreeReader (Option String × Option String) := do
  match ← peek with
  | .anchor a =>
    drop
    match ← peek with
    | .tag t => do drop; pure (some a, some t)
    | _ => pure (some a, none)
  | .tag t =>
    drop
    match ← peek with
    | .anchor a => do drop; pure (some a, some t)
    | _ => pure (none, some t)
  | _ => pure (none, none)

mutual

/-- One node. `block` allows block collections, `indentless` a sequence at its key's column. -/
def node : Nat → Bool → Bool → TreeReader Tree
  | 0, _, _ => failure
  | fuel + 1, block, indentless => do
    match ← peek with
    | .alias a => do drop; named a
    | _ => do
      let (anchor, tag) ← properties
      let x ← content fuel block indentless (anchor.isSome || tag.isSome) tag
      match anchor with
      | some a => name a x
      | none => pure ()
      pure x

def content : Nat → Bool → Bool → Bool → Option String → TreeReader Tree
  | 0, _, _, _, _ => failure
  | fuel + 1, block, indentless, marked, tag => do
    match ← peek with
    | .scalar plain text => do drop; pure (.scalar plain tag text)
    | .flowSequence => do drop; .sequence tag <$> flowItems fuel true
    | .flowMapping => do drop; .mapping tag <$> flowMembers fuel true
    | .blockEntry =>
      if indentless then .sequence tag <$> indentlessItems fuel else otherwise marked tag
    | .blockSequence =>
      if block then do drop; .sequence tag <$> blockItems fuel else otherwise marked tag
    | .blockMapping =>
      if block then do drop; .mapping tag <$> blockMembers fuel else otherwise marked tag
    | _ => otherwise marked tag

/-- An anchor or a tag may stand without contents. -/
def otherwise (marked : Bool) (tag : Option String) : TreeReader Tree :=
  if marked then pure (.scalar true tag "") else failure

/-- A node, or nothing where one of `ends` comes next. -/
def nodeUnless : Nat → List Token → Bool → Bool → TreeReader Tree
  | 0, _, _, _ => failure
  | fuel + 1, ends, block, indentless => do
    if ends.contains (← peek) then pure Tree.absent else node fuel block indentless

def blockItems : Nat → TreeReader (List Tree)
  | 0 => failure
  | fuel + 1 => do
    if ← accept .blockEntry then do
      let x ← nodeUnless fuel [.blockEntry, .blockEnd] true false
      let r ← blockItems fuel
      pure (x :: r)
    else do
      expect .blockEnd
      pure []

def indentlessItems : Nat → TreeReader (List Tree)
  | 0 => failure
  | fuel + 1 => do
    if ← accept .blockEntry then do
      let x ← nodeUnless fuel [.blockEntry, .key, .value, .blockEnd] true false
      let r ← indentlessItems fuel
      pure (x :: r)
    else pure []

def blockMembers : Nat → TreeReader (List (Tree × Tree))
  | 0 => failure
  | fuel + 1 => do
    match ← peek with
    | .blockEnd => do drop; pure []
    | .key => do
      drop
      let k ← nodeUnless fuel [.key, .value, .blockEnd] true true
      let x ← blockValue fuel
      let r ← blockMembers fuel
      pure ((k, x) :: r)
    | _ => failure

def blockValue : Nat → TreeReader Tree
  | 0 => failure
  | fuel + 1 => do
    if ← accept .value then nodeUnless fuel [.key, .value, .blockEnd] true true
    else pure Tree.absent

/-- Items up to the closing bracket; a pair alone is a mapping of one member. -/
def flowItems : Nat → Bool → TreeReader (List Tree)
  | 0, _ => failure
  | fuel + 1, first => do
    if ← accept .flowSequenceEnd then pure []
    else do
      if !first then expect .flowEntry
      match ← peek with
      | .flowSequenceEnd => do drop; pure []
      | .key => do
        drop
        let k ← nodeUnless fuel [.value, .flowEntry, .flowSequenceEnd] false false
        let x ← flowValue fuel .flowSequenceEnd
        let r ← flowItems fuel false
        pure (.mapping none [(k, x)] :: r)
      | _ => do
        let x ← node fuel false false
        let r ← flowItems fuel false
        pure (x :: r)

def flowValue : Nat → Token → TreeReader Tree
  | 0, _ => failure
  | fuel + 1, close => do
    if ← accept .value then nodeUnless fuel [.flowEntry, close] false false
    else pure Tree.absent

/-- Members up to the closing brace; a key may stand alone. -/
def flowMembers : Nat → Bool → TreeReader (List (Tree × Tree))
  | 0, _ => failure
  | fuel + 1, first => do
    if ← accept .flowMappingEnd then pure []
    else do
      if !first then expect .flowEntry
      match ← peek with
      | .flowMappingEnd => do drop; pure []
      | .key => do
        drop
        let k ← nodeUnless fuel [.value, .flowEntry, .flowMappingEnd] false false
        let x ← flowValue fuel .flowMappingEnd
        let r ← flowMembers fuel false
        pure ((k, x) :: r)
      | _ => do
        let k ← node fuel false false
        let r ← flowMembers fuel false
        pure ((k, Tree.absent) :: r)

end

/-- Directives and the mark that a document begins with, all of which may be missing. -/
def documentStart : Nat → TreeReader Bool
  | 0 => failure
  | fuel + 1 => do
    match ← peek with
    | .directive => do
      drop
      match ← peek with
      | .directive => documentStart fuel
      | .documentStart => documentStart fuel
      | _ => failure
    | .documentStart => do drop; pure true
    | _ => pure false

def dropEnds : Nat → TreeReader Unit
  | 0 => pure ()
  | fuel + 1 => do if ← accept .documentEnd then dropEnds fuel

/-- The only document of a stream. -/
def document (fuel : Nat) : TreeReader Tree := do
  if (← peek) = .streamEnd then failure
  let marked ← documentStart fuel
  let ends : List Token :=
    if marked then [.directive, .documentStart, .documentEnd, .streamEnd] else []
  let x ← nodeUnless fuel ends true false
  dropEnds fuel
  expect .streamEnd
  pure x

end TreeReader

/-- Reads a text that holds one document. -/
def Tree.read? (s : String) : Option Tree := do
  let tokens ← tokensOf s
  let (x, _) ← (TreeReader.document (6 * tokens.length + 10)).run { tokens }
  pure x

end Causeway.Yaml
