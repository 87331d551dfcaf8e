import Causeway.Yaml.Scalar

/-!
Tokens of YAML texts. Indentation becomes brackets around block collections, and a scalar turns out to
be a key when a colon follows it on its line.
-/

namespace Causeway.Yaml

inductive Token where
  | streamEnd
  | directive
  | documentStart
  | documentEnd
  | blockSequence
  | blockMapping
  | blockEnd
  | flowSequence
  | flowSequenceEnd
  | flowMapping
  | flowMappingEnd
  | blockEntry
  | flowEntry
  | key
  | value
  | alias (name : String)
  | anchor (name : String)
  | tag (name : String)
  | scalar (plain : Bool) (text : String)
  deriving DecidableEq, Repr

/-- A place where a key may have begun. -/
structure KeyStart where
  required : Bool
  /-- The number of tokens before it. -/
  token : Nat
  line : Nat
  column : Nat
  index : Nat

structure Lexer where
  cursor : Cursor
  tokens : Array Token := #[]
  /-- One below the first column while no block collection is open. -/
  indent : Int := -1
  outer : List Int := []
  /-- Whether a key may begin here. -/
  keyAllowed : Bool := true
  /-- The key that may have begun at this level. -/
  keyStart : Option KeyStart := none
  /-- The same for the levels around the open flow collections. -/
  outerKeys : List (Option KeyStart) := []

namespace Lexer

def inFlow (l : Lexer) : Bool := !l.outerKeys.isEmpty

def push (l : Lexer) (t : Token) : Lexer := { l with tokens := l.tokens.push t }

def insertAt (l : Lexer) (i : Nat) (t : Token) : Lexer :=
  { l with tokens := l.tokens.take i ++ #[t] ++ l.tokens.drop i }

/-- A key that had to be one and was not is an error. -/
def dropKey (l : Lexer) : Option Lexer :=
  if l.keyStart.any (·.required) then none else some { l with keyStart := none }

def saveKey (l : Lexer) : Option Lexer :=
  if !l.keyAllowed then some l
  else do
    let required := !l.inFlow && l.indent == (l.cursor.column : Int)
    let l ← l.dropKey
    let c := l.cursor
    some { l with keyStart := some ⟨required, l.tokens.size, c.line, c.column, c.index⟩ }

/-- A key ends on its line, at most 1024 characters on. -/
def dropStaleKey (l : Lexer) : Option Lexer :=
  match l.keyStart with
  | some k =>
    if k.line < l.cursor.line || k.index + 1024 < l.cursor.index then l.dropKey else some l
  | none => some l

def isStale (l : Lexer) (k : KeyStart) : Bool :=
  k.line < l.cursor.line || k.index + 1024 < l.cursor.index

/-- Keys of outer levels that can no longer be keys are forgotten, too. -/
def dropStaleKeys (l : Lexer) : Option Lexer := do
  let l ← l.dropStaleKey
  let outerKeys ← l.outerKeys.mapM fun k? =>
    match k? with
    | some k => if l.isStale k then if k.required then none else some none else some (some k)
    | none => some none
  some { l with outerKeys }

/-- Opens a block collection at a column that is deeper than the present one. -/
def openBlock (l : Lexer) (column : Nat) (at? : Option Nat) (t : Token) : Lexer :=
  if l.inFlow || (column : Int) ≤ l.indent then l
  else
    let l := { l with indent := column, outer := l.indent :: l.outer }
    match at? with
    | some i => l.insertAt i t
    | none => l.push t

/-- Closes the block collections deeper than a column. -/
def closeBlocks (l : Lexer) (column : Int) : Lexer :=
  if l.inFlow then l
  else go l l.outer
where
  go (l : Lexer) : List Int → Lexer
    | [] => l
    | i :: r =>
      if l.indent ≤ column then l
      else go { (l.push .blockEnd) with indent := i, outer := r } r

/-- Passes over white space, comments and line breaks; after a break a key may begin again. A tab is
no indentation. -/
def skipToToken (l : Lexer) : Nat → Lexer
  | 0 => l
  | fuel + 1 =>
    match l.cursor.rest with
    | [] => l
    | c :: _ =>
      if c = ' ' ∨ (c = '\t' ∧ (l.inFlow ∨ !l.keyAllowed)) then
        skipToToken { l with cursor := l.cursor.skip 1 } fuel
      else if c = '#' then skipToToken { l with cursor := l.cursor.skipToBreak } fuel
      else if isBreak c then
        skipToToken
          { l with cursor := l.cursor.takeBreak.2, keyAllowed := l.keyAllowed || !l.inFlow } fuel
      else l

/-- A token of fixed width. -/
def mark (l : Lexer) (width : Nat) (t : Token) : Lexer :=
  { (l.push t) with cursor := l.cursor.skip width }

/-- Ends all block collections for a mark between documents. -/
def betweenDocuments (l : Lexer) : Option Lexer := do
  let l ← (l.closeBlocks (-1)).dropKey
  some { l with keyAllowed := false }

def openFlow (l : Lexer) (t : Token) : Option Lexer := do
  let l ← l.saveKey
  some { (l.mark 1 t) with
    outerKeys := l.keyStart :: l.outerKeys, keyStart := none, keyAllowed := true }

def closeFlow (l : Lexer) (t : Token) : Option Lexer := do
  let l ← l.dropKey
  let l := { l with
    keyStart := l.outerKeys.head?.getD none, outerKeys := l.outerKeys.tail, keyAllowed := false }
  some (l.mark 1 t)

def flowEntry (l : Lexer) : Option Lexer := do
  let l ← l.dropKey
  some { (l.mark 1 .flowEntry) with keyAllowed := true }

def blockEntry (l : Lexer) : Option Lexer := do
  if !l.inFlow && !l.keyAllowed then none
  let l ← (l.openBlock l.cursor.column none .blockSequence).dropKey
  some { (l.mark 1 .blockEntry) with keyAllowed := true }

def explicitKey (l : Lexer) : Option Lexer := do
  if !l.inFlow && !l.keyAllowed then none
  let l ← (l.openBlock l.cursor.column none .blockMapping).dropKey
  some { (l.mark 1 .key) with keyAllowed := !l.inFlow }

/-- A colon makes a key of what has begun before it, if that may be one. -/
def valueMark (l : Lexer) : Option Lexer := do
  match l.keyStart with
  | some k =>
    let l := (l.insertAt k.token .key).openBlock k.column (some k.token) .blockMapping
    some { (l.mark 1 .value) with keyStart := none, keyAllowed := false }
  | none =>
    if !l.inFlow && !l.keyAllowed then none
    let l := l.openBlock l.cursor.column none .blockMapping
    some { (l.mark 1 .value) with keyAllowed := !l.inFlow }

def isNameChar (c : Char) : Bool := c.isAlphanum || c == '_' || c == '-'

/-- The name of an anchor or an alias after its mark. -/
def nameToken (l : Lexer) (f : String → Token) : Option Lexer := do
  let l ← l.saveKey
  let name := (l.cursor.rest.drop 1).takeWhile isNameChar
  let after := l.cursor.peek (name.length + 1)
  if name.isEmpty then none
  if !(endsWord after || after.any fun c => "?:,]\x7d%@`".toList.contains c) then none
  some { (l.mark (name.length + 1) (f (String.ofList name))) with keyAllowed := false }

/-- A tag, up to white space; in a flow collection a comma ends it, too. -/
def tagToken (l : Lexer) : Option Lexer := do
  let l ← l.saveKey
  let name := l.cursor.rest.takeWhile fun c =>
    !(isSpace c || isBreak c || (l.inFlow && isFlowMark c))
  some { (l.mark name.length (.tag (String.ofList name))) with keyAllowed := false }

def plainToken (l : Lexer) : Option Lexer := do
  let l ← l.saveKey
  let indent := (l.indent + 1).toNat
  let (text, broken, cursor) ←
    takePlain indent l.inFlow (l.cursor.rest.length + 1) l.cursor {} []
  some { (l.push (.scalar true (String.ofList text))) with cursor, keyAllowed := broken }

def quotedToken (l : Lexer) (quote : Char) : Option Lexer := do
  let l ← l.saveKey
  let (text, cursor) ← takeQuoted quote (l.cursor.rest.length + 1) (l.cursor.skip 1) []
  some { (l.push (.scalar false (String.ofList text))) with cursor, keyAllowed := false }

def blockToken (l : Lexer) (literal : Bool) : Option Lexer := do
  let l ← l.dropKey
  let (text, cursor) ← takeBlock literal (l.indent + 1).toNat (l.cursor.skip 1)
  some { (l.push (.scalar false (String.ofList text))) with cursor, keyAllowed := true }

/-- A directive: of the version of the language, or of tags. -/
def directiveToken (l : Lexer) : Option Lexer := do
  let l ← l.betweenDocuments
  let c := l.cursor
  if c.startsWith "%YAML 1.1" || c.startsWith "%YAML 1.2" || c.startsWith "%TAG " then
    some { (l.push .directive) with cursor := c.skipToBreak }
  else none

def documentToken (l : Lexer) (t : Token) : Option Lexer := do
  let l ← l.betweenDocuments
  some (l.mark 3 t)

/-- Characters with which no plain scalar begins. -/
def isIndicator (c : Char) : Bool := "-?:,[]\x7b\x7d#&*!|>'\"%@`".toList.contains c

/-- Whether a plain scalar may begin with a character that another one follows. -/
def startsPlain (l : Lexer) (c : Char) (next : Option Char) : Bool :=
  (!isIndicator c && !isSpace c) || (c == '-' && !next.any isSpace) ||
    (!l.inFlow && (c == '?' || c == ':') && !endsWord next)

/-- The token at the cursor. -/
def dispatch (l : Lexer) (c : Char) : Option Lexer :=
  let next := l.cursor.peek 1
  if l.cursor.column = 0 ∧ c = '%' then l.directiveToken
  else if l.cursor.atMarker then
    l.documentToken (if c = '-' then .documentStart else .documentEnd)
  else if c = '[' then l.openFlow .flowSequence
  else if c = '\x7b' then l.openFlow .flowMapping
  else if c = ']' then l.closeFlow .flowSequenceEnd
  else if c = '\x7d' then l.closeFlow .flowMappingEnd
  else if c = ',' then l.flowEntry
  else if c = '-' ∧ endsWord next then l.blockEntry
  else if c = '?' ∧ (l.inFlow ∨ endsWord next) then l.explicitKey
  else if c = ':' ∧ (l.inFlow ∨ endsWord next) then l.valueMark
  else if c = '*' then l.nameToken .alias
  else if c = '&' then l.nameToken .anchor
  else if c = '!' then l.tagToken
  else if c = '|' ∧ !l.inFlow then l.blockToken true
  else if c = '>' ∧ !l.inFlow then l.blockToken false
  else if c = '\'' ∨ c = '"' then l.quotedToken c
  else if l.startsPlain c next then l.plainToken
  else none

/-- Takes tokens up to the end of the text. -/
def takeAll : Nat → Lexer → Option Lexer
  | 0, _ => none
  | fuel + 1, l => do
    let l ← (l.skipToToken (l.cursor.rest.length + 1)).dropStaleKeys
    let l := l.closeBlocks l.cursor.column
    match l.cursor.rest with
    | [] =>
      let l ← (l.closeBlocks (-1)).dropKey
      some (l.push .streamEnd)
    | c :: _ => (l.dispatch c).bind (takeAll fuel)

end Lexer

/-- The tokens of a text, a byte order mark in front of it passed over. -/
def tokensOf (s : String) : Option (List Token) :=
  let cs := match s.toList with
    | '\uFEFF' :: r => r
    | r => r
  if cs.all isAllowed then
    (Lexer.takeAll (cs.length + 2) { cursor := { rest := cs } }).map (·.tokens.toList)
  else none

end Causeway.Yaml
