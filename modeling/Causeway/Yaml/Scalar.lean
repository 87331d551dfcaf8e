import Causeway.Yaml.Cursor

/-!
Scalars of YAML texts: plain ones, quoted ones and blocks. Words on different lines are joined by
blanks; empty lines between them stay as line feeds.
-/

namespace Causeway.Yaml

/-- White space between two words of a scalar. -/
structure Gap where
  /-- Whether there is a line break in it. -/
  broken : Bool := false
  /-- Blanks, if there is no line break. -/
  spaces : List Char := []
  first : List Char := []
  more : List Char := []

namespace Gap

/-- What two words have between them: one line break becomes a blank, further ones stay. -/
def text (g : Gap) : List Char :=
  if !g.broken then g.spaces
  else if g.first = ['\n'] then if g.more.isEmpty then [' '] else g.more
  else g.first ++ g.more

def addBreak (g : Gap) (c : Char) : Gap :=
  if g.broken then { g with more := g.more ++ [c] } else { broken := true, first := [c] }

def addSpace (g : Gap) (c : Char) : Gap :=
  if g.broken then g else { g with spaces := g.spaces ++ [c] }

/-- Passes over white space. On later lines a tab before column `indent` is no indentation. -/
def take (indent : Nat) : Nat → Cursor → Gap → Option (Gap × Cursor)
  | 0, _, _ => none
  | fuel + 1, c, g =>
    match c.rest with
    | [] => some (g, c)
    | x :: _ =>
      if isSpace x then
        if g.broken && x == '\t' && c.column < indent then none
        else take indent fuel (c.skip 1) (g.addSpace x)
      else if isBreak x then
        let (b, c) := c.takeBreak
        take indent fuel c (g.addBreak b)
      else some (g, c)

end Gap

/-- The characters that structure flow collections. -/
def isFlowMark (c : Char) : Bool := c == ',' || c == '[' || c == ']' || c == '\x7b' || c == '\x7d'

/-- The word at the start of a plain scalar's rest. A colon ends it before white space; in a flow
collection it may not stand before one of its marks. -/
def takeWord (flow : Bool) : List Char → Option (List Char)
  | [] => some []
  | c :: r =>
    if isSpace c || isBreak c then some []
    else if flow && c == ':' && r.head?.any fun d => isFlowMark d || d == '?' then none
    else if (c == ':' && endsWord r.head?) || (flow && isFlowMark c) then some []
    else (takeWord flow r).map (c :: ·)

/-- A plain scalar, whether a line break comes after it, and what follows. -/
def takePlain (indent : Nat) (flow : Bool) :
    Nat → Cursor → Gap → List Char → Option (List Char × Bool × Cursor)
  | 0, _, _, _ => none
  | fuel + 1, c, gap, seen =>
    if c.atMarker || c.peek 0 == some '#' then some (seen, gap.broken, c)
    else
      match takeWord flow c.rest with
      | none => none
      | some [] => some (seen, gap.broken, c)
      | some word => do
        let seen := seen ++ gap.text ++ word
        let c := c.skip word.length
        let (gap, c) ← Gap.take indent (c.rest.length + 1) c {}
        if (!flow && c.column < indent) || c.atEnd then some (seen, gap.broken, c)
        else takePlain indent flow fuel c gap seen

def hexNumber (s : List Char) : Option Nat :=
  s.foldlM (fun n c =>
    if '0' ≤ c ∧ c ≤ '9' then some (16 * n + (c.toNat - 48))
    else if 'a' ≤ c ∧ c ≤ 'f' then some (16 * n + (c.toNat - 87))
    else if 'A' ≤ c ∧ c ≤ 'F' then some (16 * n + (c.toNat - 55))
    else none) 0

def codePoint (s : List Char) (width : Nat) : Option (Char × Nat) := do
  let digits := s.take width
  let n ← hexNumber digits
  if digits.length = width ∧ n.isValidChar then some (Char.ofNat n, width + 2) else none

/-- The character that an escape stands for and the width of the escape, backslash included. -/
def escapeOf : List Char → Option (Char × Nat)
  | 'x' :: r => codePoint r 2
  | 'u' :: r => codePoint r 4
  | 'U' :: r => codePoint r 8
  | c :: _ =>
    let table : List (Char × Nat) := [
      ('0', 0), ('a', 7), ('b', 8), ('t', 9), ('\t', 9), ('n', 10), ('v', 11), ('f', 12),
      ('r', 13), ('e', 27), (' ', 32), ('"', 34), ('/', 47), ('\\', 92), ('N', 0x85), ('_', 0xA0),
      ('L', 0x2028), ('P', 0x2029)]
    (table.lookup c).map fun n => (Char.ofNat n, 2)
  | [] => none

/-- A run of a quoted scalar up to white space, its closing quote or an escaped line break; the flag
tells of the last. -/
def takeQuotedRun (quote : Char) : Nat → Cursor → List Char → Option (List Char × Bool × Cursor)
  | 0, _, _ => none
  | fuel + 1, c, seen =>
    match c.rest with
    | [] => some (seen, false, c)
    | x :: r =>
      if isSpace x || isBreak x then some (seen, false, c)
      else if x = quote then
        if quote = '\'' ∧ r.head? = some '\'' then takeQuotedRun quote fuel (c.skip 2) (seen ++ [x])
        else some (seen, false, c)
      else if quote = '"' ∧ x = '\\' then
        if r.head?.any isBreak then some (seen, true, (c.skip 1).takeBreak.2)
        else do
          let (y, width) ← escapeOf r
          takeQuotedRun quote fuel (c.skip width) (seen ++ [y])
      else takeQuotedRun quote fuel (c.skip 1) (seen ++ [x])

/-- A quoted scalar after its opening quote. -/
def takeQuoted (quote : Char) : Nat → Cursor → List Char → Option (List Char × Cursor)
  | 0, _, _ => none
  | fuel + 1, c, seen =>
    if c.atMarker || c.atEnd then none
    else do
      let (run, escaped, c) ← takeQuotedRun quote (c.rest.length + 1) c []
      let seen := seen ++ run
      if c.peek 0 = some quote then some (seen, c.skip 1)
      else
        let (gap, c) ← Gap.take 0 (c.rest.length + 1) c { broken := escaped }
        takeQuoted quote fuel c (seen ++ gap.text)

/-- What becomes of the line breaks at the end of a block. -/
inductive Chomping where
  | strip
  | clip
  | keep
  deriving DecidableEq

/-- Chomping and indentation in the header of a block, in either order. -/
def blockHeader (c : Cursor) : Option (Chomping × Nat × Cursor) :=
  let chomping (c : Cursor) : Option (Chomping × Cursor) :=
    match c.peek 0 with
    | some '+' => some (.keep, c.skip 1)
    | some '-' => some (.strip, c.skip 1)
    | _ => none
  let width (c : Cursor) : Option (Nat × Cursor) :=
    match c.peek 0 with
    | some d => if '0' ≤ d ∧ d ≤ '9' then some (d.toNat - 48, c.skip 1) else none
    | none => none
  let header := match chomping c with
    | some (k, c) =>
      match width c with
      | some (n, c) => (k, some n, c)
      | none => (k, none, c)
    | none =>
      match width c with
      | some (n, c) =>
        match chomping c with
        | some (k, c) => (k, some n, c)
        | none => (.clip, some n, c)
      | none => (.clip, none, c)
  match header with
  | (_, some 0, _) => none
  | (k, n, c) =>
    let c := c.skipSpaces
    let c := if c.peek 0 = some '#' then c.skipToBreak else c
    match c.rest with
    | [] => some (k, n.getD 0, c)
    | x :: _ => if isBreak x then some (k, n.getD 0, c.takeBreak.2) else none

/-- Passes over empty lines. An indentation of zero is not known yet; then the deepest is sought. -/
def takeBlockBreaks (indent : Nat) :
    Nat → Cursor → Nat → List Char → Option (Nat × List Char × Cursor)
  | 0, _, _, _ => none
  | fuel + 1, c, deepest, breaks =>
    let inside (c : Cursor) : Bool := indent = 0 || c.column < indent
    let spaces := (c.rest.takeWhile (· == ' ')).length
    let c := c.skip (if indent = 0 then spaces else min spaces (indent - c.column))
    let deepest := max deepest c.column
    match c.rest with
    | [] => some (deepest, breaks, c)
    | x :: _ =>
      if inside c && x == '\t' then none
      else if isBreak x then
        let (b, c) := c.takeBreak
        takeBlockBreaks indent fuel c deepest (breaks ++ [b])
      else some (deepest, breaks, c)

/-- The lines of a block. `lead` is the break after the line before, `trail` are the empty lines after
it, and `blank` tells whether it began with white space. -/
def takeBlockLines (literal : Bool) (indent : Nat) :
    Nat → Cursor → List Char → List Char → Bool → List Char →
      Option (List Char × List Char × List Char × Cursor)
  | 0, _, _, _, _, _ => none
  | fuel + 1, c, lead, trail, blank, seen =>
    if c.column ≠ indent ∨ c.atEnd then some (seen, lead, trail, c)
    else
      let nowBlank := (c.peek 0).any isSpace
      let joint :=
        if !literal && lead == ['\n'] && !blank && !nowBlank then
          if trail.isEmpty then [' '] else []
        else lead
      let line := c.rest.takeWhile fun x => !isBreak x
      let c := c.skip line.length
      let seen := seen ++ joint ++ trail ++ line
      let (lead, c) := if c.atEnd then ([], c) else
        let (b, c) := c.takeBreak
        ([b], c)
      match takeBlockBreaks indent (c.rest.length + 1) c 0 [] with
      | none => none
      | some (_, trail, c) => takeBlockLines literal indent fuel c lead trail nowBlank seen

/-- A block after its mark, inside a collection of indentation `parent` less one. -/
def takeBlock (literal : Bool) (parent : Nat) (c : Cursor) : Option (List Char × Cursor) := do
  let (chomping, width, c) ← blockHeader c
  let known := if width = 0 then 0 else parent - 1 + width
  let (deepest, trail, c) ← takeBlockBreaks known (c.rest.length + 1) c 0 []
  let indent := if known = 0 then max deepest (max parent 1) else known
  let (seen, lead, trail, c) ← takeBlockLines literal indent (c.rest.length + 1) c [] trail false []
  match chomping with
  | .strip => some (seen, c)
  | .clip => some (seen ++ lead, c)
  | .keep => some (seen ++ lead ++ trail, c)

end Causeway.Yaml
