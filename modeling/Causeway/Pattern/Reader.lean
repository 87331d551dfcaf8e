import Causeway.Pattern.Basic

/-!
Reading patterns: characters stand for themselves, `.` for any but a line feed, `^` and `$` for the
ends of the text, brackets for classes; `*`, `+` and `?` repeat, bars separate choices, parentheses
group, and `(?i)` ignores case up to the end of its group.
-/

namespace Causeway.Pattern

def single (anyCase : Bool) (c : Char) : Pattern := .set ⟨[(c.toNat, c.toNat)], false, anyCase⟩

def anyButLineFeed : CharSet := ⟨[(10, 10)], true, false⟩

/-- What a backslash and a letter stand for, if they stand for a class. -/
def classEscape : Char → Option (List (Nat × Nat))
  | 'd' => some [(48, 57)]
  | 'w' => some [(48, 57), (65, 90), (95, 95), (97, 122)]
  | 's' => some [(9, 13), (32, 32)]
  | _ => none

/-- The members of a class up to its closing bracket; `first` allows a bracket as a member. -/
def takeClass : Bool → List Char → Option (List (Nat × Nat) × List Char)
  | _, [] => none
  | first, ']' :: r =>
    if first then (takeClass false r).map fun (l, r) => ((']'.toNat, ']'.toNat) :: l, r)
    else some ([], r)
  | _, '\\' :: c :: r => do
    let (l, r) ← takeClass false r
    match classEscape c with
    | some m => pure (m ++ l, r)
    | none => pure ((c.toNat, c.toNat) :: l, r)
  | _, c :: '-' :: d :: r =>
    if d = ']' then
      some ([(c.toNat, c.toNat), ('-'.toNat, '-'.toNat)], r)
    else if d.toNat < c.toNat then none
    else (takeClass false r).map fun (l, r) => ((c.toNat, d.toNat) :: l, r)
  | _, c :: r => (takeClass false r).map fun (l, r) => ((c.toNat, c.toNat) :: l, r)

def repeated : Pattern → List Char → Option (Pattern × List Char)
  | p, '*' :: r => some (.star p, r)
  | p, '+' :: r => some (.seq p (.star p), r)
  | p, '?' :: r => some (.choice p .empty, r)
  | p, r => some (p, r)

mutual

/-- Choices up to the end of the text or a closing parenthesis. -/
def takeChoices : Nat → Bool → List Char → Option (Pattern × List Char)
  | 0, _, _ => none
  | fuel + 1, anyCase, s => do
    let (p, anyCase, r) ← takeSequence fuel anyCase s
    match r with
    | '|' :: r => do
      let (q, r) ← takeChoices fuel anyCase r
      pure (.choice p q, r)
    | r => pure (p, r)

/-- Pieces up to a bar, a closing parenthesis or the end, and whether case is ignored after them. -/
def takeSequence : Nat → Bool → List Char → Option (Pattern × Bool × List Char)
  | 0, _, _ => none
  | fuel + 1, anyCase, s =>
    match s with
    | [] => some (.empty, anyCase, [])
    | '|' :: r => some (.empty, anyCase, '|' :: r)
    | ')' :: r => some (.empty, anyCase, ')' :: r)
    | '(' :: '?' :: 'i' :: ')' :: r => takeSequence fuel true r
    | s => do
      let (p, r) ← takePiece fuel anyCase s
      let (p, r) ← repeated p r
      let (q, anyCase, r) ← takeSequence fuel anyCase r
      pure (.seq p q, anyCase, r)

/-- One character, class, end of the text or group. -/
def takePiece : Nat → Bool → List Char → Option (Pattern × List Char)
  | 0, _, _ => none
  | fuel + 1, anyCase, s =>
    match s with
    | [] => none
    | '.' :: r => some (.set anyButLineFeed, r)
    | '^' :: r => some (.textStart, r)
    | '$' :: r => some (.textEnd, r)
    | '[' :: '^' :: r => (takeClass true r).map fun (l, r) => (.set ⟨l, true, anyCase⟩, r)
    | '[' :: r => (takeClass true r).map fun (l, r) => (.set ⟨l, false, anyCase⟩, r)
    | '(' :: r =>
      let inner := match r with
        | '?' :: ':' :: r => r
        | r => r
      match takeChoices fuel anyCase inner with
      | some (p, ')' :: r) => some (p, r)
      | _ => none
    | '\\' :: c :: r =>
      match classEscape c with
      | some l => some (.set ⟨l, false, false⟩, r)
      | none => some (single anyCase c, r)
    | c :: r =>
      if c = '*' ∨ c = '+' ∨ c = '?' ∨ c = '\\' then none else some (single anyCase c, r)

end

/-- Reads a whole pattern. -/
def read? (s : String) : Option Pattern :=
  let cs := s.toList
  match takeChoices (3 * cs.length + 3) false cs with
  | some (p, []) => some p
  | _ => none

end Causeway.Pattern
