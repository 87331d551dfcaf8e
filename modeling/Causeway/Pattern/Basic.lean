import Causeway.Text.Fold

/-!
Patterns over texts: sets of characters, the two ends of the text, sequence, choice and repetition.
`Pattern.isFoundIn` searches a text for a part that the pattern matches.
-/

namespace Causeway

/-- A set of characters, given by closed intervals of code points. -/
structure CharSet where
  intervals : List (Nat × Nat)
  negated : Bool := false
  /-- Whether case is ignored. -/
  anyCase : Bool := false
  deriving DecidableEq, Repr

namespace CharSet

def contains (s : CharSet) (c : Char) : Bool :=
  let inside :=
    if s.anyCase then (Text.caseVariants c.toNat).any (Text.inIntervals s.intervals)
    else Text.inIntervals s.intervals c.toNat
  inside != s.negated

end CharSet

inductive Pattern where
  | empty
  | textStart
  | textEnd
  | set (s : CharSet)
  | seq (p q : Pattern)
  | choice (p q : Pattern)
  | star (p : Pattern)
  deriving DecidableEq, Repr

namespace Pattern

/-- All positions that steps of `next` reach from the frontier, `fuel` of them at most. -/
def closure (next : Nat → List Nat) : Nat → List Nat → List Nat → List Nat
  | 0, seen, _ => seen
  | fuel + 1, seen, frontier =>
    let fresh := (frontier.flatMap next).eraseDups.filter fun i => !seen.contains i
    if fresh.isEmpty then seen else closure next fuel (seen ++ fresh) fresh

/-- The positions at which a match that begins at a position may end. -/
def ends (text : Array Char) : Pattern → Nat → List Nat
  | .empty, i => [i]
  | .textStart, i => if i = 0 then [i] else []
  | .textEnd, i => if i = text.size then [i] else []
  | .set s, i =>
    match text[i]? with
    | some c => if s.contains c then [i + 1] else []
    | none => []
  | .seq p q, i => ((ends text p i).flatMap (ends text q)).eraseDups
  | .choice p q, i => (ends text p i ++ ends text q i).eraseDups
  | .star p, i => closure (ends text p) (text.size + 1) [i] [i]

/-- Whether some part of the text matches. -/
def isFoundIn (p : Pattern) (text : String) : Bool :=
  let cs := text.toList.toArray
  (List.range (cs.size + 1)).any fun i => !(ends cs p i).isEmpty

end Pattern

end Causeway
