/-!
Finding, cutting and replacing pieces of texts. Occurrences are taken from left to right and do not
overlap.
-/

namespace Causeway.Text

/-- What follows the last occurrence of `marker`. -/
def afterLast? (marker : List Char) : List Char → Option (List Char)
  | [] => if marker.isEmpty then some [] else none
  | c :: r =>
    match afterLast? marker r with
    | some t => some t
    | none => if marker.isPrefixOf (c :: r) then some ((c :: r).drop marker.length) else none

/-- The text after `start`, if it begins so. -/
def withoutStart? (start s : List Char) : Option (List Char) :=
  if start.isPrefixOf s then some (s.drop start.length) else none

/-- The pieces between the occurrences of a separator that is not empty; `skip` counts the
characters of an occurrence that are still to be passed over. -/
def splitAtFrom (sep : List Char) : Nat → List Char → List (List Char)
  | _, [] => [[]]
  | skip + 1, _ :: r => splitAtFrom sep skip r
  | 0, c :: r =>
    if sep.isPrefixOf (c :: r) then [] :: splitAtFrom sep (sep.length - 1) r
    else match splitAtFrom sep 0 r with
      | [] => [[c]]
      | w :: ws => (c :: w) :: ws

/-- An empty separator cuts before, between and after all characters. -/
def splitAt (sep s : List Char) : List (List Char) :=
  if sep.isEmpty then [] :: (s.map ([·]) ++ [[]]) else splitAtFrom sep 0 s

/-- Every occurrence of one character becomes a text. -/
def replaceChar (c : Char) (image : List Char) (s : List Char) : List Char :=
  s.flatMap fun d => if d = c then image else [d]

/-- Only the first occurrence of a character is replaced. -/
def replaceFirst (c d : Char) : List Char → List Char
  | [] => []
  | x :: r => if x = c then d :: r else x :: replaceFirst c d r

end Causeway.Text
