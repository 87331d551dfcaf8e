import Causeway.Sprite.Player

/-!
Index scripts: the windows of sprites that a data source feeds to a player, and what ends them early.
`Script.playOn` plays a script up to the first failure.
-/

namespace Causeway

/-- Windows of sprites in the order in which they are played; a failure of the data source itself
comes after them. -/
structure Script where
  windows : List (List Sprite) := []
  failure : Option Error := none
  deriving Inhabited

namespace Script

variable {σ : Type}

/-- Plays windows up to the first failure of the player. -/
def playWindows (p : Player σ) (st : σ) : List (List Sprite) → σ × Except Error Unit
  | [] => (st, .ok ())
  | w :: r =>
    match p.playBatch st w with
    | (st, .ok _) => playWindows p st r
    | (st, .error e) => (st, .error e)

def playOn (s : Script) (p : Player σ) (st : σ) : σ × Except Error Unit :=
  match playWindows p st s.windows with
  | (st, .error e) => (st, .error e)
  | (st, .ok ()) =>
    match s.failure with
    | some e => (st, .error e)
    | none => (st, .ok ())

end Script

/-- Cuts a list into runs of `size` elements, the last one of what is left. -/
def chunksOf {α : Type} (size : Nat) (l : List α) : List (List α) :=
  if _h : l = [] ∨ size = 0 then []
  else l.take size :: chunksOf size (l.drop size)
  termination_by l.length
  decreasing_by
    have hl : 0 < l.length := List.length_pos_iff.2 fun he => _h (.inl he)
    have hs : 0 < size := Nat.pos_of_ne_zero fun he => _h (.inr he)
    simp only [List.length_drop]
    omega

end Causeway
