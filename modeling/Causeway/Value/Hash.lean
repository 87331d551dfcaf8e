import Causeway.Value.Basic

/-!
What a value feeds to a hash function: its variant, then its contents, lists and maps with their
sizes in front. A raw payload is fed as its compact text.
-/

namespace Causeway.Value

/-- One piece of input to a hash function. -/
inductive HashInput where
  | variant (n : Nat)
  | size (n : Nat)
  | flag (b : Bool)
  | word (n : Int)
  | text (s : String)
  deriving DecidableEq, Repr

mutual

def hashInputs : Value → List HashInput
  | .null => [.variant 0]
  | .bool b => [.variant 1, .flag b]
  | .int i => [.variant 2, .word i.toInt]
  | .float d => [.variant 3, .word d.bits.toNat]
  | .string s => [.variant 4, .text s]
  | .date i => [.variant 5, .word i.seconds, .word i.nanos]
  | .list items => .variant 6 :: .size items.length :: itemHashInputs items
  | .map entries => .variant 7 :: .size entries.length :: entryHashInputs entries
  | .raw j => [.variant 8, .text j.text]

def itemHashInputs : List Value → List HashInput
  | [] => []
  | x :: r => hashInputs x ++ itemHashInputs r

def entryHashInputs : List (String × Value) → List HashInput
  | [] => []
  | (n, x) :: r => .text n :: (hashInputs x ++ entryHashInputs r)

end

end Causeway.Value
