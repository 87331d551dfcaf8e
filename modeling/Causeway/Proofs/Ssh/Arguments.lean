import Causeway.Ssh.Client

/-!
# How the client reads its arguments

The client takes arguments that begin with a dash as options, some of which have a value, up to the
first one that does not: its destination. What stands behind a destination is kept as it is, since the
command lines here end with theirs. Options that are written out are read back, whatever their values
are (`readArguments_written`). A last argument is the destination only if it does not begin with a dash
(`destination?_of_dashed`).
-/

namespace Causeway.Ssh

/-- The letters of the client's options that have a value. -/
def valueLetters : List Char := "BbcDEeFIiJLlmOoPpQRSWw".toList

/-- The letters of its options that have none. -/
def flagLetters : List Char := "1246AaCfGgKkMNnqsTtVvXxYy".toList

/-- What the client is asked for. -/
structure Asked where
  options : List (Char × Option String)
  /-- The destination and what stands behind it. -/
  operands : List String
  deriving DecidableEq

def Asked.add (options : List (Char × Option String)) (r : Asked) : Asked :=
  { r with options := options ++ r.options }

/-- The options of one argument. The last of them may take its value from the next argument. -/
def readCluster : List Char → Option (List (Char × Option String) × Option Char)
  | [] => some ([], none)
  | c :: cs =>
    if c ∈ valueLetters then
      if cs.isEmpty then some ([], some c) else some ([(c, some (String.ofList cs))], none)
    else if c ∈ flagLetters then
      (readCluster cs).map fun (options, wanting) => ((c, none) :: options, wanting)
    else none

/-- Reads arguments, the first of which may be the value of an option. -/
def readArguments : Option Char → List String → Option Asked
  | none, [] => some ⟨[], []⟩
  | some _, [] => none
  | some c, v :: args => (readArguments none args).map (.add [(c, some v)])
  | none, a :: args =>
    if a = "--" then some ⟨[], args⟩
    else match a.toList with
      | '-' :: c :: cs =>
        (readCluster (c :: cs)).bind fun (options, wanting) =>
          (readArguments wanting args).map (.add options)
      | _ => some ⟨[], a :: args⟩

/-- Where a command line leads to. -/
def destination? (args : List String) : Option String :=
  (readArguments none args).bind (·.operands.head?)

/-- A text that begins like an option. -/
def Dashed (s : String) : Prop := s.toList.head? = some '-'

instance (s : String) : Decidable (Dashed s) := inferInstanceAs (Decidable (_ = _))

/-! ### Options that are written out -/

/-- An option as the client has it. -/
def IsOption : Char × Option String → Prop
  | (c, some _) => c ∈ valueLetters
  | (c, none) => c ∈ flagLetters

def written (o : Char × Option String) : List String := String.ofList ['-', o.1] :: o.2.toList

variable {c : Char} {s : String} {options : List (Char × Option String)}

theorem ofList_dash_ne (hc : c ≠ '-') : String.ofList ['-', c] ≠ "--" := by
  intro heq
  have hlist := congrArg String.toList heq
  rw [String.toList_ofList] at hlist
  exact hc (List.cons.inj (List.cons.inj hlist).2).1

theorem not_mem_valueLetters (hc : c ∈ flagLetters) : c ∉ valueLetters := by
  have hdisjoint : flagLetters.filter (· ∈ valueLetters) = [] := by decide
  simpa using List.filter_eq_nil_iff.mp hdisjoint c hc

theorem readArguments_flag (hc : c ∈ flagLetters) (args : List String) :
    readArguments none (String.ofList ['-', c] :: args) =
      (readArguments none args).map (.add [(c, none)]) := by
  have hdash : c ≠ '-' := fun heq => absurd (heq ▸ hc) (by decide)
  rw [readArguments, if_neg (ofList_dash_ne hdash), String.toList_ofList]
  simp [readCluster, hc, not_mem_valueLetters hc]

theorem readArguments_value (hc : c ∈ valueLetters) (v : String) (args : List String) :
    readArguments none (String.ofList ['-', c] :: v :: args) =
      (readArguments none args).map (.add [(c, some v)]) := by
  have hdash : c ≠ '-' := fun heq => absurd (heq ▸ hc) (by decide)
  rw [readArguments, if_neg (ofList_dash_ne hdash), String.toList_ofList]
  simp only [readCluster, if_pos hc, List.isEmpty_nil, if_true, Option.bind_some, readArguments]
  rw [Option.map_map]
  rfl

theorem written_append_flag (c : Char) (args : List String) :
    written (c, none) ++ args = String.ofList ['-', c] :: args := rfl

theorem written_append_value (c : Char) (v : String) (args : List String) :
    written (c, some v) ++ args = String.ofList ['-', c] :: v :: args := rfl

theorem readArguments_written (h : ∀ o ∈ options, IsOption o) (args : List String) :
    readArguments none (options.flatMap written ++ args) =
      (readArguments none args).map (.add options) := by
  induction options with
  | nil => exact Option.map_id'.symm
  | cons o options ih =>
    obtain ⟨ho, hrest⟩ := List.forall_mem_cons.mp h
    rw [List.flatMap_cons, List.append_assoc]
    cases o with
    | mk c v =>
      cases v with
      | none => rw [written_append_flag, readArguments_flag ho, ih hrest, Option.map_map]; rfl
      | some v => rw [written_append_value, readArguments_value ho, ih hrest, Option.map_map]; rfl

/-! ### The last argument -/

theorem readArguments_of_not_dashed (h : ¬Dashed s) : readArguments none [s] = some ⟨[], [s]⟩ := by
  have hend : s ≠ "--" := by
    rintro rfl
    exact h rfl
  rw [readArguments, if_neg hend]
  split
  · rename_i c cs heq
    exact absurd (congrArg List.head? heq) h
  · rfl

theorem Dashed.exists_cons (hs : Dashed s) (hlone : s ≠ "-") :
    ∃ c cs, s.toList = '-' :: c :: cs := by
  unfold Dashed at hs
  match hchars : s.toList with
  | [] => rw [hchars] at hs; cases hs
  | [d] =>
    rw [hchars] at hs
    obtain rfl : d = '-' := Option.some.inj hs
    exact absurd (String.toList_inj.mp hchars) hlone
  | d :: c :: cs =>
    rw [hchars] at hs
    obtain rfl : d = '-' := Option.some.inj hs
    exact ⟨c, cs, rfl⟩

/-- More options and then a dashed argument lead nowhere. -/
theorem destination?_of_dashed (hs : Dashed s) (hlone : s ≠ "-") (h : ∀ o ∈ options, IsOption o) :
    destination? (options.flatMap written ++ [s]) = none := by
  obtain ⟨c, cs, hchars⟩ := hs.exists_cons hlone
  rw [destination?, readArguments_written h, Option.bind_map]
  by_cases hend : s = "--"
  · rw [hend]
    rfl
  · rw [readArguments, if_neg hend]
    split
    · rename_i d ds _
      cases readCluster (d :: ds) with
      | none => rfl
      | some r =>
        obtain ⟨more, _ | wanting⟩ := r <;> rfl
    · rename_i hshort
      exact absurd hchars (hshort c cs)

end Causeway.Ssh
