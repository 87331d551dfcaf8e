import Causeway.Proofs.Value.Written

/-!
# Equality of values

Equality of values does not tell the two apart (`same_comm`), and a well-formed value equals itself
(`same_self`): NaN differs from itself as a number, but floats are compared by their bits, and a raw
payload has finite numbers only.
-/

namespace Causeway

theorem Number.Double.sameNumber_comm (a b : Double) : a.sameNumber b = b.sameNumber a := by
  unfold sameNumber
  cases a.view <;> cases b.view <;> simp only [Bool.beq_comm, Bool.and_comm]

theorem Number.Double.sameNumber_self {a : Double} (h : a.isFinite = true) :
    a.sameNumber a = true := by
  unfold isFinite at h
  unfold sameNumber
  cases hview : a.view <;> simp_all

namespace Json

mutual

theorem same_comm (a b : Json) : a.same b = b.same a := by
  cases a with
  | null => cases b <;> rfl
  | bool x => cases b with
    | bool y => exact BEq.comm
    | _ => rfl
  | integer x => cases b with
    | integer y => exact BEq.comm
    | _ => rfl
  | real x => cases b with
    | real y => exact x.sameNumber_comm y
    | _ => rfl
  | string x => cases b with
    | string y => exact BEq.comm
    | _ => rfl
  | array x => cases b with
    | array y => exact sameItems_comm x y
    | _ => rfl
  | object x => cases b with
    | object y => exact sameMembers_comm x y
    | _ => rfl

theorem sameItems_comm (as bs : List Json) : sameItems as bs = sameItems bs as := by
  cases as with
  | nil => cases bs <;> rfl
  | cons a as => cases bs with
    | nil => rfl
    | cons b bs => rw [sameItems, sameItems, same_comm a b, sameItems_comm as bs]

theorem sameMembers_comm (as bs : List (String × Json)) : sameMembers as bs = sameMembers bs as := by
  cases as with
  | nil => cases bs <;> rfl
  | cons a as => cases bs with
    | nil => rfl
    | cons b bs =>
      obtain ⟨n, x⟩ := a
      obtain ⟨m, y⟩ := b
      rw [sameMembers, sameMembers, BEq.comm (a := n), same_comm x y, sameMembers_comm as bs]

end

mutual

theorem same_self (a : Json) (h : ∀ x ∈ a.leaves, x.IsFinite) : a.same a = true := by
  cases a with
  | null => rfl
  | bool x => exact BEq.rfl
  | integer x => exact BEq.rfl
  | real x => exact Number.Double.sameNumber_self (h (.real x) List.mem_cons_self)
  | string x => exact BEq.rfl
  | array items => exact sameItems_self items h
  | object members => exact sameMembers_self members h

theorem sameItems_self (items : List Json) (h : ∀ x ∈ itemLeaves items, x.IsFinite) :
    sameItems items items = true := by
  cases items with
  | nil => rfl
  | cons a items =>
    obtain ⟨hfirst, hrest⟩ := List.forall_mem_append.mp h
    exact Bool.and_eq_true_iff.mpr ⟨same_self a hfirst, sameItems_self items hrest⟩

theorem sameMembers_self (members : List (String × Json))
    (h : ∀ x ∈ memberLeaves members, x.IsFinite) : sameMembers members members = true := by
  cases members with
  | nil => rfl
  | cons e members =>
    obtain ⟨name, a⟩ := e
    obtain ⟨hfirst, hrest⟩ := List.forall_mem_append.mp h
    exact Bool.and_eq_true_iff.mpr
      ⟨Bool.and_eq_true_iff.mpr ⟨BEq.rfl, same_self a hfirst⟩, sameMembers_self members hrest⟩

end

end Json

namespace Value

mutual

theorem same_comm (a b : Value) : a.same b = b.same a := by
  cases a with
  | null => cases b <;> rfl
  | bool x => cases b with
    | bool y => exact BEq.comm
    | _ => rfl
  | int x => cases b with
    | int y => exact BEq.comm
    | _ => rfl
  | float x => cases b with
    | float y => exact BEq.comm
    | _ => rfl
  | string x => cases b with
    | string y => exact BEq.comm
    | _ => rfl
  | date x => cases b with
    | date y => exact BEq.comm
    | _ => rfl
  | list x => cases b with
    | list y => exact sameItems_comm x y
    | _ => rfl
  | map x => cases b with
    | map y => exact sameEntries_comm x y
    | _ => rfl
  | raw x => cases b with
    | raw y => exact x.same_comm y
    | _ => rfl

theorem sameItems_comm (as bs : List Value) : sameItems as bs = sameItems bs as := by
  cases as with
  | nil => cases bs <;> rfl
  | cons a as => cases bs with
    | nil => rfl
    | cons b bs => rw [sameItems, sameItems, same_comm a b, sameItems_comm as bs]

theorem sameEntries_comm (as bs : List (String × Value)) :
    sameEntries as bs = sameEntries bs as := by
  cases as with
  | nil => cases bs <;> rfl
  | cons a as => cases bs with
    | nil => rfl
    | cons b bs =>
      obtain ⟨n, x⟩ := a
      obtain ⟨m, y⟩ := b
      rw [sameEntries, sameEntries, BEq.comm (a := n), same_comm x y, sameEntries_comm as bs]

end

mutual

theorem same_self (a : Value) (h : a.WellFormed) : a.same a = true := by
  cases a with
  | null => rfl
  | bool x => exact BEq.rfl
  | int x => exact BEq.rfl
  | float x => exact BEq.rfl
  | string x => exact BEq.rfl
  | date x => exact BEq.rfl
  | list items => exact sameItems_self items h
  | map entries => exact sameEntries_self entries h.2
  | raw j => exact j.same_self h

theorem sameItems_self (items : List Value) (h : ItemsWellFormed items) :
    sameItems items items = true := by
  cases items with
  | nil => rfl
  | cons a items =>
    exact Bool.and_eq_true_iff.mpr ⟨same_self a h.1, sameItems_self items h.2⟩

theorem sameEntries_self (entries : List (String × Value)) (h : EntriesWellFormed entries) :
    sameEntries entries entries = true := by
  cases entries with
  | nil => rfl
  | cons e entries =>
    obtain ⟨name, a⟩ := e
    exact Bool.and_eq_true_iff.mpr
      ⟨Bool.and_eq_true_iff.mpr ⟨BEq.rfl, same_self a h.1⟩, sameEntries_self entries h.2⟩

end

theorem beq_comm (a b : Value) : (a == b) = (b == a) := same_comm a b

theorem beq_self {a : Value} (h : a.WellFormed) : (a == a) = true := same_self a h

end Value

end Causeway
