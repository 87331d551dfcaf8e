import Causeway.Proofs.Graph.Limit

/-!
# Where a run stops

A run takes the shortest beginning of its list that uses up the limit, and the whole list if there is
none (`upToLimit_taken`). Whatever it leaves behind makes the result a cut one. A run that has stopped
stays where it is, so nothing depends on how a list is cut into runs (`ingest_append`).
-/

namespace Causeway.Graph

/-- As many nodes or as many edges as a limit allows. A limit of zero allows any number. -/
def Reaches (l : Nat) (g : Graph) : Prop := l ≠ 0 ∧ (l ≤ g.nodes.size ∨ l ≤ g.edges.size)

namespace Assembler

variable {a : Assembler} {l : Nat} {x : NativeElement} {xs p q : List NativeElement}

/-- The shortest beginning of a list that leads to the limit, else the whole list. -/
structure UpToLimit (a : Assembler) (l : Nat) (xs p : List NativeElement) : Prop where
  begins : p <+: xs
  stops : Reaches l (p.foldl add a).result ∨ p = xs
  shortest : ∀ q, q <+: xs → Reaches l (q.foldl add a).result → p <+: q

/-- The elements that a run takes from a list. -/
def taken (a : Assembler) : List NativeElement → List NativeElement
  | [] => []
  | x :: xs => if a.isFull then [] else x :: (a.add x).taken xs

theorem isFull_iff_reaches (a : Assembler) (l : Nat) :
    (a.withLimit l).isFull = true ↔ Reaches l (a.withLimit l).result := by
  unfold Reaches
  cases l with
  | zero => simp [isFull, withLimit]
  | succ l =>
    rw [isFull_withLimit a l.succ_pos, Kind.exists_iff]
    simp [withLimit, elements]

/-! ### The shortest beginning -/

theorem upToLimit_nil_of_reaches (h : Reaches l a.result) (xs : List NativeElement) :
    a.UpToLimit l xs [] :=
  ⟨xs.nil_prefix, .inl h, fun q _ _ => q.nil_prefix⟩

theorem UpToLimit.cons (hroom : ¬Reaches l a.result) (h : (a.add x).UpToLimit l xs p) :
    a.UpToLimit l (x :: xs) (x :: p) where
  begins := List.cons_prefix_cons.mpr ⟨rfl, h.begins⟩
  stops := h.stops.imp_right (congrArg (x :: ·))
  shortest q hq hreaches := by
    cases q with
    | nil => exact absurd hreaches hroom
    | cons y q =>
      obtain ⟨rfl, hrest⟩ := List.cons_prefix_cons.mp hq
      exact List.cons_prefix_cons.mpr ⟨rfl, h.shortest q hrest hreaches⟩

theorem UpToLimit.prefix_of (hp : a.UpToLimit l xs p) (hq : a.UpToLimit l xs q) : p <+: q := by
  rcases hq.stops with hreaches | rfl
  · exact hp.shortest q hq.begins hreaches
  · exact hp.begins

theorem UpToLimit.unique (hp : a.UpToLimit l xs p) (hq : a.UpToLimit l xs q) : p = q :=
  (hp.prefix_of hq).eq_of_length_le (hq.prefix_of hp).length_le

theorem upToLimit_taken (a : Assembler) (l : Nat) (xs : List NativeElement) :
    (a.withLimit l).UpToLimit l xs ((a.withLimit l).taken xs) := by
  induction xs generalizing a with
  | nil => exact ⟨List.prefix_refl _, .inr rfl, fun q _ _ => q.nil_prefix⟩
  | cons x xs ih =>
    have hfull := isFull_iff_reaches a l
    rw [taken]
    split
    · rename_i h
      exact upToLimit_nil_of_reaches (hfull.mp h) _
    · rename_i h
      refine UpToLimit.cons (fun hreaches => h (hfull.mpr hreaches)) ?_
      rw [add_withLimit]
      exact ih (a.add x)

/-! ### What a run does -/

theorem ingest_of_isFull (h : a.isFull = true) (x : NativeElement) (xs : List NativeElement) :
    a.ingest (x :: xs) = a.truncate := by
  rw [ingest, if_pos h]

theorem ingest_truncate (h : a.isFull = true) (xs : List NativeElement) :
    a.truncate.ingest xs = a.truncate := by
  cases xs with
  | nil => rfl
  | cons x xs => exact ingest_of_isFull (a := a.truncate) h x xs

theorem ingest_append (a : Assembler) (xs ys : List NativeElement) :
    (a.ingest xs).ingest ys = a.ingest (xs ++ ys) := by
  induction xs generalizing a with
  | nil => rfl
  | cons x xs ih =>
    rw [List.cons_append, ingest, ingest]
    split
    · rename_i h
      exact ingest_truncate h ys
    · exact ih (a.add x)

/-- A run adds what it takes, and marks the result if something is left. -/
theorem exists_ingest_eq (a : Assembler) (xs : List NativeElement) :
    ∃ rest, xs = a.taken xs ++ rest ∧ a.ingest xs = { (a.taken xs).foldl add a with
      result.truncated := a.result.truncated || !rest.isEmpty } := by
  induction xs generalizing a with
  | nil => exact ⟨[], rfl, by simp [ingest, taken]⟩
  | cons x xs ih =>
    rw [ingest, taken]
    split
    · exact ⟨x :: xs, rfl, by simp [truncate]⟩
    · obtain ⟨rest, hxs, hingest⟩ := ih (a.add x)
      refine ⟨rest, by rw [List.cons_append, ← hxs], ?_⟩
      rw [hingest, add_truncated, List.foldl_cons]

/-- Under any limit and from any state, a run adds the shortest beginning of its list that uses up the
limit, marks the result exactly if that is not the whole list, and can be cut anywhere. -/
theorem ingest_upToLimit (a : Assembler) (l : Nat) (xs : List NativeElement) :
    let b := a.withLimit l
    (∃ taken rest, xs = taken ++ rest ∧ (∀ p, b.UpToLimit l xs p ↔ p = taken) ∧
        b.ingest xs = { taken.foldl add b with
          result.truncated := b.result.truncated || !rest.isEmpty }) ∧
      ∀ ys zs, xs = ys ++ zs → (b.ingest ys).ingest zs = b.ingest xs := by
  intro b
  have htaken : b.UpToLimit l xs (b.taken xs) := upToLimit_taken a l xs
  obtain ⟨rest, hxs, hingest⟩ := b.exists_ingest_eq xs
  constructor
  · refine ⟨b.taken xs, rest, hxs, fun p => ⟨fun hp => hp.unique htaken, ?_⟩, hingest⟩
    rintro rfl
    exact htaken
  · rintro ys zs rfl
    exact b.ingest_append ys zs

end Assembler

end Causeway.Graph
