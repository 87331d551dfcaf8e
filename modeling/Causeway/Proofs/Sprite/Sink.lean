import Causeway.Sprite.Player

/-!
# Sinks of limited room

A sink of room `n` has the first `n` bytes of all that was written to it (`Limited.write`). It does not
matter in what pieces the bytes come, nor that each call of the sink takes only what fits
(`writePieces_eq`).
-/

namespace Causeway.Sink

variable {sink : Sink} {n : Nat} {bytes : List UInt8}

/-- Of all the bytes written, a sink of room `n` has what fits. -/
structure Limited (sink : Sink) (n : Nat) (bytes : List UInt8) : Prop where
  written : sink.written.toList = bytes.take n
  room : sink.room = some (n - bytes.length)

theorem Limited.write (h : sink.Limited n bytes) (more : List UInt8) :
    (sink.write more).1.Limited n (bytes ++ more) := by
  unfold Sink.write
  dsimp only
  rw [h.room]
  constructor
  · have hwritten : (sink.written.appendList (more.take (n - bytes.length))).toList =
        sink.written.toList ++ more.take (n - bytes.length) := Array.toList_appendList
    rw [List.take_append, ← h.written]
    exact hwritten
  · rw [List.length_append, Nat.sub_add_eq]
    rfl

theorem Limited.write_all_iff (h : sink.Limited n bytes) (more : List UInt8) :
    (sink.write more).2 = true ↔ more.length ≤ n - bytes.length := by
  unfold Sink.write
  dsimp only
  rw [h.room, beq_iff_eq, List.length_take]
  omega

/-! ### Writing piece by piece -/

/-- One call takes the bytes that still fit, and tells how many. -/
def accept (sink : Sink) (bytes : List UInt8) : Sink × Nat :=
  let fitting : List UInt8 := match sink.room with
    | none => bytes
    | some n => bytes.take n
  ({ sink with
      written := sink.written.appendList fitting
      room := sink.room.map (· - fitting.length) },
    fitting.length)

/-- Calls for what is left, until nothing is or nothing is taken. -/
def writeAll (sink : Sink) (bytes : List UInt8) : Sink × Bool :=
  if bytes = [] then (sink, true)
  else if (sink.accept bytes).2 = 0 then (sink, false)
  else (sink.accept bytes).1.writeAll (bytes.drop (sink.accept bytes).2)
termination_by bytes.length
decreasing_by
  have hpos := List.length_pos_iff.mpr ‹bytes ≠ []›
  rw [List.length_drop]
  omega

theorem writeAll_nil (sink : Sink) : sink.writeAll [] = (sink, true) := by rw [writeAll, if_pos rfl]

theorem write_eq_accept (sink : Sink) (bytes : List UInt8) :
    sink.write bytes = ((sink.accept bytes).1, (sink.accept bytes).2 == bytes.length) := by
  obtain ⟨written, room, flushFails⟩ := sink
  cases room with
  | none => rfl
  | some n =>
    have hroom : n - (bytes.take n).length = n - bytes.length := by
      rw [List.length_take]
      omega
    unfold write accept
    dsimp only [Option.map_some]
    rw [hroom]

/-- A call that leaves bytes behind leaves a full sink. -/
theorem room_of_accept_ne (h : (sink.accept bytes).2 ≠ bytes.length) :
    (sink.accept bytes).1.room = some 0 := by
  obtain ⟨written, room, flushFails⟩ := sink
  cases room with
  | none => exact absurd rfl h
  | some n =>
    unfold accept at h ⊢
    dsimp only [Option.map_some] at h ⊢
    rw [List.length_take] at h ⊢
    exact congrArg some (by omega)

theorem accept_of_full (h : sink.room = some 0) (bytes : List UInt8) :
    sink.accept bytes = (sink, 0) := by
  obtain ⟨written, room, flushFails⟩ := sink
  obtain rfl : room = some 0 := h
  simp [accept]

theorem accept_of_eq_zero (h : (sink.accept bytes).2 = 0) : (sink.accept bytes).1 = sink := by
  obtain ⟨written, room, flushFails⟩ := sink
  unfold accept at h ⊢
  dsimp only at h ⊢
  rw [h, List.eq_nil_of_length_eq_zero h]
  cases room <;> simp

theorem accept_le (sink : Sink) (bytes : List UInt8) : (sink.accept bytes).2 ≤ bytes.length := by
  obtain ⟨written, room, flushFails⟩ := sink
  cases room with
  | none => exact Nat.le_refl _
  | some n => exact List.length_take_le' n bytes

/-- Calls that take what fits write as much as fits of the whole. -/
theorem writeAll_eq (sink : Sink) (bytes : List UInt8) : sink.writeAll bytes = sink.write bytes := by
  rw [write_eq_accept]
  by_cases hbytes : bytes = []
  · have hnone : (sink.accept []).2 = 0 := Nat.le_zero.mp (sink.accept_le [])
    rw [hbytes, writeAll_nil, accept_of_eq_zero hnone, hnone]
    rfl
  by_cases hall : (sink.accept bytes).2 = bytes.length
  · have hsome : (sink.accept bytes).2 ≠ 0 := by
      rw [hall]
      exact Nat.ne_of_gt (List.length_pos_iff.mpr hbytes)
    rw [writeAll, if_neg hbytes, if_neg hsome, hall, List.drop_length, writeAll_nil, beq_self_eq_true]
  · -- the sink is full after a call that leaves bytes behind, and the next call takes none
    rw [writeAll, if_neg hbytes, beq_false_of_ne hall]
    split
    · rename_i hnone
      rw [accept_of_eq_zero hnone]
    · have hleft : bytes.drop (sink.accept bytes).2 ≠ [] := by
        have hle := sink.accept_le bytes
        rw [ne_eq, List.drop_eq_nil_iff]
        omega
      rw [writeAll, if_neg hleft, accept_of_full (room_of_accept_ne hall), if_pos rfl]

theorem write_append (sink : Sink) (bytes more : List UInt8) :
    sink.write (bytes ++ more) = match sink.write bytes with
      | (sink, false) => (sink, false)
      | (sink, true) => sink.write more := by
  obtain ⟨written, room, flushFails⟩ := sink
  have happend (rest : List UInt8) : written ++ (bytes ++ rest) = written ++ bytes ++ rest :=
    Array.toList_inj.mp (by simp)
  cases room with
  | none => simp [write, happend]
  | some n =>
    by_cases hfits : bytes.length ≤ n
    · have hflag : (bytes.length + min (n - bytes.length) more.length == bytes.length + more.length) =
          (min (n - bytes.length) more.length == more.length) := by
        rw [Bool.eq_iff_iff, beq_iff_eq, beq_iff_eq, Nat.add_left_cancel_iff]
      simp [write, List.take_append, List.take_of_length_le hfits, Nat.sub_add_eq, happend, hflag]
    · have hnone : n - bytes.length = 0 := by omega
      have hroom : n - (bytes.length + more.length) = 0 := by omega
      have hcut : (min n bytes.length == bytes.length) = false := beq_false_of_ne (by omega)
      have hcutAll : (min n bytes.length == bytes.length + more.length) = false :=
        beq_false_of_ne (by omega)
      simp [write, List.take_append, hnone, hroom, hcut, hcutAll]

/-- Writes pieces up to the first that does not fit. -/
def writePieces (sink : Sink) : List (List UInt8) → Sink × Bool
  | [] => (sink, true)
  | piece :: pieces =>
    match sink.writeAll piece with
    | (sink, false) => (sink, false)
    | (sink, true) => sink.writePieces pieces

theorem writePieces_eq (sink : Sink) (pieces : List (List UInt8)) :
    sink.writePieces pieces = sink.write pieces.flatten := by
  induction pieces generalizing sink with
  | nil => exact (sink.writeAll_nil.symm.trans (sink.writeAll_eq []))
  | cons piece pieces ih =>
    rw [writePieces, writeAll_eq, List.flatten_cons, write_append]
    rcases sink.write piece with ⟨sink, _ | _⟩
    · rfl
    · exact ih sink

end Causeway.Sink
