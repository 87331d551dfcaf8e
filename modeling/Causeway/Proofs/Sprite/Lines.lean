import Causeway.Proofs.Json.Line
import Causeway.Proofs.Sprite.Calls
import Causeway.Proofs.Sprite.Sink
import Causeway.Proofs.Sprite.Written

/-!
# JSON lines in a sink that runs out of room

A line is written as a whole or fills the sink, and nothing is written to a full one. So the complete lines
are those of the first sprites played, and what stands behind them is the front of the text of the next one
(`LineWriter.Holds`).
-/

namespace Causeway

open Player (Call)

namespace Sink

/-- The lines that are complete; what stands behind the last newline is none. -/
def completeLines (sink : Sink) : List (List UInt8) :=
  (Text.splitWhen (· == newline) sink.written.toList).dropLast

end Sink

namespace Sprite

def textBytes (s : Sprite) : List UInt8 := bytesOf s.toJson.text

def line (s : Sprite) : List UInt8 := s.textBytes ++ [newline]

def lines (sprites : List Sprite) : List UInt8 := sprites.flatMap line

theorem bytesOf_newline : bytesOf "\n" = [newline] := by
  rw [bytesOf_eq]
  decide

theorem newline_notMem_textBytes (s : Sprite) : newline ∉ s.textBytes :=
  s.toJson.newline_notMem_bytesOf_text

theorem length_line (s : Sprite) : s.line.length = s.textBytes.length + 1 := List.length_append

theorem lines_append (first later : List Sprite) :
    lines (first ++ later) = lines first ++ lines later := List.flatMap_append

theorem lines_singleton (s : Sprite) : lines [s] = s.line := List.flatMap_singleton line s

theorem lines_cons (s : Sprite) (sprites : List Sprite) :
    lines (s :: sprites) = s.textBytes ++ newline :: lines sprites :=
  (List.flatMap_cons.trans (List.append_assoc s.textBytes [newline] (lines sprites)))

theorem count_lines (sprites : List Sprite) : (lines sprites).count newline = sprites.length := by
  induction sprites with
  | nil => rfl
  | cons s sprites ih =>
    rw [lines_cons, List.count_append, List.count_eq_zero.mpr s.newline_notMem_textBytes,
      List.count_cons_self, ih, Nat.zero_add, List.length_cons]

theorem splitWhen_lines (sprites : List Sprite) {cut : List UInt8} (hcut : newline ∉ cut) :
    Text.splitWhen (· == newline) (lines sprites ++ cut) = sprites.map textBytes ++ [cut] := by
  have hnone : ∀ {bytes : List UInt8}, newline ∉ bytes → ∀ b ∈ bytes, (b == newline) = false :=
    fun hnot b hb => beq_eq_false_iff_ne.mpr fun heq => hnot (heq ▸ hb)
  induction sprites with
  | nil => exact Text.splitWhen_of_forall_not (hnone hcut)
  | cons s sprites ih =>
    rw [lines_cons, List.append_assoc, List.cons_append,
      Text.splitWhen_append_cons (hnone s.newline_notMem_textBytes) (beq_self_eq_true newline), ih]
    rfl

theorem length_lines_take_le (sprites : List Sprite) (k : Nat) :
    (lines (sprites.take k)).length ≤ (lines sprites).length := by
  have hcut := congrArg List.length (lines_append (sprites.take k) (sprites.drop k))
  rw [List.take_append_drop, List.length_append] at hcut
  omega

/-- What the bytes of a line say. -/
def ofLine? (bytes : List UInt8) : Option Sprite := (String.fromUTF8? bytes.toByteArray).bind ofText?

theorem ofLine?_textBytes_iff {s : Sprite} (h : s.WellFormed) :
    ofLine? s.textBytes = some s ↔ ∀ e ∈ s.fields.entries, ∀ v ∈ e.2, v.Fits 125 := by
  rw [ofLine?, textBytes, fromUTF8?_bytesOf]
  exact ofText?_toJson_iff h

end Sprite

namespace Player

variable {σ : Type}

/-- The state behind calls that are made one after the other, whether or not they fail. -/
def after (p : Player σ) (st : σ) (calls : List Call) : σ :=
  calls.foldl (fun st c => (p.call st c).1) st

/-- The sprite of a call that fails. -/
def failedBy (p : Player σ) (st : σ) (c : Call) : List Sprite :=
  match (p.call st c).2 with
  | .ok _ => []
  | .error _ => c.sprite?.toList

/-- The sprites that are not played, in order. -/
def failures (p : Player σ) (st : σ) : List Call → List Sprite
  | [] => []
  | c :: calls => p.failedBy st c ++ p.failures (p.call st c).1 calls

end Player

namespace LineWriter

open Sprite (lines)

variable {w : LineWriter} {n : Nat} {bytes : List UInt8} {s : Sprite} {played failed : List Sprite}

theorem play_eq (w : LineWriter) (s : Sprite) :
    jsonLines.play w s = match w.sink.write s.textBytes with
      | (sink, false) => ({ w with sink }, .error (.jsonParse Sink.full))
      | (sink, true) =>
        match sink.write [newline] with
        | (sink, false) => ({ w with sink }, .error (.storage Sink.full))
        | (sink, true) => (⟨sink, w.processed + 1⟩, .ok ()) := by
  rw [← Sprite.bytesOf_newline]
  rfl

/-- Text and newline are written as one line, and the sprite is played if all of it is. -/
theorem play_cases (w : LineWriter) (s : Sprite) :
    (∃ sink, w.sink.write s.line = (sink, true) ∧
      jsonLines.play w s = (⟨sink, w.processed + 1⟩, .ok ())) ∨
    ∃ sink e, w.sink.write s.line = (sink, false) ∧ jsonLines.play w s = ({ w with sink }, .error e) := by
  rw [play_eq, Sprite.line, Sink.write_append]
  rcases w.sink.write s.textBytes with ⟨sink, _ | _⟩
  · exact .inr ⟨sink, _, rfl, rfl⟩
  · dsimp only
    rcases sink.write [newline] with ⟨sink, _ | _⟩
    · exact .inr ⟨sink, _, rfl, rfl⟩
    · exact .inl ⟨sink, rfl, rfl⟩

/-- A sprite is played if all of its line fits. -/
theorem play_of_limited (h : w.sink.Limited n bytes) (s : Sprite) :
    (jsonLines.play w s).1.sink.Limited n (bytes ++ s.line) ∧
      if bytes.length + s.line.length ≤ n then
        (jsonLines.play w s).2 = .ok () ∧ (jsonLines.play w s).1.processed = w.processed + 1
      else
        (∃ e, (jsonLines.play w s).2 = .error e) ∧ (jsonLines.play w s).1.processed = w.processed := by
  have hwrite := h.write s.line
  have hfits := h.write_all_iff s.line
  have hlength := s.length_line
  rcases play_cases w s with ⟨sink, hall, hplay⟩ | ⟨sink, e, hpart, hplay⟩
  · rw [hall] at hwrite hfits
    have hroom := hfits.mp rfl
    rw [hplay, if_pos (by omega)]
    exact ⟨hwrite, rfl, rfl⟩
  · rw [hpart] at hwrite hfits
    have hroom := mt hfits.mpr Bool.false_ne_true
    rw [hplay, if_neg (by omega)]
    exact ⟨hwrite, ⟨e, rfl⟩, rfl⟩

theorem call_offer (w : LineWriter) (s : Sprite) :
    jsonLines.call w (.offer s) = jsonLines.play w s := by
  have haccepts : jsonLines.accepts w s = true := rfl
  rw [Player.call, Player.offer, if_pos haccepts]
  rcases jsonLines.play w s with ⟨w, _ | _⟩ <;> rfl

/-- The lines of the first sprites played are complete, and the next one is too long. -/
structure Holds (n : Nat) (w : LineWriter) (played failed : List Sprite) : Prop where
  limited : w.sink.Limited n (lines played)
  processed_le : w.processed ≤ played.length
  complete : (lines (played.take w.processed)).length ≤ n
  full : w.processed < played.length → n < (lines (played.take (w.processed + 1))).length
  failed_eq : failed = played.drop w.processed

namespace Holds

theorem start (n : Nat) (flushFails : Bool) :
    Holds n { sink := { room := some n, flushFails } } [] [] :=
  ⟨⟨List.take_nil.symm, rfl⟩, Nat.le_refl 0, Nat.zero_le n, fun h => absurd h (Nat.lt_irrefl 0), rfl⟩

/-- As long as something fits, all that was played is complete. -/
theorem processed_eq (h : Holds n w played failed) (hfits : (lines played).length ≤ n) :
    w.processed = played.length := by
  refine Nat.le_antisymm h.processed_le (Nat.le_of_not_lt fun hless => ?_)
  have hfull := h.full hless
  have hle := Sprite.length_lines_take_le played (w.processed + 1)
  omega

theorem play (h : Holds n w played failed) (s : Sprite) :
    Holds n (jsonLines.play w s).1 (played ++ [s]) (failed ++ jsonLines.failedBy w (.offer s)) := by
  obtain ⟨hlimited, hplay⟩ := play_of_limited h.limited s
  have hlines : lines (played ++ [s]) = lines played ++ s.line := by
    rw [Sprite.lines_append, Sprite.lines_singleton]
  unfold Player.failedBy
  rw [call_offer]
  split at hplay
  · -- a line that fits stands behind complete lines only
    rename_i hfits
    obtain ⟨hok, hprocessed⟩ := hplay
    have hall := h.processed_eq (by omega)
    have hcount : (jsonLines.play w s).1.processed = (played ++ [s]).length := by
      rw [hprocessed, hall, List.length_append, List.length_singleton]
    rw [hok]
    refine ⟨hlines ▸ hlimited, Nat.le_of_eq hcount, ?_, fun hless => ?_, ?_⟩
    · rw [hcount, List.take_length, hlines, List.length_append]
      exact hfits
    · exact absurd hcount (Nat.ne_of_lt hless)
    · rw [hcount, List.drop_length, h.failed_eq, hall, List.drop_length]
      rfl
  · -- the first line that does not fit is the one that stays too long
    rename_i hover
    obtain ⟨⟨e, herror⟩, hprocessed⟩ := hplay
    rw [herror]
    refine ⟨hlines ▸ hlimited, ?_, ?_, fun _ => ?_, ?_⟩
    · rw [hprocessed, List.length_append]
      exact Nat.le_trans h.processed_le (Nat.le_add_right _ _)
    · rw [hprocessed, List.take_append_of_le_length h.processed_le]
      exact h.complete
    · rw [hprocessed]
      by_cases hless : w.processed < played.length
      · rw [List.take_append_of_le_length hless]
        exact h.full hless
      · have hall : w.processed = played.length := by
          have := h.processed_le
          omega
        rw [hall, List.take_of_length_le (by simp), hlines, List.length_append]
        omega
    · rw [hprocessed, List.drop_append_of_le_length h.processed_le, h.failed_eq]
      rfl

theorem call (h : Holds n w played failed) (c : Call) :
    Holds n (jsonLines.call w c).1 (played ++ c.sprite?.toList) (failed ++ jsonLines.failedBy w c) := by
  cases c with
  | start => simpa [Player.call, Player.failedBy, jsonLines, Call.sprite?] using h
  | offer s =>
    rw [call_offer]
    exact h.play s
  | finish =>
    have hfinish : (jsonLines.finish w).1 = w := by
      unfold jsonLines
      dsimp only
      split <;> rfl
    have hfailed : jsonLines.failedBy w .finish = [] := by
      unfold Player.failedBy
      split <;> rfl
    rw [Player.call, hfinish, hfailed, List.append_nil]
    exact (List.append_nil played).symm ▸ h

theorem after (h : Holds n w played failed) (calls : List Call) :
    Holds n (jsonLines.after w calls) (played ++ calls.filterMap Call.sprite?)
      (failed ++ jsonLines.failures w calls) := by
  induction calls generalizing w played failed with
  | nil => simpa [Player.after, Player.failures] using h
  | cons c calls ih =>
    have hrest := ih (h.call c)
    rw [List.append_assoc, List.append_assoc] at hrest
    have hplayed : (c :: calls).filterMap Call.sprite? =
        c.sprite?.toList ++ calls.filterMap Call.sprite? := by
      cases hsprite : c.sprite? <;> simp [hsprite]
    rw [hplayed]
    exact hrest

/-- Behind the complete lines stands what fits of the next text. -/
theorem exists_cut (h : Holds n w played failed) :
    ∃ cut, w.sink.written.toList = lines (played.take w.processed) ++ cut ∧
      cut <+: failed.head?.elim [] Sprite.textBytes := by
  refine ⟨(lines (played.drop w.processed)).take (n - (lines (played.take w.processed)).length),
    ?_, ?_⟩
  · have hlines := Sprite.lines_append (played.take w.processed) (played.drop w.processed)
    rw [List.take_append_drop] at hlines
    rw [h.limited.written, hlines, List.take_append, List.take_of_length_le h.complete]
  · rw [h.failed_eq]
    cases hnext : played.drop w.processed with
    | nil => simp [lines]
    | cons s rest =>
      -- the room that is left ends within the next line, so before its newline
      have hless : w.processed < played.length := by
        refine Nat.lt_of_not_le fun hle => ?_
        rw [List.drop_of_length_le hle] at hnext
        cases hnext
      have hover := h.full hless
      rw [List.take_add_one, ← List.head?_drop, hnext, Sprite.lines_append] at hover
      have hlength := s.length_line
      change _ < (lines _ ++ lines [s]).length at hover
      rw [Sprite.lines_singleton, List.length_append] at hover
      rw [Sprite.lines_cons, List.take_append_of_le_length (by omega)]
      exact List.take_prefix _ _

theorem newline_notMem_cut {cut : List UInt8} {s? : Option Sprite}
    (h : cut <+: s?.elim [] Sprite.textBytes) : newline ∉ cut := by
  intro hmem
  cases s? with
  | none => exact absurd (h.subset hmem) List.not_mem_nil
  | some s => exact s.newline_notMem_textBytes (h.subset hmem)

theorem count_newline (h : Holds n w played failed) :
    w.sink.written.toList.count newline = w.processed := by
  obtain ⟨cut, hwritten, hcut⟩ := h.exists_cut
  rw [hwritten, List.count_append, Sprite.count_lines,
    List.count_eq_zero.mpr (newline_notMem_cut hcut), List.length_take]
  exact Nat.min_eq_left h.processed_le

theorem completeLines_eq (h : Holds n w played failed) :
    w.sink.completeLines = (played.take w.processed).map Sprite.textBytes := by
  obtain ⟨cut, hwritten, hcut⟩ := h.exists_cut
  rw [Sink.completeLines, hwritten, Sprite.splitWhen_lines _ (newline_notMem_cut hcut),
    List.dropLast_concat]

end Holds

/-- The player that writes the texts of sprites in pieces. -/
def jsonLinesBy (pieces : Sprite → List (List UInt8)) : Player LineWriter :=
  { jsonLines with
    play := fun w s =>
      match w.sink.writePieces (pieces s) with
      | (sink, false) => ({ w with sink }, .error (.jsonParse Sink.full))
      | (sink, true) =>
        match sink.writeAll (bytesOf "\n") with
        | (sink, false) => ({ w with sink }, .error (.storage Sink.full))
        | (sink, true) => (⟨sink, w.processed + 1⟩, .ok ()) }

/-- It plays alike, whatever the pieces are. -/
theorem jsonLinesBy_eq {pieces : Sprite → List (List UInt8)}
    (h : ∀ s, (pieces s).flatten = s.textBytes) : jsonLinesBy pieces = jsonLines := by
  unfold jsonLinesBy
  simp only [Sink.writePieces_eq, Sink.writeAll_eq, h]
  rfl

/-- After any calls on a sink of any room, there are as many newlines as sprites played, and these are the
first ones. Each has its line, and behind the lines stands the front of the text of the first sprite that
was not played. A line gives its sprite back exactly if it gives back each of its values. In what pieces
the texts come to the sink makes no difference. -/
theorem jsonLines_lines (n : Nat) (flushFails : Bool) (calls : List Call) :
    let start : LineWriter := { sink := { room := some n, flushFails } }
    let w := jsonLines.after start calls
    let played := calls.filterMap Call.sprite?
    let failed := jsonLines.failures start calls
    let processed := jsonLines.processed w
    processed ≤ played.length ∧ failed = played.drop processed ∧
      w.sink.written.toList.count newline = processed ∧
      (∃ cut, w.sink.written.toList = lines (played.take processed) ++ cut ∧
        cut <+: failed.head?.elim [] Sprite.textBytes) ∧
      w.sink.completeLines = (played.take processed).map Sprite.textBytes ∧
      (∀ s ∈ played, s.WellFormed →
        (Sprite.ofLine? s.textBytes = some s ↔ ∀ e ∈ s.fields.entries, ∀ v ∈ e.2, v.Fits 125)) ∧
      ∀ pieces : Sprite → List (List UInt8), (∀ s, (pieces s).flatten = s.textBytes) →
        jsonLinesBy pieces = jsonLines := by
  have h := (Holds.start n flushFails).after calls
  rw [List.nil_append, List.nil_append] at h
  exact ⟨h.processed_le, h.failed_eq, h.count_newline, h.exists_cut, h.completeLines_eq,
    fun s _ hs => Sprite.ofLine?_textBytes_iff hs, fun _ => jsonLinesBy_eq⟩

/-- A sprite of each value that does not come back from a line. -/
def lost : List Sprite := (Value.lost 125).map fun v => ⟨NameMap.ofList [("a", [v])]⟩

theorem lost_spec {s : Sprite} (h : s ∈ lost) :
    s.WellFormed ∧ (∀ e ∈ s.fields.entries, ∀ v ∈ e.2, ∀ x ∈ v.leaves, x.IsPlain) ∧
      ¬∀ e ∈ s.fields.entries, ∀ v ∈ e.2, v.Fits 125 := by
  obtain ⟨v, hv, rfl⟩ := List.mem_map.mp h
  have hfields : (NameMap.ofList [("a", [v])]).entries = [("a", [v])] := rfl
  simpa [Sprite.WellFormed, hfields] using Value.lost_spec hv

/-- Values without dates, raw payloads and infinities do not suffice for lines to be read back. -/
theorem lines_of_lost :
    let w := jsonLines.after { sink := { room := some (lines lost).length } } (lost.map .offer)
    (∀ s ∈ lost, ∀ e ∈ s.fields.entries, ∀ v ∈ e.2, ∀ x ∈ v.leaves, x.IsPlain) ∧
      w.sink.completeLines = lost.map Sprite.textBytes ∧
      ∀ s ∈ lost, Sprite.ofLine? s.textBytes ≠ some s := by
  have h := (Holds.start (lines lost).length false).after (lost.map .offer)
  have hplayed : (lost.map Call.offer).filterMap Call.sprite? = lost := rfl
  rw [List.nil_append, hplayed] at h
  have hall := h.processed_eq (Nat.le_refl _)
  refine ⟨fun s hs => (lost_spec hs).2.1, ?_, fun s hs heq => ?_⟩
  · rw [h.completeLines_eq, hall, List.take_length]
  · obtain ⟨hwell, -, hnot⟩ := lost_spec hs
    exact hnot ((Sprite.ofLine?_textBytes_iff hwell).mp heq)

end LineWriter

end Causeway
