import Causeway.Proofs.Sprite.Lines

/-!
# Players behind filters

A player behind a filter plays a batch as it plays the sprites that the filter lets through
(`playBatch_filtering`), and filters on top of each other are one filter (`filteringAll_eq`). A
batch that succeeds is counted sprite by sprite by all players that count what they play.
-/

namespace Causeway.Player

variable {σ : Type} {p : Player σ} {keep : Sprite → Bool} {st st' : σ} {s : Sprite}

/-! ### One filter -/

theorem offer_filtering_of_pos (h : keep s = true) :
    (p.filtering keep).offer st s = p.offer st s := by
  have haccepts : (p.filtering keep).accepts st s = p.accepts st s := by
    change (keep s && p.accepts st s) = p.accepts st s
    rw [h, Bool.true_and]
  unfold offer
  rw [haccepts]
  rfl

theorem offer_filtering_of_neg (h : keep s = false) :
    (p.filtering keep).offer st s = (st, .ok false) := by
  have haccepts : (p.filtering keep).accepts st s = false := by
    change (keep s && p.accepts st s) = false
    rw [h, Bool.false_and]
  rw [offer, haccepts]
  rfl

theorem offerAll_filtering (p : Player σ) (keep : Sprite → Bool) (st : σ) (played : Nat)
    (sprites : List Sprite) :
    (p.filtering keep).offerAll st played sprites = p.offerAll st played (sprites.filter keep) := by
  induction sprites generalizing st played with
  | nil => rfl
  | cons s sprites ih =>
    cases hkeep : keep s with
    | true =>
      rw [List.filter_cons_of_pos hkeep, offerAll, offerAll, offer_filtering_of_pos hkeep]
      rcases p.offer st s with ⟨st', e | accepted⟩
      · rfl
      · exact ih st' _
    | false =>
      -- the sprite changes neither the state nor the count, and the other run does not see it
      have hskip : ¬keep s = true := Bool.eq_false_iff.mp hkeep
      rw [List.filter_cons_of_neg hskip, offerAll, offer_filtering_of_neg hkeep]
      exact ih st played

theorem playBatch_filtering (p : Player σ) (keep : Sprite → Bool) (st : σ) (sprites : List Sprite) :
    (p.filtering keep).playBatch st sprites = p.playBatch st (sprites.filter keep) := by
  unfold playBatch
  simp only [offerAll_filtering]
  rfl

/-! ### Filters on top of each other -/

/-- A player behind filters, the first of them outermost. -/
def filteringAll (p : Player σ) (keeps : List (Sprite → Bool)) : Player σ :=
  keeps.foldr (fun keep inner => inner.filtering keep) p

theorem filtering_true (p : Player σ) : p.filtering (fun _ => true) = p := rfl

theorem filtering_filtering (p : Player σ) (keep also : Sprite → Bool) :
    (p.filtering also).filtering keep = p.filtering fun s => keep s && also s := by
  have haccepts : (fun st s => keep s && (also s && p.accepts st s)) =
      fun st s => (keep s && also s) && p.accepts st s := by
    funext st s
    exact (Bool.and_assoc (keep s) (also s) (p.accepts st s)).symm
  change { p with accepts := fun st s => keep s && (also s && p.accepts st s) } = _
  rw [haccepts]
  rfl

theorem filteringAll_eq (p : Player σ) (keeps : List (Sprite → Bool)) :
    p.filteringAll keeps = p.filtering fun s => keeps.all fun keep => keep s := by
  induction keeps with
  | nil => exact (filtering_true p).symm
  | cons keep keeps ih =>
    change (p.filteringAll keeps).filtering keep = _
    rw [ih, filtering_filtering]
    rfl

/-! ### Counting what is played -/

/-- Every sprite played is counted, and nothing else is. -/
structure CountsPlays (p : Player σ) : Prop where
  start {st st' : σ} : p.start st = (st', .ok ()) → p.processed st' = p.processed st
  play {st st' : σ} {s : Sprite} :
    p.play st s = (st', .ok ()) → p.processed st' = p.processed st + 1
  finish {st st' : σ} : p.finish st = (st', .ok ()) → p.processed st' = p.processed st

namespace CountsPlays

theorem filtering (h : p.CountsPlays) (keep : Sprite → Bool) : (p.filtering keep).CountsPlays :=
  ⟨h.start, h.play, h.finish⟩

theorem offer (h : p.CountsPlays) {accepted : Bool} (hoffer : p.offer st s = (st', .ok accepted)) :
    p.processed st' = p.processed st + if accepted then 1 else 0 := by
  unfold Player.offer at hoffer
  split at hoffer
  · cases hplay : p.play st s with
    | mk st₁ r =>
      rw [hplay] at hoffer
      cases r with
      | error e => cases hoffer
      | ok u =>
        cases hoffer
        exact h.play hplay
  · cases hoffer
    rfl

theorem offerAll (h : p.CountsPlays) {played n : Nat} {sprites : List Sprite}
    (hoffers : p.offerAll st played sprites = (st', .ok n)) :
    p.processed st' + played = p.processed st + n := by
  induction sprites generalizing st played with
  | nil =>
    cases hoffers
    rfl
  | cons s sprites ih =>
    rw [Player.offerAll] at hoffers
    cases hoffer : p.offer st s with
    | mk st₁ r =>
      rw [hoffer] at hoffers
      cases r with
      | error e => cases hoffers
      | ok accepted =>
        have hfirst := h.offer hoffer
        have hrest := ih hoffers
        cases accepted with
        | false =>
          rw [if_neg Bool.false_ne_true] at hfirst hrest
          omega
        | true =>
          rw [if_pos rfl] at hfirst hrest
          omega

/-- The result of a batch is the number of sprites by which the count has grown. -/
theorem playBatch (h : p.CountsPlays) {n : Nat} {sprites : List Sprite}
    (hbatch : p.playBatch st sprites = (st', .ok n)) : p.processed st' = p.processed st + n := by
  unfold Player.playBatch at hbatch
  cases hstart : p.start st with
  | mk st₁ r =>
    rw [hstart] at hbatch
    cases r with
    | error e => cases hbatch
    | ok u =>
      cases hoffers : p.offerAll st₁ 0 sprites with
      | mk st₂ r =>
        simp only [hoffers] at hbatch
        cases r with
        | error e => cases hbatch
        | ok m =>
          cases hfinish : p.finish st₂ with
          | mk st₃ r =>
            simp only [hfinish] at hbatch
            cases r with
            | error e => cases hbatch
            | ok u =>
              cases hbatch
              rw [h.finish hfinish, ← h.start hstart, ← h.offerAll hoffers, Nat.add_zero]

end CountsPlays

theorem countsPlays_collecting : collecting.CountsPlays where
  start h := by
    cases h
    rfl
  play h := by
    cases h
    exact Array.size_push _
  finish h := by
    cases h
    rfl

theorem countsPlays_counting : counting.CountsPlays where
  start h := by
    cases h
    rfl
  play h := by
    cases h
    rfl
  finish h := by
    cases h
    rfl

theorem countsPlays_jsonLines : jsonLines.CountsPlays where
  start h := by
    cases h
    rfl
  play {w w' s} h := by
    rcases LineWriter.play_cases w s with ⟨sink, -, hplay⟩ | ⟨sink, e, -, hplay⟩
    · cases hplay.symm.trans h
      rfl
    · cases hplay.symm.trans h
  finish {w w'} h := by
    change (if w.sink.flushFails then (w, Except.error _) else (w, .ok ())) = _ at h
    split at h
    · cases h
    · cases h
      rfl

/-- The result of every batch that succeeds is the growth of the count. -/
def CountsBatches (p : Player σ) : Prop :=
  ∀ st sprites st' n, p.playBatch st sprites = (st', .ok n) → p.processed st' = p.processed st + n

/-- A batch behind a filter is the batch of what the filter lets through: the same result and the
same state behind it, whatever the player accepts and wherever it fails. So filters on top of each
other are one filter, and each batch that succeeds behind them has as many sprites played as the
count grows by. -/
theorem filteringAll_plays_filtered (keeps : List (Sprite → Bool)) :
    (∀ (σ : Type) (p : Player σ) (keep : Sprite → Bool) (st : σ) (sprites : List Sprite),
        (p.filtering keep).playBatch st sprites = p.playBatch st (sprites.filter keep)) ∧
      (∀ (σ : Type) (p : Player σ),
        p.filteringAll keeps = p.filtering fun s => keeps.all fun keep => keep s) ∧
      (collecting.filteringAll keeps).CountsBatches ∧
      (counting.filteringAll keeps).CountsBatches ∧
      (jsonLines.filteringAll keeps).CountsBatches := by
  have hcounts {σ : Type} {p : Player σ} (h : p.CountsPlays) :
      (p.filteringAll keeps).CountsBatches := by
    rw [filteringAll_eq]
    intro st sprites st' n hbatch
    exact (h.filtering _).playBatch hbatch
  exact ⟨fun _ p keep st sprites => playBatch_filtering p keep st sprites,
    fun _ p => filteringAll_eq p keeps, hcounts countsPlays_collecting,
    hcounts countsPlays_counting, hcounts countsPlays_jsonLines⟩

def drawn : List Sprite := [
  Sprite.empty.load [("keep", .int 1)],
  Sprite.empty.load [("name", .string "b")],
  Sprite.empty.load [("keep", .int 2), ("hidden", .bool true)]]

def shownFilters : List (Sprite → Bool) := [(·.hasField "keep"), fun s => !s.hasField "hidden"]

/-- Room for the line of the first sprite and for no other. -/
def narrow : LineWriter := { sink := { room := some 13 } }

theorem filteringAll_plays_filtered_drawn :
    let p := jsonLines.filteringAll shownFilters
    ∃ w, p.playBatch narrow drawn = (w, .ok 1) ∧ p.processed w = p.processed narrow + 1 := by
  intro p
  have hcount : (p.playBatch narrow drawn).2.toOption = some 1 := by decide +kernel
  obtain ⟨-, -, -, -, hcounts⟩ := filteringAll_plays_filtered shownFilters
  rcases hbatch : p.playBatch narrow drawn with ⟨w, e | n⟩
  · rw [hbatch] at hcount
    cases hcount
  · rw [hbatch] at hcount
    obtain rfl := Option.some.inj hcount
    exact ⟨w, rfl, hcounts narrow drawn w 1 hbatch⟩

end Causeway.Player
