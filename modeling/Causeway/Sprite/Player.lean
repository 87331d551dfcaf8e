import Causeway.Sprite.Basic

/-!
Players take streams of sprites. A stream comes in batches, each opened by `start` and closed by
`finish`; every call may fail, and it leaves a state behind either way.
-/

namespace Causeway

/-- A sink for sprites with states of type `σ`. -/
structure Player (σ : Type) where
  start : σ → σ × Except Error Unit
  accepts : σ → Sprite → Bool
  play : σ → Sprite → σ × Except Error Unit
  finish : σ → σ × Except Error Unit
  /-- The number of sprites played. -/
  processed : σ → Nat

namespace Player

variable {σ : Type}

/-- Plays a sprite if it is accepted, and tells whether it was. -/
def offer (p : Player σ) (st : σ) (s : Sprite) : σ × Except Error Bool :=
  if p.accepts st s then
    match p.play st s with
    | (st, .ok _) => (st, .ok true)
    | (st, .error e) => (st, .error e)
  else (st, .ok false)

/-- Offers sprites up to the first failure and counts those played. -/
def offerAll (p : Player σ) (st : σ) (played : Nat) : List Sprite → σ × Except Error Nat
  | [] => (st, .ok played)
  | s :: r =>
    match p.offer st s with
    | (st, .ok b) => p.offerAll st (if b then played + 1 else played) r
    | (st, .error e) => (st, .error e)

/-- One whole batch; the count of sprites played. -/
def playBatch (p : Player σ) (st : σ) (sprites : List Sprite) : σ × Except Error Nat :=
  match p.start st with
  | (st, .error e) => (st, .error e)
  | (st, .ok _) =>
    match p.offerAll st 0 sprites with
    | (st, .error e) => (st, .error e)
    | (st, .ok n) =>
      match p.finish st with
      | (st, .error e) => (st, .error e)
      | (st, .ok _) => (st, .ok n)

/-- A player that takes only sprites that satisfy a predicate. -/
def filtering (p : Player σ) (keep : Sprite → Bool) : Player σ :=
  { p with accepts := fun st s => keep s && p.accepts st s }

end Player

/-- The sprites played and the numbers of batches opened and closed. -/
structure Collected where
  sprites : Array Sprite := #[]
  begins : Nat := 0
  ends : Nat := 0
  deriving Inhabited

/-- Keeps every sprite. -/
def collecting : Player Collected where
  start st := ({ st with begins := st.begins + 1 }, .ok ())
  accepts _ _ := true
  play st s := ({ st with sprites := st.sprites.push s }, .ok ())
  finish st := ({ st with ends := st.ends + 1 }, .ok ())
  processed st := st.sprites.size

/-- Counts sprites and keeps none. -/
def counting : Player Nat where
  start st := (st, .ok ())
  accepts _ _ := true
  play st _ := (st + 1, .ok ())
  finish st := (st, .ok ())
  processed st := st

/-- A sink of bytes that may run out of room. -/
structure Sink where
  written : Array UInt8 := #[]
  /-- How many more bytes are taken; all where there is no number. -/
  room : Option Nat := none
  flushFails : Bool := false
  deriving Inhabited

namespace Sink

/-- Takes the bytes that fit and tells whether all did. -/
def write (s : Sink) (bytes : List UInt8) : Sink × Bool :=
  let fitting : List UInt8 := match s.room with
    | none => bytes
    | some n => bytes.take n
  ({ s with
      written := s.written.appendList fitting
      room := s.room.map (· - bytes.length) },
    fitting.length == bytes.length)

def full : String := "sink full"

def flushFailure : String := "flush failed"

end Sink

/-- The sink of a JSON lines player and the number of lines completed. -/
structure LineWriter where
  sink : Sink := {}
  processed : Nat := 0
  deriving Inhabited

def bytesOf (s : String) : List UInt8 := s.toUTF8.toList

/-- Writes each sprite as a line of compact JSON. What fits of a line stays in the sink when the rest
does not. -/
def jsonLines : Player LineWriter where
  start st := (st, .ok ())
  accepts _ _ := true
  play st s :=
    match st.sink.write (bytesOf s.toJson.text) with
    | (sink, false) => ({ st with sink }, .error (.jsonParse Sink.full))
    | (sink, true) =>
      match sink.write (bytesOf "\n") with
      | (sink, false) => ({ st with sink }, .error (.storage Sink.full))
      | (sink, true) => (⟨sink, st.processed + 1⟩, .ok ())
  finish st :=
    if st.sink.flushFails then (st, .error (.storage Sink.flushFailure)) else (st, .ok ())
  processed st := st.processed

end Causeway
