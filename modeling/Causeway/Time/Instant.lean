import Causeway.Number.Layout
import Causeway.Number.Decimal
import Causeway.Time.Calendar

/-!
Instants in UTC to the nanosecond, and their text by RFC 3339. A leap second is the second before
it with a billion nanoseconds or more.
-/

namespace Causeway.Time

open Number

/-- Seconds since 1970-01-01T00:00:00Z and nanoseconds on top of them. -/
structure Instant where
  seconds : Int
  nanos : Nat
  deriving DecidableEq, Repr

def billion : Nat := 1000000000

def secondsPerDay : Nat := 86400

/-- How the offset of UTC is written. -/
inductive Zone where
  | numeric
  | zulu

namespace Instant

def dayNumber (i : Instant) : Int := i.seconds / secondsPerDay

def secondOfDay (i : Instant) : Nat := (i.seconds % secondsPerDay).toNat

/-- Whether the day of the instant can be told. -/
def inRange (i : Instant) : Bool := Date.firstDay ≤ i.dayNumber && i.dayNumber ≤ Date.lastDay

def ofSeconds? (seconds : Int) (nanos : Nat) : Option Instant :=
  let i : Instant := ⟨seconds, nanos⟩
  if i.inRange then some i else none

/-- An instant given by a count of units that are `perSecond` to a second. -/
def ofUnits? (perSecond : Nat) (n : Int) : Option Instant :=
  ofSeconds? (n / perSecond) ((n % perSecond).toNat * (billion / perSecond))

/-- Midnight at the start of a day. -/
def ofDayNumber (n : Int) : Instant := ⟨n * secondsPerDay, 0⟩

/-- Whole microseconds since 1970, rounded down. -/
def micros (i : Instant) : Int := i.seconds * 1000000 + (i.nanos / 1000 : Nat)

def padded (width n : Nat) : List Char :=
  let ds := decimalChars n
  List.replicate (width - ds.length) '0' ++ ds

/-- Years of four digits stand alone; others have a sign and at least four digits. -/
def yearText (y : Int) : List Char :=
  if 0 ≤ y ∧ y ≤ 9999 then padded 4 y.toNat
  else (if y < 0 then '-' else '+') :: padded 4 y.natAbs

/-- Nothing, three, six or nine digits, as few as show the whole fraction. -/
def fractionText (nanos : Nat) : List Char :=
  if nanos = 0 then []
  else if nanos % 1000000 = 0 then '.' :: padded 3 (nanos / 1000000)
  else if nanos % 1000 = 0 then '.' :: padded 6 (nanos / 1000)
  else '.' :: padded 9 nanos

def zoneText : Zone → List Char
  | .numeric => "+00:00".toList
  | .zulu => ['Z']

/-- The instant by RFC 3339; a leap second is written as second 60. -/
def chars (zone : Zone) (i : Instant) : List Char :=
  let date := Date.ofDayNumber i.dayNumber
  let t := i.secondOfDay
  let leap := i.nanos / billion
  yearText date.year ++ '-' :: padded 2 date.month ++ '-' :: padded 2 date.day ++ 'T' ::
    padded 2 (t / 3600) ++ ':' :: padded 2 (t / 60 % 60) ++ ':' :: padded 2 (t % 60 + leap) ++
    fractionText (i.nanos % billion) ++ zoneText zone

def text (zone : Zone) (i : Instant) : String := String.ofList (i.chars zone)

/-- Takes exactly `width` digits. -/
def takeNumber (width : Nat) (s : List Char) : Option (Nat × List Char) :=
  let ds := s.take width
  if ds.length = width ∧ ds.all isDigit then some (ofDigits ds, s.drop width) else none

def takeChar (c : Char) : List Char → Option (List Char)
  | d :: r => if d = c then some r else none
  | [] => none

/-- The nanoseconds of a fraction; digits after the ninth are dropped. -/
def takeFraction : List Char → Option (Nat × List Char)
  | '.' :: r =>
    let ds := r.takeWhile isDigit
    if ds.isEmpty then none
    else
      let kept := ds.take 9
      some (ofDigits kept * tenPow (9 - kept.length), r.dropWhile isDigit)
  | s => some (0, s)

/-- `Z`, or hours and minutes with a sign; the true minus sign is one too. Seconds east of UTC. -/
def takeOffset : List Char → Option (Int × List Char)
  | [] => none
  | c :: r =>
    if c = 'Z' ∨ c = 'z' then some (0, r)
    else if c = '+' ∨ c = '-' ∨ c = '−' then do
      let (h, r) ← takeNumber 2 r
      let r ← takeChar ':' r
      let (m, r) ← takeNumber 2 r
      if 59 < m ∨ 23 < h then none
      else
        let s : Int := (h * 60 + m) * 60
        some (if c = '+' then s else -s, r)
    else none

/-- Reads RFC 3339 text: date and time are separated by `T`, `t` or a blank, and second 60 is a
leap second at any minute. -/
def read (s : List Char) : Option Instant := do
  let (year, s) ← takeNumber 4 s
  let s ← takeChar '-' s
  let (month, s) ← takeNumber 2 s
  let s ← takeChar '-' s
  let (day, s) ← takeNumber 2 s
  let s ← match s with
    | c :: r => if c = 'T' ∨ c = 't' ∨ c = ' ' then some r else none
    | [] => none
  let (hour, s) ← takeNumber 2 s
  let s ← takeChar ':' s
  let (minute, s) ← takeNumber 2 s
  let s ← takeChar ':' s
  let (second, s) ← takeNumber 2 s
  let (nanos, s) ← takeFraction s
  let (offset, s) ← takeOffset s
  let date : Date := ⟨year, month, day⟩
  if s.isEmpty ∧ date.IsValid ∧ hour ≤ 23 ∧ minute ≤ 59 ∧ second ≤ 60 then
    let leap := second / 60
    let wall : Int := date.dayNumber * secondsPerDay +
      ((hour * 60 + minute) * 60 + (second - leap) : Nat)
    ofSeconds? (wall - offset) (nanos + leap * billion)
  else none

end Instant

end Causeway.Time
