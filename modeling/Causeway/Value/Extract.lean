import Causeway.Value.Basic

/-!
Reading typed contents out of values. Texts are read leniently: they may have white space around the
number, the date or the truth value that they spell.
-/

namespace Causeway

open Number Time

namespace Value

def asText? : Value → Option String
  | .string s => some s
  | _ => none

def leastInt : Int := Int64.minValue.toInt

def greatestInt : Int := Int64.maxValue.toInt

/-- A float counts as an integer if it has no fraction; it is drawn into the range of integers. -/
def asInt? : Value → Option Int64
  | .int i => some i
  | .float d =>
    if d.isWhole then some (Int64.ofInt (d.truncateWithin leastInt greatestInt)) else none
  | .string s => (readIntWithin leastInt greatestInt (Text.trim s.toList)).map Int64.ofInt
  | _ => none

def asDouble? : Value → Option Double
  | .int i => some (Double.ofInt i.toInt)
  | .float d => some d
  | .string s => Double.read (Text.trim s.toList)
  | _ => none

def asBool? : Value → Option Bool
  | .bool b => some b
  | .string s =>
    let word := Text.lowered (Text.trimmed s)
    if word = "true" then some true else if word = "false" then some false else none
  | _ => none

def asInstant? : Value → Option Instant
  | .date i => some i
  | .string s => Instant.read (Text.trim s.toList)
  | _ => none

def asMap? : Value → Option (List (String × Value))
  | .map entries => some entries
  | _ => none

def asInt32? (v : Value) : Option Int :=
  v.asInt?.bind fun i =>
    if Int32.minValue.toInt ≤ i.toInt ∧ i.toInt ≤ Int32.maxValue.toInt then some i.toInt else none

def asSingle? (v : Value) : Option Single := v.asDouble?.map Single.ofDouble

end Value

/-- A type that can be read out of values, and its name in error texts. -/
structure Extractor (α : Type) where
  expected : String
  extract : Value → Option α

namespace Extractor

def value : Extractor Value := ⟨"value", some⟩

/-- Every value has a text. -/
def text : Extractor String := ⟨"string", fun v => some v.text⟩

def int64 : Extractor Int64 := ⟨"integer", Value.asInt?⟩

def int32 : Extractor Int := ⟨"integer", Value.asInt32?⟩

def double : Extractor Double := ⟨"number", Value.asDouble?⟩

def single : Extractor Single := ⟨"number", Value.asSingle?⟩

def bool : Extractor Bool := ⟨"boolean", Value.asBool?⟩

def instant : Extractor Instant := ⟨"date", Value.asInstant?⟩

def map : Extractor (List (String × Value)) := ⟨"map", Value.asMap?⟩

end Extractor

end Causeway
