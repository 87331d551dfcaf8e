/-!
What can go wrong, as causes. `Error.message` words a cause; contexts wrap an error without hiding
what kind of failure it is.
-/

namespace Causeway

/-- An error from outside: what it says, and what the errors below it say, the nearest first. -/
structure Cause where
  text : String
  below : List String := []
  deriving DecidableEq, Repr, Inhabited

instance : Coe String Cause := ⟨fun text => { text }⟩

/-- The next error below one from outside. -/
def Cause.source? : Cause → Option Cause
  | ⟨_, []⟩ => none
  | ⟨_, text :: below⟩ => some ⟨text, below⟩

/-- The cause of a failure. -/
inductive Error where
  | config (message : String)
  | unsupportedDataSource (tag : String)
  | yamlParse (cause : Cause)
  | jsonParse (cause : Cause)
  | tunnel (message : String) (cause : Option Cause)
  | noFreePort (cause : Cause)
  | backend (message : String) (cause : Option Cause)
  | database (cause : Cause)
  | notFound (what : String)
  | invalidId (id : String) (dataSource : Int)
  | noSuchField (field : String)
  | valueType (field expected : String)
  | storage (cause : Cause)
  | other (message : String)
  | context (message : String) (inner : Error)
  /-- An error from outside that is passed on as it is. -/
  | foreign (cause : Cause)
  deriving DecidableEq, Repr, Inhabited

namespace Error

def message : Error → String
  | .config m => "Configuration error: " ++ m
  | .unsupportedDataSource tag => "Unsupported data source type: " ++ tag
  | .yamlParse c => "Failed to parse YAML: " ++ c.text
  | .jsonParse c => "Failed to parse JSON: " ++ c.text
  | .tunnel m _ => "SSH tunnel error: " ++ m
  | .noFreePort c => "No free local port available: " ++ c.text
  | .backend m _ => "Backend error: " ++ m
  | .database c => "Database error: " ++ c.text
  | .notFound what => "Not found: " ++ what
  | .invalidId id ds => "Invalid element id '" ++ id ++ "' for data source " ++ toString ds
  | .noSuchField f => "No such field or value: " ++ f
  | .valueType f expected => "Value of field '" ++ f ++ "' is not a " ++ expected
  | .storage c => "IO error: " ++ c.text
  | .other m => m
  | .context m e => m ++ ": " ++ e.message
  | .foreign c => c.text

theorem message_context (m : String) (e : Error) :
    (context m e).message = m ++ ": " ++ e.message :=
  rfl

/-- Whether the caller misconfigured something. -/
def isConfiguration : Error → Bool
  | .config _ | .unsupportedDataSource _ | .yamlParse _ | .jsonParse _ => true
  | .context _ e => e.isConfiguration
  | _ => false

/-- Whether the data source could not be reached. -/
def isConnectivity : Error → Bool
  | .tunnel _ _ | .noFreePort _ => true
  | .context _ e => e.isConnectivity
  | _ => false

/-- The error that an error names as its source. -/
def source? : Error → Option (Error ⊕ Cause)
  | .yamlParse c | .jsonParse c | .noFreePort c | .database c | .storage c => some (.inr c)
  | .tunnel _ c | .backend _ c => c.map .inr
  | .context _ e => some (.inl e)
  | .foreign c => c.source?.map .inr
  | _ => none

theorem sizeOf_lt_of_source? {e inner : Error} (h : e.source? = some (.inl inner)) :
    sizeOf inner < sizeOf e := by
  cases e with
  | context m e =>
    cases h
    rw [context.sizeOf_spec]
    omega
  | tunnel _ c | backend _ c => simp [source?] at h
  | foreign c => simp [source?] at h
  | _ => cases h

/-- The texts met on the way from source to source, the nearest first. -/
def sources (e : Error) : List String :=
  match _ : e.source? with
  | none => []
  | some (.inl inner) => inner.message :: inner.sources
  | some (.inr c) => c.text :: c.below
termination_by sizeOf e
decreasing_by exact sizeOf_lt_of_source? ‹_›

theorem sources_context (m : String) (e : Error) :
    (context m e).sources = e.message :: e.sources := by
  rw [sources]
  rfl

/-- Wraps an error under each message, the last one outermost. -/
def withContexts (e : Error) (messages : List String) : Error :=
  messages.foldl (fun e m => .context m e) e

theorem withContexts_concat (e : Error) (messages : List String) (m : String) :
    e.withContexts (messages ++ [m]) = .context m (e.withContexts messages) :=
  List.foldl_append

end Error

/-- Errors of another kind, each of which is one of these. -/
class ToError (ε : Type) where
  toError : ε → Error

export ToError (toError)

instance : ToError Error := ⟨id⟩

/-- Adds a context to the error of a failed computation; its message is made for a failure only. -/
def inContextBy {ε α : Type} [ToError ε] (message : Unit → String) (r : Except ε α) :
    Except Error α :=
  r.mapError fun e => .context (message ()) (toError e)

/-- Adds a context to the error of a failed computation. -/
def inContext {ε α : Type} [ToError ε] (message : String) (r : Except ε α) : Except Error α :=
  inContextBy (fun _ => message) r

/-- What two steps return comes from what the first one returned. -/
theorem exists_of_bind_eq_ok {α β : Type} {x : Except Error α} {f : α → Except Error β} {b : β}
    (h : x >>= f = .ok b) : ∃ a, x = .ok a ∧ f a = .ok b := by
  cases x with
  | error e => cases h
  | ok a => exact ⟨a, rfl, h⟩

end Causeway
