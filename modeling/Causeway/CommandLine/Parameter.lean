import Causeway.Json.Reader
import Causeway.Value.Basic

/-!
Query parameters as they are written on the command line.
-/

namespace Causeway.CommandLine

/-- JSON scalars keep their type, anything else is text. -/
def readParameter (s : String) : Value :=
  match Json.read? s with
  | some (.array _) => .string s
  | some (.object _) => .string s
  | some j => .ofJson j
  | none => .string s

end Causeway.CommandLine
