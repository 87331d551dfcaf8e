import Causeway.File.Path

/-!
Invocations of the command line: a command, and the settings that every command takes.
-/

namespace Causeway.CommandLine

/-- How messages are laid out. -/
inductive OutputFormat where
  /-- One message per line. -/
  | json
  | pretty
  deriving DecidableEq, Repr, Inhabited

def OutputFormat.name : OutputFormat → String
  | .json => "json"
  | .pretty => "pretty"

def OutputFormat.ofName? (s : String) : Option OutputFormat :=
  [OutputFormat.json, .pretty].find? fun f => f.name == s

/-- What to do, with the path of a descriptor where there is a data source to do it with. -/
inductive Command where
  | providers
  | check (descriptor : String)
  | metadata (descriptor : String)
  | query (descriptor text : String) (params : List String) (limit : Nat)
  | graph (descriptor text : String) (limit : Nat)
  | expand (descriptor : String) (ids : List String) (direction : String) (label : Option String)
    (hops : Nat)
  | load (descriptor : String) (ids : List String)
  | index (descriptor : String)
  deriving DecidableEq, Repr, Inhabited

structure Invocation where
  /-- The folder of manifests, where it is not the built-in plugins that serve. -/
  pluginsFolder : Option String := none
  format : OutputFormat := .json
  verbose : Bool := false
  command : Command
  deriving DecidableEq, Repr, Inhabited

/-- Why arguments are no invocation. -/
inductive UsageError where
  | helpRequested
  | versionRequested
  /-- There are no arguments at all. -/
  | nothingGiven
  | commandMissing
  | unknownCommand
  | unknownArgument
  | argumentMissing
  /-- An option that goes once is given again. -/
  | argumentRepeated
  /-- An option without its value, or with one that is not among the possible values. -/
  | invalidValue
  /-- A value that is not a number. -/
  | unreadableValue
  /-- A value for an option that takes none. -/
  | surplusValue
  deriving DecidableEq, Repr

def UsageError.message : UsageError → String
  | .helpRequested => "help requested"
  | .versionRequested => "version requested"
  | .nothingGiven => "a command is needed"
  | .commandMissing => "a command is missing"
  | .unknownCommand => "unknown command"
  | .unknownArgument => "unexpected argument"
  | .argumentMissing => "a required argument is missing"
  | .argumentRepeated => "an argument is given more than once"
  | .invalidValue => "invalid value"
  | .unreadableValue => "a value is not a number"
  | .surplusValue => "an option takes no value"

end Causeway.CommandLine
