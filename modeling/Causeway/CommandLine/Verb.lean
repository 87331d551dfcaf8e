import Causeway.CommandLine.Basic
import Causeway.Number.Decimal

/-!
The options of the command line and the commands that take them. `Settings.set` takes an option with
its value, `Verb.command` makes a command of what has been set.
-/

namespace Causeway.CommandLine

open Number

inductive Opt where
  | pluginsFolder
  | format
  | verbose
  | descriptor
  | query
  | param
  | limit
  | id
  | direction
  | label
  | hops
  | help
  | version
  deriving DecidableEq, Repr

namespace Opt

/-- The name that follows two hyphens. -/
def long : Opt → String
  | pluginsFolder => "plugins-dir"
  | format => "format"
  | verbose => "verbose"
  | descriptor => "datasource"
  | query => "query"
  | param => "param"
  | limit => "limit"
  | id => "id"
  | direction => "direction"
  | label => "label"
  | hops => "hops"
  | help => "help"
  | version => "version"

/-- The letter that follows one hyphen. -/
def short? : Opt → Option Char
  | pluginsFolder => some 'p'
  | format => some 'f'
  | verbose => some 'v'
  | descriptor => some 'd'
  | query => some 'q'
  | help => some 'h'
  | version => some 'V'
  | _ => none

def takesValue : Opt → Bool
  | verbose => false
  | help => false
  | version => false
  | _ => true

/-- The options of every command. -/
def shared : List Opt := [pluginsFolder, format, verbose, help]

end Opt

/-- What options have been set to. -/
structure Settings where
  pluginsFolder : Option String := none
  format : Option OutputFormat := none
  verbose : Bool := false
  descriptor : Option String := none
  query : Option String := none
  params : List String := []
  limit : Option Nat := none
  ids : List String := []
  direction : Option String := none
  label : Option String := none
  hops : Option Nat := none
  deriving DecidableEq, Repr, Inhabited

/-- A path is not empty. -/
def readPath (s : String) : Except UsageError String :=
  if s = "" then .error .invalidValue else .ok s

def readFormat (s : String) : Except UsageError OutputFormat :=
  match OutputFormat.ofName? s with
  | some f => .ok f
  | none => .error .invalidValue

/-- A count is below `2 ^ 64` and may have a plus in front. -/
def readCount (s : String) : Except UsageError Nat :=
  let digits := match s.toList with
    | '+' :: r => r
    | r => r
  match (readNat digits).filter (· < UInt64.size) with
  | some n => .ok n
  | none => .error .unreadableValue

/-- The value of an option that goes once. -/
def once {α : Type} (old : Option α) (value : Except UsageError α) : Except UsageError (Option α) :=
  match old with
  | some _ => .error .argumentRepeated
  | none => value.map some

namespace Settings

def set (s : Settings) (o : Opt) (value : String) : Except UsageError Settings :=
  match o with
  | .pluginsFolder =>
    (once s.pluginsFolder (readPath value)).map fun x => { s with pluginsFolder := x }
  | .format => (once s.format (readFormat value)).map fun x => { s with format := x }
  | .verbose =>
    if s.verbose then .error .argumentRepeated else .ok { s with verbose := true }
  | .descriptor => (once s.descriptor (readPath value)).map fun x => { s with descriptor := x }
  | .query => (once s.query (.ok value)).map fun x => { s with query := x }
  | .param => .ok { s with params := s.params ++ [value] }
  | .limit => (once s.limit (readCount value)).map fun x => { s with limit := x }
  | .id => .ok { s with ids := s.ids ++ [value] }
  | .direction => (once s.direction (.ok value)).map fun x => { s with direction := x }
  | .label => (once s.label (.ok value)).map fun x => { s with label := x }
  | .hops => (once s.hops (readCount value)).map fun x => { s with hops := x }
  | .help => .error .helpRequested
  | .version => .error .versionRequested

end Settings

/-- The commands by name. -/
inductive Verb where
  | providers
  | check
  | metadata
  | query
  | graph
  | expand
  | load
  | index
  deriving DecidableEq, Repr

namespace Verb

def all : List Verb := [providers, check, metadata, query, graph, expand, load, index]

def name : Verb → String
  | providers => "providers"
  | check => "check"
  | metadata => "metadata"
  | query => "query"
  | graph => "graph"
  | expand => "expand"
  | load => "load"
  | index => "index"

def ofName? (s : String) : Option Verb := all.find? fun v => v.name == s

/-- The options of a command besides the shared ones. -/
def ownOptions : Verb → List Opt
  | providers => []
  | check => [.descriptor]
  | metadata => [.descriptor]
  | query => [.descriptor, .query, .param, .limit]
  | graph => [.descriptor, .query, .limit]
  | expand => [.descriptor, .id, .direction, .label, .hops]
  | load => [.descriptor, .id]
  | index => [.descriptor]

def options (v : Verb) : List Opt := v.ownOptions ++ Opt.shared

/-- The most rows, nodes and edges that come without being asked for more. -/
def defaultLimit : Nat := 100

def needed {α : Type} : Option α → Except UsageError α
  | some x => .ok x
  | none => .error .argumentMissing

def neededIds : List String → Except UsageError (List String)
  | [] => .error .argumentMissing
  | ids => .ok ids

/-- The command of a name with its settings; what is needed has to be there. -/
def command (v : Verb) (s : Settings) : Except UsageError Command := do
  match v with
  | providers => pure .providers
  | check => pure (.check (← needed s.descriptor))
  | metadata => pure (.metadata (← needed s.descriptor))
  | query =>
    pure (.query (← needed s.descriptor) (← needed s.query) s.params (s.limit.getD defaultLimit))
  | graph => pure (.graph (← needed s.descriptor) (← needed s.query) (s.limit.getD defaultLimit))
  | expand =>
    pure (.expand (← needed s.descriptor) (← neededIds s.ids) (s.direction.getD "both") s.label
      (s.hops.getD 1))
  | load => pure (.load (← needed s.descriptor) (← neededIds s.ids))
  | index => pure (.index (← needed s.descriptor))

end Verb

end Causeway.CommandLine
