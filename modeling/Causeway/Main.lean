import Causeway.CommandLine.Runner

/-!
The command line. Descriptors are read from the file system; with a folder of plugins, standard input
names the files in it and those that its manifests mention, one path a line. There is no SSH client
here, so remote data sources fail to connect.
-/

namespace Causeway.CommandLine

/-- Adds the content of a file, if it can be read. -/
def addFile (t : FileTree) (path : String) : IO FileTree := do
  try
    let bytes ← IO.FS.readBinFile path
    pure (t.add path (.bytes bytes.toList))
  catch _ => pure t

/-- The lines of standard input. -/
def inputPaths : IO (List String) := do
  let text ← (← IO.getStdin).readToEnd
  pure ((text.splitOn "\n").filter (· ≠ ""))

def Command.descriptor? : Command → Option String
  | .providers => none
  | .check p => some p
  | .metadata p => some p
  | .query p _ _ _ => some p
  | .graph p _ _ => some p
  | .expand p _ _ _ _ => some p
  | .load p _ => some p
  | .index p => some p

/-- The commands and the options of each. -/
def usage : String :=
  let option (o : Opt) : String :=
    " --" ++ o.long ++ (if o.takesValue then " <" ++ o.long ++ ">" else "")
  let line (v : Verb) : String :=
    "  " ++ v.name ++ String.join (v.ownOptions.map option) ++ "\n"
  "Usage: causeway <options> <command>\n\nCommands:\n" ++ String.join (Verb.all.map line) ++
    "\nOptions:\n " ++ String.join (Level.top.options.map option) ++ "\n"

def version : String := "causeway 0.1.0"

def environmentVariables : List String := [
  Ssh.privateKeyVariable, Ssh.publicKeyVariable, Ssh.userVariable, Ssh.binaryVariable,
  Ssh.timeoutVariable]

/-- Sessions where no client can be started. -/
def withoutClient (files : FileTree) (c : Ssh.Config) : Connector :=
  let schedule : Ssh.Schedule :=
    { keys := c.checkKeys files, spawn := .error "not available", rounds := [] }
  Ssh.Client.connector c (.ok 0) schedule 0 ""

def surroundings (i : Invocation) : IO Surroundings := do
  let mut files : FileTree := { folder := (← IO.currentDir).toString }
  for p in i.command.descriptor?.toList do
    files ← addFile files p
  if i.pluginsFolder.isSome then
    for p in ← inputPaths do
      files ← addFile files p
  let set ← environmentVariables.filterMapM fun name => do
    pure ((← IO.getEnv name).map fun value => (name, value))
  pure { files, lookup := fun name => set.lookup name, connector := withoutClient files }

def execute (i : Invocation) : IO UInt32 := do
  let report := i.run (← surroundings i)
  IO.print report.written
  match report.outcome with
  | .ok _ => pure 0
  | .error e =>
    IO.eprintln ("Error: " ++ e.message)
    pure 1
  | _ => pure 1

end Causeway.CommandLine

def main (arguments : List String) : IO UInt32 := do
  match Causeway.CommandLine.Invocation.parse arguments with
  | .ok i => Causeway.CommandLine.execute i
  | .error .helpRequested =>
    IO.print Causeway.CommandLine.usage
    pure 0
  | .error .versionRequested =>
    IO.println Causeway.CommandLine.version
    pure 0
  | .error e =>
    IO.eprintln ("error: " ++ e.message ++ "\n\n" ++ Causeway.CommandLine.usage)
    pure 2
