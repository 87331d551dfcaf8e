import Causeway.CommandLine.Arguments
import Causeway.CommandLine.Parameter
import Causeway.Descriptor
import Causeway.Plugin.Catalog
import Causeway.Plugin.Registry
import Causeway.Ssh.Client
import Causeway.Text.Bytes

/-!
Running invocations: what is written, and how it ends. Messages are JSON objects with a type; an index is
written as lines of JSON.
-/

namespace Causeway.CommandLine

/-- What an invocation finds around it. -/
structure Surroundings where
  files : FileTree
  /-- The environment variables. -/
  lookup : String → Option String := fun _ => none
  /-- How sessions turn out with some settings. -/
  connector : Ssh.Config → Connector

/-- The plugins that serve, and the tunnel behind which they serve remote data sources. -/
structure Deployment where
  plugins : Catalog
  tunnel : Tunnel

/-- What an invocation writes and how it ends. -/
structure Report where
  written : String := ""
  outcome : Outcome Unit

namespace Deployment

/-- The built-in plugins, or those of a folder of manifests. -/
def load (w : Surroundings) (folder : Option String) : Except Error Deployment := do
  let c ← Ssh.Config.ofLookup w.lookup
  let plugins ← match folder with
    | some p => Catalog.scan w.files (.builtin w.files) p
    | none => Catalog.builtin w.files
  pure { plugins, tunnel := ⟨w.connector c, c.defaultUser⟩ }

/-- A deployment with the data source of a descriptor file, which is read first. -/
def openSource (w : Surroundings) (folder : Option String) (path : String) :
    Except Error (Deployment × DataSource) := do
  let ds ← DataSource.ofFile w.files path
  let d ← load w folder
  pure (d, ds)

def registry (d : Deployment) (c : Capability) : Registry c := .ofPlugins c d.plugins d.tunnel

/-- The types of data sources served for each capability. -/
def describe (d : Deployment) : Json :=
  .obj ((describePlugins d.plugins d.tunnel).map fun (c, tags) => (c.name, .ofNames tags))

/-- Checks a connection with the first of some services that there is; whether it works is inside. -/
def check (d : Deployment) (ds : DataSource) : Except Error (Outcome Unit) :=
  if (d.registry .graph).provides.contains ds.type then
    ((d.registry .graph).create ds).map fun s =>
      (s.serve ds Graph.Request.probe).outcome.map fun _ => ()
  else if (d.registry .table).provides.contains ds.type then
    ((d.registry .table).create ds).map fun s =>
      let request : Table.Request := { text := Relational.probeQuery, limit := 1 }
      (s.serve ds request).outcome.map fun _ => ()
  else
    ((d.registry .metadata).create ds).map fun s => (s.serve ds ()).outcome.map fun _ => ()

end Deployment

namespace Invocation

/-- The text of a message. -/
def message (i : Invocation) (type key : String) (content : Json) : String :=
  let j : Json := .obj [("type", .string type), (key, content)]
  match i.format with
  | .json => j.text ++ "\n"
  | .pretty => j.indentedText ++ "\n"

/-- Writes an answer, if there is one, as a message. -/
def report {α : Type} (i : Invocation) (type key : String) (f : α → Json) (r : Outcome α) :
    Report where
  written := match r with
    | .ok a => i.message type key (f a)
    | _ => ""
  outcome := r.map fun _ => ()

/-- The answer of the service for the data source of a descriptor file. -/
def ask (i : Invocation) (w : Surroundings) (path : String) (c : Capability) (request : c.Request) :
    Outcome c.Answer :=
  match Deployment.openSource w i.pluginsFolder path with
  | .error e => .error e
  | .ok (d, ds) => ((d.registry c).serve ds request).outcome

def reportGraph (i : Invocation) (w : Surroundings) (path : String) (request : Graph.Request) : Report :=
  i.report "GRAPH" "graph" Graph.toJson (i.ask w path .graph request)

def statusJson (status message : String) : Json :=
  .obj [("status", .string status), ("message", .string message)]

/-- Announces a check and reports its result; a data source that does not answer is a result too. -/
def reportCheck (i : Invocation) (w : Surroundings) (path : String) : Report :=
  match Deployment.openSource w i.pluginsFolder path with
  | .error e => { outcome := .error e }
  | .ok (d, ds) =>
    let announced := i.message "LOG" "log" (.obj [
      ("level", .string "INFO"), ("message", .string ("Checking connection to " ++ ds.name))])
    let status (s m : String) : Report :=
      ⟨announced ++ i.message "CONNECTION_STATUS" "connectionStatus" (statusJson s m), .ok ()⟩
    match d.check ds with
    | .error e => ⟨announced, .error e⟩
    | .ok (.ok _) => status "SUCCEEDED" "Connection successful"
    | .ok (.error e) => status "FAILED" ("Connection failed: " ++ e.message)
    | .ok r => ⟨announced, r⟩

/-- Writes every sprite of an index, up to the first failure. -/
def reportIndex (i : Invocation) (w : Surroundings) (path : String) : Report :=
  match i.ask w path .index () with
  | .ok script =>
    let (lines, r) := Script.playOn script jsonLines {}
    ⟨Text.ofBytes lines.sink.written.toList, .ofExcept r⟩
  | r => { outcome := r.map fun _ => () }

def run (i : Invocation) (w : Surroundings) : Report :=
  match i.command with
  | .providers =>
    i.report "PROVIDERS" "providers" Deployment.describe
      (.ofExcept (Deployment.load w i.pluginsFolder))
  | .check path => i.reportCheck w path
  | .metadata path => i.report "METADATA" "metadata" Metadata.toJson (i.ask w path .metadata ())
  | .query path text params limit =>
    let request : Table.Request := { text, params := params.map readParameter, limit }
    i.report "TABLE" "table" Table.toJson (i.ask w path .table request)
  | .graph path text limit => i.reportGraph w path (.query text limit)
  | .expand path ids direction label hops =>
    match Direction.parse direction with
    | .ok direction => i.reportGraph w path (.expand ids direction label hops)
    | .error e => { outcome := .error e }
  | .load path ids => i.reportGraph w path (.load ids)
  | .index path => i.reportIndex w path

end Invocation

end Causeway.CommandLine
