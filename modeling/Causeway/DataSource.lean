import Causeway.Error
import Causeway.Text.Blank
import Causeway.Json.Basic
import Causeway.Document.Reading

/-!
Data source descriptors: what is needed to reach one data source, directly or through an SSH gateway.
-/

namespace Causeway

/-- The SSH port of a descriptor that names none. -/
def defaultSshPort : UInt16 := 22

/-- The connection descriptor of one data source. -/
structure DataSource where
  id : Int
  /-- The kind of data source, matched against what providers serve. -/
  type : String
  name : String
  description : String := ""
  server : String := ""
  port : UInt16 := 0
  database : String := ""
  username : String := ""
  password : String := ""
  aggregationEnabled : Bool := false
  /-- Options for the data source, passed on as they are. -/
  connectionProperties : NameMap String := NameMap.empty
  enableSsl : Bool := false
  skipCertValidation : Bool := false
  /-- Whether the data source is reached through a gateway. -/
  remote : Bool := false
  gateway : String := ""
  sshPort : UInt16 := defaultSshPort
  /-- Blank for the tunnel's default user. -/
  sshUser : String := ""

namespace DataSource

/-- The descriptor behind a local port; it is never remote, so it is not tunneled twice. -/
def toLocal (ds : DataSource) (port : UInt16) : DataSource :=
  { ds with server := "localhost", port, remote := false }

def withProperty (ds : DataSource) (key value : String) : DataSource :=
  { ds with connectionProperties := ds.connectionProperties.insert key value }

def withGateway (ds : DataSource) (gateway : String) (sshPort : UInt16) (sshUser : String) :
    DataSource :=
  { ds with remote := true, gateway, sshPort, sshUser }

/-- A remote descriptor needs a gateway and an SSH port. -/
def validateRemote (ds : DataSource) : Except Error Unit :=
  if !ds.remote then .ok ()
  else if Text.isBlankText ds.gateway then
    .error (.config ("Data source '" ++ ds.name ++ "' is remote but has no gateway"))
  else if ds.sshPort = 0 then
    .error (.config ("Data source '" ++ ds.name ++ "' is remote but has no SSH port"))
  else .ok ()

/-- Every descriptor needs a name and a type without white space around it. -/
def validate (ds : DataSource) : Except Error Unit :=
  if Text.isBlankText ds.name then .error (.config "Data source name cannot be empty")
  else if Text.isBlankText ds.type then
    .error (.config ("Data source '" ++ ds.name ++ "' has no type"))
  else if ds.type ≠ Text.trimmed ds.type then
    .error (.config ("Data source '" ++ ds.name ++ "' type '" ++ ds.type ++
      "' has surrounding whitespace"))
  else ds.validateRemote

theorem validateRemote_of_validate {ds : DataSource} (h : ds.validate = .ok ()) :
    ds.validateRemote = .ok () := by
  unfold validate at h
  split at h
  · cases h
  · split at h
    · cases h
    · split at h
      · cases h
      · exact h

/-- Nothing is asked of a gateway but that there is one, and of its port but that it is not zero. -/
theorem validateRemote_eq_ok_iff {ds : DataSource} (hremote : ds.remote = true) :
    ds.validateRemote = .ok () ↔ Text.isBlankText ds.gateway = false ∧ ds.sshPort ≠ 0 := by
  unfold validateRemote
  rw [hremote]
  cases Text.isBlankText ds.gateway with
  | true => simp
  | false => by_cases hport : ds.sshPort = 0 <;> simp [hport]

def fieldNames : List String := [
  "id", "type", "name", "description", "server", "port", "database", "username", "password",
  "aggregationEnabled", "connectionProperties", "enableSsl", "skipCertValidation", "remote",
  "gateway", "sshPort", "sshUser"]

def toJson (ds : DataSource) : Json := .obj [
  ("id", .integer ds.id),
  ("type", .string ds.type),
  ("name", .string ds.name),
  ("description", .string ds.description),
  ("server", .string ds.server),
  ("port", .integer ds.port.toNat),
  ("database", .string ds.database),
  ("username", .string ds.username),
  ("password", .string ds.password),
  ("aggregationEnabled", .bool ds.aggregationEnabled),
  ("connectionProperties", .object (ds.connectionProperties.map fun _ s => .string s).entries),
  ("enableSsl", .bool ds.enableSsl),
  ("skipCertValidation", .bool ds.skipCertValidation),
  ("remote", .bool ds.remote),
  ("gateway", .string ds.gateway),
  ("sshPort", .integer ds.sshPort.toNat),
  ("sshUser", .string ds.sshUser)]

def readPort {ν : Type} (r : Reading ν) (x : ν) : Option UInt16 :=
  (r.integerWithin 0 65535 x).map fun i => UInt16.ofNat i.toNat

/-- Reads a descriptor; only its id, type and name have to be there. -/
def read {ν : Type} (r : Reading ν) (x : ν) : Option DataSource := do
  let text := Reading.withDefault r.text ""
  let flag := Reading.withDefault r.bool false
  match ← r.fields fieldNames x with
  | [id, type, name, description, server, port, database, username, password, aggregationEnabled,
      connectionProperties, enableSsl, skipCertValidation, remote, gateway, sshPort, sshUser] => do
    let id ← Reading.required (r.integerWithin Int64.minValue.toInt Int64.maxValue.toInt) id
    let type ← Reading.required r.text type
    let name ← Reading.required r.text name
    pure {
      id, type, name
      description := ← text description
      server := ← text server
      port := ← Reading.withDefault (readPort r) 0 port
      database := ← text database
      username := ← text username
      password := ← text password
      aggregationEnabled := ← flag aggregationEnabled
      connectionProperties :=
        ← Reading.withDefault (r.mapOf r.text) NameMap.empty connectionProperties
      enableSsl := ← flag enableSsl
      skipCertValidation := ← flag skipCertValidation
      remote := ← flag remote
      gateway := ← text gateway
      sshPort := ← Reading.withDefault (readPort r) defaultSshPort sshPort
      sshUser := ← text sshUser }
  | _ => none

end DataSource

end Causeway
