import Causeway.Ssh.Opening

/-!
Sessions held by an SSH client: a master process with a control socket, to which forwards are added and
which is killed in the end. What the client does is a schedule.
-/

namespace Causeway.Ssh

/-- The options of a master that asks nothing and gives up when it cannot forward. -/
def masterOptions : List String := [
  "StrictHostKeyChecking=no", "UserKnownHostsFile=/dev/null", "BatchMode=yes", "IdentitiesOnly=yes",
  "ExitOnForwardFailure=yes", "ServerAliveInterval=30"]

def masterArguments (c : Config) (socket : String) (t : SshTarget) : List String :=
  ["-M", "-S", socket, "-N"] ++ masterOptions.flatMap (fun o => ["-o", o]) ++
    ["-i", c.privateKey, "-p", toString t.port.toNat, "-l", t.user, t.gateway]

def checkArguments (socket : String) (t : SshTarget) : List String :=
  ["-S", socket, "-O", "check", t.gateway]

/-- A local port, a host and its port, as the client takes them. -/
def forwardSpec (localPort : String) (host : String) (port : UInt16) : String :=
  "127.0.0.1:" ++ localPort ++ ":" ++ host ++ ":" ++ toString port.toNat

def forwardArguments (socket : String) (t : SshTarget) (spec : String) : List String :=
  ["-S", socket, "-O", "forward", "-L", spec, t.gateway]

namespace Client

def connect (c : Config) (s : Schedule) (t : SshTarget) : Outcome Unit :=
  ((Opening.start c s.keys s.spawn).run c t s.turns).result?.getD .cancelled

/-- What the client answers when it is asked to forward: a status and its error text. -/
def forwarded (t : SshTarget) (spec : String) (status : Nat) (stderr : String) : Outcome Unit :=
  if status = 0 then .ok ()
  else
    .error (.tunnel ("Port forward " ++ spec ++ " via " ++ t.gateway ++ " failed: " ++
      Text.trimmed stderr) none)

/-- Sessions of the client, given what it does on being started and what it answers on being asked to
forward. -/
def connector (c : Config) (freePort : Except Error UInt16) (schedule : Schedule)
    (status : Nat) (stderr : String) : Connector where
  freePort
  connect t := connect c schedule t
  forward t localPort host port :=
    forwarded t (forwardSpec (toString localPort.toNat) host port) status stderr

end Client

end Causeway.Ssh
