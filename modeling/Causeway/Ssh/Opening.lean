import Causeway.Ssh.Config
import Causeway.Ssh.Process
import Causeway.Tunnel.Call

/-!
Opening a session: a master is started and asked in rounds whether it answers, until it does, it ends or
the time is over. `Opening.step` does one turn of the client, the master or the system at a time; where
the opening waits for others it can be dropped.
-/

namespace Causeway.Ssh

/-- A number of milliseconds: whole ones below a second, else seconds with as many places as needed. -/
def durationText (ms : Nat) : String :=
  if ms = 0 then "0ns"
  else if ms < 1000 then toString ms ++ "ms"
  else
    let places := Number.withPoint (Number.decimalChars (ms % 1000)) 3
    let fraction := ((places.drop 1).reverse.dropWhile (· == '0')).reverse
    toString (ms / 1000) ++ String.ofList (if fraction = ['.'] then [] else fraction) ++ "s"

def exitMessage (t : SshTarget) (status : ExitStatus) (stderr : String) : String :=
  "ssh to " ++ t.user ++ "@" ++ t.gateway ++ ":" ++ toString t.port.toNat ++ " exited with " ++
    status.text ++ ": " ++ Text.trimmed stderr

def timeoutMessage (c : Config) (t : SshTarget) : String :=
  "Timed out after " ++ durationText c.timeout ++ " connecting to " ++ t.gateway ++ ":" ++
    toString t.port.toNat

/-- What happens next while a session is opened. -/
inductive Turn where
  | master (d : Deed)
  /-- The master is asked for its exit status; the system may refuse, for a cause. -/
  | poll (refusal : Option String)
  /-- All that an ended master wrote to its standard error was read. -/
  | told (stderr : String)
  /-- The check of the socket is over: whether the master answers, and whether the time is over. -/
  | checked (answers late : Bool)
  | woken
  /-- The caller gives up. -/
  | dropped
  deriving DecidableEq, Repr

/-- Where the opening of a session stands. -/
inductive Opening where
  | polling (m : Master)
  /-- Reads what an ended master wrote. -/
  | reading (m : Master) (status : ExitStatus)
  | checking (m : Master)
  | sleeping (m : Master)
  | opened (m : Master)
  /-- With what is left of the master, if one was started. -/
  | failed (e : Error) (left : Option Master)
  | dropped (left : Master)
  deriving DecidableEq, Repr

namespace Opening

def start (c : Config) (keys : Except Error Unit) (spawn : Except String Unit) : Opening :=
  match keys with
  | .error e => .failed e none
  | .ok _ =>
    match spawn with
    | .error cause => .failed (.tunnel ("Failed to start " ++ c.binary) (some cause)) none
    | .ok _ => .polling {}

/-- A master that does not get ready is killed, its socket removed and its handle let go. -/
def fail (e : Error) (m : Master) : Opening := .failed e (some m.kill.removeSocket.letGo)

def deed (d : Deed) : Opening → Opening
  | .polling m => .polling (m.deed d)
  | .reading m status => .reading (m.deed d) status
  | .checking m => .checking (m.deed d)
  | .sleeping m => .sleeping (m.deed d)
  | .opened m => .opened (m.deed d)
  | .failed e left => .failed e (left.map (·.deed d))
  | .dropped m => .dropped (m.deed d)

def poll (refusal : Option String) : Opening → Opening
  | .polling m =>
    match refusal, m.ended with
    | some cause, _ => fail (.tunnel "Failed to poll ssh process" (some cause)) m
    | none, some status => .reading m.reap status
    | none, none => .checking m
  | o => o

def told (t : SshTarget) (stderr : String) : Opening → Opening
  | .reading m status => fail (.tunnel (exitMessage t status stderr) none) m
  | o => o

def checked (c : Config) (t : SshTarget) (answers late : Bool) : Opening → Opening
  | .checking m =>
    if answers then .opened m
    else if late then fail (.tunnel (timeoutMessage c t) none) m
    else .sleeping m
  | o => o

def wake : Opening → Opening
  | .sleeping m => .polling m
  | o => o

/-- The master, where the opening waits for others. -/
def waiting? : Opening → Option Master
  | .reading m _ => some m
  | .checking m => some m
  | .sleeping m => some m
  | _ => none

/-- Only where it waits can the opening be dropped; the handle on the master goes out of scope there. -/
def drop (o : Opening) : Opening :=
  match o.waiting? with
  | some m => .dropped m.letGo
  | none => o

def step (c : Config) (t : SshTarget) (o : Opening) : Turn → Opening
  | .master d => o.deed d
  | .poll refusal => o.poll refusal
  | .told stderr => o.told t stderr
  | .checked answers late => o.checked c t answers late
  | .woken => o.wake
  | .dropped => o.drop

def run (c : Config) (t : SshTarget) (o : Opening) (turns : List Turn) : Opening :=
  turns.foldl (step c t) o

/-- What the caller is told. -/
def result? : Opening → Option (Outcome Unit)
  | .opened _ => some (.ok ())
  | .failed e _ => some (.error e)
  | .dropped _ => some .cancelled
  | _ => none

end Opening

/-- One round of waiting for the master: what is found. -/
inductive Round where
  | exited (status : Nat) (stderr : String)
  /-- The master answers on its socket. -/
  | ready
  | waiting
  /-- The master does not answer, and the time is over. -/
  | expired
  /-- The caller gives up. -/
  | dropped
  deriving DecidableEq, Repr

def Round.turns : Round → List Turn
  | .exited status stderr => [.master (.exit (.code status) true), .poll none, .told stderr]
  | .ready => [.poll none, .checked true false]
  | .waiting => [.poll none, .checked false false, .woken]
  | .expired => [.poll none, .checked false true]
  | .dropped => [.poll none, .dropped]

/-- What the client and the system do. -/
structure Schedule where
  keys : Except Error Unit
  /-- Whether the client starts, else why not. -/
  spawn : Except String Unit
  /-- Rounds of waiting; after the last one the caller gives up. -/
  rounds : List Round

def Schedule.turns (s : Schedule) : List Turn :=
  s.rounds.flatMap Round.turns ++ Round.dropped.turns

end Causeway.Ssh
