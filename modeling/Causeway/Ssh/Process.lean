/-!
The master process of an SSH session and the file of its control socket, with what the handle on the
process remembers; the session over it, and the guard that holds the session. A signal that no process
can catch takes effect at once.
-/

namespace Causeway.Ssh

/-- How a process ended. -/
inductive ExitStatus where
  | code (n : Nat)
  | signal (n : Nat) (dumped : Bool)
  deriving DecidableEq, Repr

/-- The names of the signals from 1 on. -/
def signalNames : List String := [
  "HUP", "INT", "QUIT", "ILL", "TRAP", "ABRT", "BUS", "FPE", "KILL", "USR1", "SEGV", "USR2", "PIPE",
  "ALRM", "TERM", "STKFLT", "CHLD", "CONT", "STOP", "TSTP", "TTIN", "TTOU", "URG", "XCPU", "XFSZ",
  "VTALRM", "PROF", "WINCH", "IO", "PWR", "SYS"]

def signalText (n : Nat) : String :=
  match n with
  | 0 => "0"
  | k + 1 => toString n ++ signalNames[k]?.elim "" fun name => " (SIG" ++ name ++ ")"

namespace ExitStatus

/-- Of a process that was killed. -/
def killed : ExitStatus := .signal 9 false

def text : ExitStatus → String
  | .code n => "exit status: " ++ toString n
  | .signal n dumped => "signal: " ++ signalText n ++ if dumped then " (core dumped)" else ""

end ExitStatus

/-- What a master does of itself. -/
inductive Deed where
  /-- Listens on its control socket. -/
  | bind
  /-- Ends. One that ends tidily takes its socket with it. -/
  | exit (status : ExitStatus) (tidy : Bool)
  deriving DecidableEq, Repr

structure Master where
  /-- How the process has ended, none while it runs. -/
  ended : Option ExitStatus := none
  /-- Whether the file of the control socket is there. -/
  socket : Bool := false
  /-- Whether the exit status was collected; after that the process is out of reach. -/
  reaped : Bool := false
  /-- Whether the handle kills the process when it goes out of scope. -/
  killOnDrop : Bool := true
  /-- How often the process was killed. -/
  kills : Nat := 0
  deriving DecidableEq, Repr

namespace Master

def deed (m : Master) (d : Deed) : Master :=
  if m.ended.isSome then m
  else match d with
    | .bind => { m with socket := true }
    | .exit status tidy => { m with ended := some status, socket := m.socket && !tidy }

def kill (m : Master) : Master :=
  if m.reaped then m
  else { m with
    ended := m.ended <|> some .killed
    killOnDrop := false
    kills := m.kills + 1 }

def removeSocket (m : Master) : Master := { m with socket := false }

def reap (m : Master) : Master := { m with reaped := true, killOnDrop := false }

/-- The handle goes out of scope. -/
def letGo (m : Master) : Master := if m.killOnDrop then m.kill else m

end Master

/-- A session over a master that answers. -/
structure Session where
  master : Master
  closed : Bool := false
  deriving DecidableEq, Repr

/-- Only the first disconnect does anything. -/
def Session.disconnect (s : Session) : Session :=
  if s.closed then s else { master := s.master.kill.removeSocket, closed := true }

/-- Holds a session until it is released. -/
structure SessionGuard where
  session : Session
  released : Bool := false
  deriving DecidableEq, Repr

/-- What happens to a session that is held. -/
inductive Use where
  | master (d : Deed)
  | disconnect
  | release
  deriving DecidableEq, Repr

namespace SessionGuard

def hold (m : Master) : SessionGuard := { session := { master := m } }

/-- Only the first release disconnects. -/
def release (g : SessionGuard) : SessionGuard :=
  if g.released then g else { session := g.session.disconnect, released := true }

def use (g : SessionGuard) : Use → SessionGuard
  | .master d => { g with session.master := g.session.master.deed d }
  | .disconnect => { g with session := g.session.disconnect }
  | .release => g.release

def useAll (g : SessionGuard) (uses : List Use) : SessionGuard := uses.foldl use g

/-- The guard goes out of scope, and the session with it; what is left of the master. -/
def drop (g : SessionGuard) : Master := g.release.session.master.letGo

end SessionGuard

end Causeway.Ssh
