import Causeway.Error
import Causeway.File.Tree

/-!
Settings of the SSH client that tunnels use, taken from environment variables.
-/

namespace Causeway.Ssh

open Number

structure Config where
  privateKey : String := "config/ssh/id_rsa"
  publicKey : String := "config/ssh/id_rsa.pub"
  /-- The user for data sources that name none. -/
  defaultUser : String := "player"
  /-- The client program. -/
  binary : String := "ssh"
  /-- How long to wait for a session, in milliseconds. -/
  timeout : Nat := 15000
  deriving DecidableEq, Repr, Inhabited

def privateKeyVariable : String := "GRAPHGATE_SSH_PRIVATE_KEY"

def publicKeyVariable : String := "GRAPHGATE_SSH_PUBLIC_KEY"

def userVariable : String := "GRAPHGATE_SSH_USER"

def binaryVariable : String := "GRAPHGATE_SSH_BINARY"

def timeoutVariable : String := "GRAPHGATE_SSH_TIMEOUT_SECS"

/-- A whole number of seconds below `2 ^ 64`, perhaps with a plus in front. -/
def readSeconds (s : List Char) : Option Nat :=
  let digits := match s with
    | '+' :: r => r
    | r => r
  (readNat digits).filter (· < UInt64.size)

namespace Config

/-- The defaults, overridden by the variables that are not blank. -/
def ofLookup (lookup : String → Option String) : Except Error Config :=
  let value (name : String) : Option String := (lookup name).filter fun s => !Text.isBlankText s
  let base : Config := {}
  let c : Config := {
    privateKey := (value privateKeyVariable).getD base.privateKey
    publicKey := (value publicKeyVariable).getD base.publicKey
    defaultUser := (value userVariable).getD base.defaultUser
    binary := (value binaryVariable).getD base.binary }
  match value timeoutVariable with
  | none => .ok c
  | some s =>
    match readSeconds (Text.trim s.toList) with
    | some n => .ok { c with timeout := n * 1000 }
    | none =>
      .error (.config (timeoutVariable ++ " must be a number of seconds, got '" ++ s ++ "'"))

/-- Both keys have to be files. -/
def checkKeys (c : Config) (files : FileTree) : Except Error Unit :=
  match [c.privateKey, c.publicKey].find? fun p => !files.isFile p with
  | some p => .error (.tunnel ("SSH key file not found: " ++ p) none)
  | none => .ok ()

end Config

end Causeway.Ssh
