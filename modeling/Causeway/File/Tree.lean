import Causeway.Error
import Causeway.File.Path
import Causeway.NameMap
import Causeway.Relational.Store

/-!
Files as values: a tree of folders with texts, bytes and databases in it.
-/

namespace Causeway

inductive FileContent where
  | bytes (l : List UInt8)
  | folder
  | database (s : Relational.Store)
  deriving Inhabited

namespace FileContent

def ofText (s : String) : FileContent := .bytes s.toUTF8.toList

end FileContent

/-- Why a file cannot be read as text. -/
inductive FileError where
  | missing
  | isFolder
  | notFolder
  | notText
  deriving DecidableEq, Repr

def FileError.message : FileError → String
  | .missing => "No such file or directory (os error 2)"
  | .isFolder => "Is a directory (os error 21)"
  | .notFolder => "Not a directory (os error 20)"
  | .notText => "stream did not contain valid UTF-8"

instance : ToError FileError := ⟨fun e => .storage e.message⟩

/-- Contents by absolute path. -/
structure FileTree where
  contents : NameMap FileContent := NameMap.empty
  /-- The folder from which relative paths are seen; without one they lead nowhere. -/
  folder : String := ""
  deriving Inhabited

namespace FileTree

/-- The absolute path with every way upwards taken. -/
def key (t : FileTree) (p : String) : String :=
  String.join ((Path.resolved (Path.join t.folder p)).map ("/" ++ ·))

def add (t : FileTree) (p : String) (c : FileContent) : FileTree :=
  { t with contents := t.contents.insert (t.key p) c }

/-- Whether something lies below a path. -/
def hasBelow (t : FileTree) (k : String) : Bool :=
  t.contents.names.any fun n => (k ++ "/").toList.isPrefixOf n.toList

/-- Whether a path leads through something that is no folder. -/
def leadsThroughFile (t : FileTree) (k : String) : Bool :=
  t.contents.entries.any fun (n, c) =>
    (n ++ "/").toList.isPrefixOf k.toList && match c with
      | .folder => false
      | _ => true

/-- What is at a path. -/
def find (t : FileTree) (p : String) : Except FileError FileContent :=
  if !Path.isAbsolute (Path.join t.folder p) then .error .missing
  else
    let k := t.key p
    match t.contents.get? k with
    | some .folder => .ok .folder
    | some c => if Path.namesFolder p then .error .notFolder else .ok c
    | none =>
      if t.hasBelow k then .ok .folder
      else if t.leadsThroughFile k then .error .notFolder
      else .error .missing

def isFolder (t : FileTree) (p : String) : Bool :=
  match t.find p with
  | .ok .folder => true
  | _ => false

def isFile (t : FileTree) (p : String) : Bool :=
  match t.find p with
  | .ok .folder => false
  | .ok _ => true
  | .error _ => false

def readText (t : FileTree) (p : String) : Except FileError String :=
  match t.find p with
  | .ok (.bytes l) =>
    match String.fromUTF8? ⟨l.toArray⟩ with
    | some s => .ok s
    | none => .error .notText
  | .ok .folder => .error .isFolder
  | .ok (.database _) => .error .notText
  | .error e => .error e

def database? (t : FileTree) (p : String) : Option Relational.Store :=
  match t.find p with
  | .ok (.database s) => some s
  | _ => none

/-- The names of the files in a folder. -/
def filesIn (t : FileTree) (folder : String) : List String :=
  let start := Path.resolved (Path.join t.folder folder)
  let below := t.contents.names.filterMap fun n =>
    let parts := Path.parts n
    if parts.length = start.length + 1 ∧ start.isPrefixOf parts then parts.getLast? else none
  below.filter fun n => t.isFile (Path.join folder n)

end FileTree

end Causeway
