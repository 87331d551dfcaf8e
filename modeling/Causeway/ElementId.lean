import Causeway.Error
import Causeway.Text.Search

/-!
Composite element ids. The id of an element is the id of its data source, an underscore, and the
element's native id in a form that its scheme can undo.
-/

namespace Causeway

/-- How native ids are embedded in composite ids. -/
inductive IdScheme where
  /-- The native id as it is. -/
  | verbatim
  /-- Record ids `#cluster:position`: the mark is dropped and colons become underscores. -/
  | record
  deriving DecidableEq, Repr, Inhabited

namespace IdScheme

def sanitizeChars : IdScheme → List Char → List Char
  | .verbatim, s => s
  | .record, '#' :: r => Text.replaceChar ':' ['_'] r
  | .record, s => Text.replaceChar ':' ['_'] s

def restoreChars : IdScheme → List Char → List Char
  | .verbatim, s => s
  | .record, s => '#' :: Text.replaceFirst '_' ':' s

def sanitize (scheme : IdScheme) (native : String) : String :=
  String.ofList (scheme.sanitizeChars native.toList)

def restore (scheme : IdScheme) (sanitized : String) : String :=
  String.ofList (scheme.restoreChars sanitized.toList)

/-- What every id of a data source begins with. -/
def start (dataSource : Int) : List Char := (toString dataSource).toList ++ ['_']

/-- The composite id of a native element. -/
def encode (scheme : IdScheme) (dataSource : Int) (native : String) : String :=
  String.ofList (start dataSource ++ scheme.sanitizeChars native.toList)

/-- The native id behind a composite id of the data source. -/
def decode (scheme : IdScheme) (dataSource : Int) (id : String) : Except Error String :=
  match Text.withoutStart? (start dataSource) id.toList with
  | some (c :: r) => .ok (String.ofList (scheme.restoreChars (c :: r)))
  | _ => .error (.invalidId id dataSource)

/-- Decodes from left to right, up to the first id that is not one of the data source. -/
def decodeAll (scheme : IdScheme) (dataSource : Int) (ids : List String) :
    Except Error (List String) :=
  ids.mapM (scheme.decode dataSource)

end IdScheme

end Causeway
