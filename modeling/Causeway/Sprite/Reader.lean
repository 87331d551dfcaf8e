import Causeway.Document.Json
import Causeway.Sprite.Basic

/-!
Reading sprites from JSON: an object whose members are lists of values. Whatever the lists hold is
taken as it is.
-/

namespace Causeway.Sprite

def read (n : Json.Node) : Option Sprite :=
  (Json.reading.mapOf (Json.reading.listOf Json.Node.value) n).map (⟨·⟩)

/-- Reads a sprite from JSON text. -/
def ofText? (s : String) : Option Sprite := Json.readDocument read s

end Causeway.Sprite
