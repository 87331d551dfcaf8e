import Causeway.Sprite.Basic

/-!
Changes to a sprite as data, one constructor for each way to change one. Fields are selected by their
names in any way, by a pattern or otherwise. `Sprite.run` makes changes one after the other.
-/

namespace Causeway.Sprite

inductive Mutation where
  /-- The sprite is changed in place or by value. -/
  | add (field : String) (v : Value)
  | addAll (field : String) (values : List Value)
  | addIfNotExists (field : String) (v : Value)
  | addAllIfNotExists (field : String) (values : List Value)
  | load (entries : List (String × Value))
  | remove (field : String)
  | removeValue (field : String) (v : Value)
  | removeWhere (selects : String → Bool)
  | rename (source target : String)
  | renameWhere (selects : String → Bool) (newName : String → String)
  | copy (source target : String)
  | apply (field : String) (f : Value → Value)
  | applyWhere (selects : String → Bool) (f : Value → Value)
  | applyTo (source : String) (f : Value → Value) (target : String)
  | splitValues (field separator : String)
  | joinValues (field separator : String)
  | joinValuesOf (field : String) (o : JoinOptions)

def perform (s : Sprite) : Mutation → Sprite
  | .add field v => s.add field v
  | .addAll field values => s.addAll field values
  | .addIfNotExists field v => s.addIfNotExists field v
  | .addAllIfNotExists field values => s.addAllIfNotExists field values
  | .load entries => s.load entries
  | .remove field => s.remove field
  | .removeValue field v => s.removeValue field v
  | .removeWhere selects => s.removeWhere selects
  | .rename source target => s.rename source target
  | .renameWhere selects newName => s.renameWhere selects newName
  | .copy source target => s.copy source target
  | .apply field f => s.apply field f
  | .applyWhere selects f => s.applyWhere selects f
  | .applyTo source f target => s.applyTo source f target
  | .splitValues field separator => s.splitValues field separator
  | .joinValues field separator => s.joinValues field separator
  | .joinValuesOf field o => s.joinValuesOf field o

def run (s : Sprite) (mutations : List Mutation) : Sprite := mutations.foldl perform s

end Causeway.Sprite
