import RollScript.Data.Moment

/-!
# Plain data

The data that requests and configuration files consist of: scalars, moments, lists, and records
with named fields. A record keeps its fields in the order in which they were written.
-/

namespace RollScript

/-- Plain data. -/
inductive Data where
  | null
  | boolean (b : Bool)
  | integer (n : Int)
  | number (x : Float)
  | text (t : Text)
  | moment (m : Moment)
  | list (items : List Data)
  | record (fields : List (Text × Data))
deriving Inhabited

namespace Data

/-- The field of a record; the last one counts when a name was given twice. -/
def field? (d : Data) (name : String) : Option Data :=
  match d with
  | record fields => fields.reverse.lookup (.ofString name)
  | _ => none

end Data

end RollScript
