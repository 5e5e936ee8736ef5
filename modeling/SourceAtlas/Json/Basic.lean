/-
JSON documents. Members of an object keep their order, and integers are kept
apart from other numbers.

Consumed by the reader, the writer, project detection and path aliases.
-/
import SourceAtlas.Number
import SourceAtlas.Table

namespace SourceAtlas

/-- A JSON document. -/
inductive Json where
  | null
  | bool (b : Bool)
  | integer (n : Int)
  | real (r : RealNumber)
  | string (t : Text)
  | array (items : List Json)
  | object (members : List (Text × Json))

namespace Json

instance : Inhabited Json := ⟨.null⟩

/-- The member of an object at a key. -/
def get? (key : Text) : Json → Option Json
  | object members => members.lookup key
  | _ => none

/-- The text of a string. -/
def text? : Json → Option Text
  | string t => some t
  | _ => none

/-- The items of an array. -/
def items? : Json → Option (List Json)
  | array items => some items
  | _ => none

/-- The members of an object. -/
def members? : Json → Option (List (Text × Json))
  | object members => some members
  | _ => none

/-- The value of an integer. -/
def integer? : Json → Option Int
  | integer n => some n
  | _ => none

/-- The value of a truth value. -/
def bool? : Json → Option Bool
  | bool b => some b
  | _ => none

end Json

end SourceAtlas
