/-!
# JSON values

Metadata and configurations are JSON values. A number is an integer when it was written
as one and fits 64 bits, signed or unsigned, and a binary64 number otherwise. The fields
of an object keep the order in which their names first appeared; a name written twice
keeps its last value.
-/

namespace ServiceMesh

/-- A JSON value. -/
inductive Json where
  | null
  | bool (value : Bool)
  | int (value : Int)
  | float (value : Float)
  | str (value : String)
  | arr (items : List Json)
  | obj (fields : List (String × Json))
  deriving Inhabited, Repr, BEq

namespace Json

/-- Give a field a value, in its old place if the name is already there. -/
def setField (name : String) (value : Json) : List (String × Json) → List (String × Json)
  | [] => [(name, value)]
  | (n, v) :: rest => if n = name then (n, value) :: rest else (n, v) :: setField name value rest

/-- The value of a field. -/
def lookup (name : String) : List (String × Json) → Option Json
  | [] => none
  | (n, v) :: rest => if n = name then some v else lookup name rest

/-- The value of a field of an object; other values have no fields. -/
def field? (name : String) : Json → Option Json
  | obj fields => lookup name fields
  | _ => none

/-- The elements of an array. -/
def items? : Json → Option (List Json)
  | arr items => some items
  | _ => none

/-- The text of a string. -/
def text? : Json → Option String
  | str s => some s
  | _ => none

end Json

end ServiceMesh
