import ServiceMesh.Json.Token

/-!
# Reading JSON

A text is read by a machine with a stack of the arrays and objects that are still open.
Each token moves the machine one step, so reading is a single pass over the tokens. No
more than 127 containers may be open at once.
-/

namespace ServiceMesh.Json

/-- A container that is still open: the elements read so far, last first, or the fields
read so far and the name that waits for its value. -/
inductive Frame where
  | arr (items : List Json)
  | obj (fields : List (String × Json)) (name : String)

/-- What may come next. -/
inductive Awaiting where
  | value
  /-- an element or the end of an empty array -/
  | element
  /-- a name or the end of an empty object -/
  | member
  | name
  | colon
  /-- a comma or the end of the container -/
  | separator
  /-- nothing: the whole value has been read -/
  | finished (result : Json)

/-- The reading machine. -/
structure Machine where
  stack : List Frame
  awaiting : Awaiting

namespace Machine

/-- The number of containers that may be open at once. -/
def depthLimit : Nat := 127

/-- Put a finished value where it belongs. -/
def deliver (value : Json) : List Frame → Machine
  | [] => ⟨[], .finished value⟩
  | .arr items :: stack => ⟨.arr (value :: items) :: stack, .separator⟩
  | .obj fields name :: stack => ⟨.obj (setField name value fields) name :: stack, .separator⟩

/-- Open a container if the depth allows it. -/
def push (frame : Frame) (awaiting : Awaiting) (stack : List Frame) : Option Machine :=
  if stack.length < depthLimit then some ⟨frame :: stack, awaiting⟩ else none

/-- Begin a value with a token. -/
def begin (token : Token) (stack : List Frame) : Option Machine :=
  match token with
  | .scalar value => some (deliver value stack)
  | .str text => some (deliver (.str text) stack)
  | .openArr => push (.arr []) .element stack
  | .openObj => push (.obj [] "") .member stack
  | _ => none

/-- Take one token. -/
def step (m : Machine) (token : Token) : Option Machine :=
  match m.awaiting, token, m.stack with
  | .value, token, stack => begin token stack
  | .element, .closeArr, .arr _ :: stack => some (deliver (.arr []) stack)
  | .element, token, stack => begin token stack
  | .member, .closeObj, .obj _ _ :: stack => some (deliver (.obj []) stack)
  | .member, .str name, .obj fields _ :: stack => some ⟨.obj fields name :: stack, .colon⟩
  | .name, .str name, .obj fields _ :: stack => some ⟨.obj fields name :: stack, .colon⟩
  | .colon, .colon, stack => some ⟨stack, .value⟩
  | .separator, .comma, .arr items :: stack => some ⟨.arr items :: stack, .value⟩
  | .separator, .closeArr, .arr items :: stack => some (deliver (.arr items.reverse) stack)
  | .separator, .comma, .obj fields name :: stack => some ⟨.obj fields name :: stack, .name⟩
  | .separator, .closeObj, .obj fields _ :: stack => some (deliver (.obj fields) stack)
  | _, _, _ => none

/-- Take all tokens. -/
def run (m : Machine) (ts : List Token) : Option Machine := ts.foldlM step m

end Machine

/-- Read a text that holds one JSON value and nothing else. -/
def read? (s : String) : Option Json := do
  let ts ← tokens s.toList
  let m ← Machine.run ⟨[], .value⟩ ts
  match m.awaiting with
  | .finished value => some value
  | _ => none

end ServiceMesh.Json
