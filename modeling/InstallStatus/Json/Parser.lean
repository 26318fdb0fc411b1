import InstallStatus.Json.Lexer

/-!
Reading a JSON text. The tokens are taken one at a time by a machine with a stack of the arrays and
objects that are still open. `read?` keeps the fields of an object in the order of the text, repeated
keys included, and marks the parts that have no value; `parse?` gives the sorted document of a text
all of whose parts have one.
-/

namespace InstallStatus.Json

namespace Parser

/-- An object that is still open, its finished fields in reverse. It is `fit` as long as its keys
are. -/
structure OpenObject where
  reversed : List (String × Json)
  fit : Bool
  deriving Repr

namespace OpenObject

def empty : OpenObject := ⟨[], true⟩

def add (o : OpenObject) (key : String) (value : Json) : OpenObject :=
  { o with reversed := (key, value) :: o.reversed }

def spoil (o : OpenObject) : OpenObject := { o with fit := false }

def close (o : OpenObject) : Json := if o.fit then .object o.reversed.reverse else .unfit

end OpenObject

/-- An array or an object that is still open, an array with its finished items in reverse. -/
inductive Frame
  | array (reversed : List Json)
  | object (fields : OpenObject) (key : String)
  deriving Repr

inductive State
  /-- A value is due; `first` where the array may also end at once. -/
  | value (stack : List Frame) (first : Bool)
  /-- A key is due; `first` where the object may also end at once. -/
  | key (stack : List Frame) (fields : OpenObject) (first : Bool)
  | colon (stack : List Frame) (fields : OpenObject) (key : String)
  /-- A member is complete; a comma or the end of its frame is due. -/
  | afterItem (stack : List Frame) (reversed : List Json)
  | afterField (stack : List Frame) (fields : OpenObject)
  | done (document : Json)
  deriving Repr

def complete (stack : List Frame) (value : Json) : State :=
  match stack with
  | [] => .done value
  | .array reversed :: rest => .afterItem rest (value :: reversed)
  | .object fields key :: rest => .afterField rest (fields.add key value)

def step? : State → Token → Option State
  | .value stack _, .openArray => some (.value (.array [] :: stack) true)
  | .value stack _, .openObject => some (.key stack .empty true)
  | .value stack _, .null => some (complete stack .null)
  | .value stack _, .bool b => some (complete stack (.bool b))
  | .value stack _, .number n => some (complete stack (.number n))
  | .value stack _, .string s => some (complete stack (.string s))
  | .value stack _, .unfitNumber => some (complete stack .unfit)
  | .value stack _, .unfitString => some (complete stack .unfit)
  | .value (.array [] :: stack) true, .closeArray => some (complete stack (.array []))
  | .key stack fields _, .string key => some (.colon stack fields key)
  | .key stack fields _, .unfitString => some (.colon stack fields.spoil "")
  | .key stack fields true, .closeObject => some (complete stack fields.close)
  | .colon stack fields key, .colon => some (.value (.object fields key :: stack) false)
  | .afterItem stack reversed, .comma => some (.value (.array reversed :: stack) false)
  | .afterItem stack reversed, .closeArray => some (complete stack (.array reversed.reverse))
  | .afterField stack fields, .comma => some (.key stack fields false)
  | .afterField stack fields, .closeObject => some (complete stack fields.close)
  | _, _ => none

def run? : State → List Token → Option State
  | state, [] => some state
  | state, token :: rest => (step? state token).bind fun next => run? next rest

end Parser

/-- The document of a text, its fields as written. -/
def read? (s : String) : Option Json := do
  match ← Parser.run? (.value [] false) (← tokens? s.toList) with
  | .done document => some document
  | _ => none

/-- The sorted document of a text. -/
def parse? (s : String) : Option Json :=
  ((read? s).filter isFit).map sorted

end InstallStatus.Json
