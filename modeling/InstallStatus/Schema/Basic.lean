import InstallStatus.Json.Basic

/-!
Schemas of documents, and the document that describes a schema.
-/

namespace InstallStatus

/-- What a schema says about a value beyond its shape. -/
structure Schema.Note where
  description : Option String
  default : Option Json
  nullable : Bool

inductive Schema
  | text (note : Schema.Note) (format : Option String) (values : List String)
  | integer (note : Schema.Note) (format : String)
  | boolean (note : Schema.Note)
  | list (note : Schema.Note) (items : Schema)
  | object (note : Schema.Note) (properties : List (String × Schema)) (required : List String)

namespace Schema

namespace Note

def of (description : String) : Note := ⟨some description, none, false⟩

def defaulting (description : String) (value : Json) : Note := ⟨some description, some value, false⟩

def orNull (description : String) : Note := ⟨some description, none, true⟩

def fields (note : Note) : List (String × Json) :=
  (note.description.toList.map fun d => ("description", .string d)) ++
    (note.default.toList.map fun d => ("default", d)) ++
    if note.nullable then [("nullable", .bool true)] else []

end Note

def typeField (name : String) : String × Json := ("type", .string name)

/-- A list of names, left out when it is empty. -/
def namesField (key : String) (names : List String) : List (String × Json) :=
  if names.isEmpty then [] else [(key, .array (names.map Json.string))]

mutual

def encode : Schema → Json
  | .text note format values =>
    Json.ofFields (typeField "string" :: note.fields ++ namesField "enum" values ++
      format.toList.map fun f => ("format", .string f))
  | .integer note format =>
    Json.ofFields (typeField "integer" :: ("format", .string format) :: note.fields)
  | .boolean note => Json.ofFields (typeField "boolean" :: note.fields)
  | .list note items => Json.ofFields (typeField "array" :: ("items", items.encode) :: note.fields)
  | .object note properties required =>
    Json.ofFields (typeField "object" :: ("properties", Json.ofFields (encodeAll properties)) ::
      note.fields ++ namesField "required" required)

def encodeAll : List (String × Schema) → List (String × Json)
  | [] => []
  | (name, schema) :: rest => (name, schema.encode) :: encodeAll rest

end

end Schema

end InstallStatus
