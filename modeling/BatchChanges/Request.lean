import BatchChanges.Document

/-! # Fields of requests

A request is a JSON object. Its fields are read one by one, and a field that is missing or cannot be
read is reported by its name.
-/

namespace BatchChanges

/-- A field of a request is missing or cannot be read. -/
structure BadField where
  name : String
deriving DecidableEq

namespace BadField

def toJson (bad : BadField) : Json :=
  .object [("error", .text "Decode"), ("field", .text bad.name)]

end BadField

namespace Request

variable {α : Type}

def required (request : Json) (name : String) (read : Json → Option α) : Except BadField α :=
  match (request.member? name).bind read with
  | some value => .ok value
  | none => .error ⟨name⟩

def withDefault (request : Json) (name : String) (default : α) (read : Json → Option α) :
    Except BadField α :=
  match request.member? name with
  | none => .ok default
  | some value =>
    match read value with
    | some value => .ok value
    | none => .error ⟨name⟩

def optional (request : Json) (name : String) (read : Json → Option α) :
    Except BadField (Option α) :=
  withDefault request name none (Document.optional? read)

def anything (value : Json) : Option Json := some value

end Request

end BatchChanges
