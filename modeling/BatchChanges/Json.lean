/-! # JSON values

A number is an integer when it is written as one, without fraction and exponent; every other number
is kept as it was written, because nothing here computes with it.
-/

namespace BatchChanges

/-- A JSON value. -/
inductive Json where
  | null
  | bool (value : Bool)
  | integer (value : Int)
  /-- A number that is not written as an integer. -/
  | decimal (numeral : String)
  | text (value : String)
  | array (items : List Json)
  | object (members : List (String × Json))
deriving Inhabited

namespace Json

def member? (name : String) : Json → Option Json
  | object members => members.lookup name
  | _ => none

/-- Sets a member at its place, or at the end if there is none of that name. -/
def setMember (name : String) (value : Json) : List (String × Json) → List (String × Json)
  | [] => [(name, value)]
  | entry :: rest =>
    if entry.1 = name then (name, value) :: rest else entry :: setMember name value rest

/-- Changes an object member by member: null takes a member away, any other value sets it. Only an
object can say how. -/
def overlay? (base patch : Json) : Option Json :=
  match base, patch with
  | object members, object changes =>
    some (object (changes.foldl (fun members change =>
      match change.2 with
      | null => members.filter fun entry => entry.1 ≠ change.1
      | value => setMember change.1 value members) members))
  | _, _ => none

def ofFields (fields : List (String × Option Json)) : Json :=
  object (fields.filterMap fun field => field.2.map fun value => (field.1, value))

def ofOption {α : Type} (write : α → Json) : Option α → Json
  | none => null
  | some value => write value

def natural (value : Nat) : Json := integer value

end Json

end BatchChanges
