import BatchChanges.Json
import BatchChanges.Yaml
import BatchChanges.Text.Decimal

/-! # Values of data formats

Types are read from JSON and from YAML by one definition each. `Document` says what a value offers
to a reader that knows which type it wants; the two formats differ in how they tell text, numbers
and truth values apart, and in whether the fields of a record may be given by position.

A record is read field by field: unknown fields are ignored, a known one may not occur twice, a
field without a value may be left out or null if it is optional, and left out if it has a default.
-/

namespace BatchChanges

/-- What a value of a data format offers to a reader. -/
class Document (V : Type) where
  /-- Whether the value stands for the absence of one. -/
  isNull : V → Bool
  bool? : V → Option Bool
  integer? : V → Option Int
  /-- The text of a value where text is wanted. -/
  text? : V → Option String
  /-- The text of a value that is text by itself, wherever it stands. -/
  properText? : V → Option String
  /-- The word of a value where one of a fixed list of words is wanted. -/
  word? : V → Option String
  items? : V → Option (List V)
  /-- The fields of a record by name. -/
  fields? : V → Option (List (String × V))
  /-- The fields of a record by position. -/
  positions? : V → Option (List V)

namespace Document

variable {V : Type} [Document V] {α : Type}

def naturalBelow? (bound : Nat) (value : V) : Option Nat := do
  let number ← integer? value
  if 0 ≤ number ∧ number < bound then some number.toNat else none

def uint32? (value : V) : Option UInt32 :=
  (naturalBelow? UInt32.size value).map UInt32.ofNat

def uint64? (value : V) : Option UInt64 :=
  (naturalBelow? UInt64.size value).map UInt64.ofNat

def int64? (value : V) : Option Int := do
  let number ← integer? value
  if -9223372036854775808 ≤ number ∧ number ≤ 9223372036854775807 then some number else none

def optional? (read : V → Option α) (value : V) : Option (Option α) :=
  if isNull value then some none else (read value).map some

def readAll (read : V → Option α) : List V → Option (List α)
  | [] => some []
  | value :: rest => do
    let first ← read value
    let others ← readAll read rest
    return first :: others

def list? (read : V → Option α) (value : V) : Option (List α) :=
  (items? value).bind (readAll read)

def isSingle (fields : List (String × V)) (name : String) : Bool :=
  decide ((fields.filter fun field => field.1 == name).length ≤ 1)

/-- The fields of a record with these field names. By position, fields may be missing at the end
but not in excess. -/
def record? (names : List String) (value : V) : Option (List (String × V)) :=
  match fields? value with
  | some fields => if names.all (isSingle fields) then some fields else none
  | none =>
    match positions? value with
    | some values => if values.length ≤ names.length then some (names.zip values) else none
    | none => none

def closedRecord? (names : List String) (value : V) : Option (List (String × V)) := do
  let fields ← record? names value
  if fields.all fun field => names.contains field.1 then some fields else none

end Document

/-- Fields of a record, by name. -/
abbrev Fields (V : Type) := List (String × V)

namespace Fields

variable {V : Type} [Document V] {α : Type}

def required (fields : Fields V) (name : String) (read : V → Option α) : Option α :=
  (fields.lookup name).bind read

/-- A field that may be left out or null. -/
def optional (fields : Fields V) (name : String) (read : V → Option α) : Option (Option α) :=
  match fields.lookup name with
  | none => some none
  | some value => Document.optional? read value

/-- A field that may be left out. -/
def withDefault (fields : Fields V) (name : String) (default : α) (read : V → Option α) :
    Option α :=
  match fields.lookup name with
  | none => some default
  | some value => read value

end Fields

namespace Json

/-- In JSON every value shows its type; words may also be written as an object with null under the
word, and records as arrays. -/
instance : Document Json where
  isNull
    | null => true
    | _ => false
  bool?
    | bool value => some value
    | _ => none
  integer?
    | integer value => some value
    | _ => none
  text?
    | text value => some value
    | _ => none
  properText?
    | text value => some value
    | _ => none
  word?
    | text value => some value
    | object [(word, null)] => some word
    | _ => none
  items?
    | array items => some items
    | _ => none
  fields?
    | object members => some members
    | _ => none
  positions?
    | array items => some items
    | _ => none

end Json

namespace Yaml

open Text

def isNullText (text : String) : Bool :=
  text == "" || text == "~" || text == "null" || text == "Null" || text == "NULL"

def boolOfText? (text : String) : Option Bool :=
  if text == "true" || text == "True" || text == "TRUE" then some true
  else if text == "false" || text == "False" || text == "FALSE" then some false
  else none

def digitOf? (base : Nat) (c : Char) : Option Nat :=
  let value? :=
    if '0' ≤ c ∧ c ≤ '9' then some (c.toNat - 48)
    else if 'a' ≤ c ∧ c ≤ 'f' then some (c.toNat - 87)
    else if 'A' ≤ c ∧ c ≤ 'F' then some (c.toNat - 55)
    else none
  value?.filter (· < base)

def numberOf? (base : Nat) : List Char → Option Nat
  | [] => none
  | c :: rest => (c :: rest).foldlM (fun number c => (digitOf? base c).map (number * base + ·)) 0

/-- The number of an unsigned numeral: decimal without leading zeros, or in base 16, 8 or 2. -/
def magnitude? (chars : List Char) : Option Nat :=
  match chars with
  | '0' :: 'x' :: digits => numberOf? 16 digits
  | '0' :: 'o' :: digits => numberOf? 8 digits
  | '0' :: 'b' :: digits => numberOf? 2 digits
  | '0' :: _ :: _ => none
  | digits => if digits.all Char.isDigit ∧ digits ≠ [] then some (Decimal.value digits) else none

/-- The integer that a plain scalar of this text stands for; minus zero is none. -/
def integerOfText? (text : String) : Option Int :=
  match text.toList with
  | '-' :: digits => ((magnitude? digits).filter (· ≠ 0)).map fun number => -(number : Int)
  | '+' :: digits => (magnitude? digits).map fun number => (number : Int)
  | digits => (magnitude? digits).map fun number => (number : Int)

/-- Whether a tag is one of its own, and not one of the tags of common types. -/
def isOwnTag (tag : String) : Bool := tag.toList.head? == some '!'

def literalTags : List String :=
  ["null", "bool", "int", "float"].map ("tag:yaml.org,2002:" ++ ·)

def untagged : Yaml → Yaml
  | tagged _ node => node
  | node => node

/-- In YAML a plain scalar is null, a truth value or a number where its text allows it and text
where text is wanted. A record is a mapping with scalar keys, or nothing at all; its fields have no
position. A tag tells what a node is where that is not known already; besides, a word may be written
as a tag of nothing. -/
instance : Document Yaml where
  isNull
    | plain text => isNullText text
    | tagged tag (plain text) => tag == "tag:yaml.org,2002:null" && isNullText text
    | _ => false
  bool? node :=
    match untagged node with
    | plain text => boolOfText? text
    | _ => none
  integer? node :=
    match untagged node with
    | plain text => integerOfText? text
    | _ => none
  text? := scalarText?
  properText?
    | quoted text => some text
    | plain text =>
      if isNullText text || (boolOfText? text).isSome || (integerOfText? text).isSome then none
      else some text
    | tagged tag node =>
      if isOwnTag tag || literalTags.contains tag then none else scalarText? node
    | _ => none
  word?
    | tagged tag node =>
      if isOwnTag tag then
        match node with
        | plain text => if isNullText text then some (tag.drop 1).toString else none
        | _ => none
      else scalarText? node
    | node => scalarText? node
  items? node :=
    match untagged node with
    | sequence items => some items
    | _ => none
  fields? node :=
    match untagged node with
    | mapping entries => entries.mapM fun entry => (scalarText? entry.1).map (·, entry.2)
    | plain text => if text == "" then some [] else none
    | _ => none
  positions? := fun _ => none

end Yaml

end BatchChanges
