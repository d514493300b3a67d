import BatchChanges.Json
import BatchChanges.Text.Decimal

/-! # Writing JSON texts

Two forms: `compact` puts a value on one line without blanks, `pretty` gives every item and member
a line of its own, two blanks deeper than the brackets around it. Quotes, backslashes and control
characters are escaped, all else is written as it is.
-/

namespace BatchChanges.Json

open Text

def hexDigit (digit : Nat) : Char :=
  if digit < 10 then Char.ofNat (48 + digit) else Char.ofNat (87 + digit)

def escaped (c : Char) : List Char :=
  match c with
  | '"' => ['\\', '"']
  | '\\' => ['\\', '\\']
  | '\n' => ['\\', 'n']
  | '\r' => ['\\', 'r']
  | '\t' => ['\\', 't']
  | '\x08' => ['\\', 'b']
  | '\x0c' => ['\\', 'f']
  | c =>
    if c.toNat < 0x20 then ['\\', 'u', '0', '0', hexDigit (c.toNat / 16), hexDigit (c.toNat % 16)]
    else [c]

def quoted (value : String) : String :=
  String.ofList ('"' :: value.toList.flatMap escaped ++ ['"'])

def integerText (value : Int) : String := String.ofList (Decimal.ofInt value)

mutual

def compact : Json → String
  | null => "null"
  | bool true => "true"
  | bool false => "false"
  | integer value => integerText value
  | decimal numeral => numeral
  | text value => quoted value
  | array items => "[" ++ String.intercalate "," (compactItems items) ++ "]"
  | object members => "\x7b" ++ String.intercalate "," (compactMembers members) ++ "\x7d"

def compactItems : List Json → List String
  | [] => []
  | item :: rest => item.compact :: compactItems rest

def compactMembers : List (String × Json) → List String
  | [] => []
  | (name, value) :: rest => (quoted name ++ ":" ++ value.compact) :: compactMembers rest

end

def newline (depth : Nat) : String := "\n" ++ String.ofList (List.replicate (2 * depth) ' ')

mutual

def prettyAt (depth : Nat) : Json → String
  | array (item :: items) =>
    "[" ++ newline (depth + 1) ++
      String.intercalate ("," ++ newline (depth + 1)) (prettyItems (depth + 1) (item :: items)) ++
      newline depth ++ "]"
  | object (member :: members) =>
    "\x7b" ++ newline (depth + 1) ++
      String.intercalate ("," ++ newline (depth + 1))
        (prettyMembers (depth + 1) (member :: members)) ++
      newline depth ++ "\x7d"
  | value => value.compact

def prettyItems (depth : Nat) : List Json → List String
  | [] => []
  | item :: rest => prettyAt depth item :: prettyItems depth rest

def prettyMembers (depth : Nat) : List (String × Json) → List String
  | [] => []
  | (name, value) :: rest =>
    (quoted name ++ ": " ++ prettyAt depth value) :: prettyMembers depth rest

end

def pretty (value : Json) : String := prettyAt 0 value

end BatchChanges.Json
