import BatchChanges.Json
import BatchChanges.Json.Magnitude

/-! # Reading JSON texts

The reader follows the JSON grammar to the letter: no leading zeros, no bare control characters in
strings, no lone surrogates, nothing after the value. Of two members with one name the later counts,
values are nested at most 127 deep, and numbers are in the range of floating-point numbers.
-/

namespace BatchChanges.Json

open Text

def isSpace (c : Char) : Bool := c == ' ' || c == '\t' || c == '\n' || c == '\r'

def skipSpace (chars : List Char) : List Char := chars.dropWhile isSpace

def hexValue? (c : Char) : Option Nat :=
  if '0' ≤ c ∧ c ≤ '9' then some (c.toNat - 48)
  else if 'a' ≤ c ∧ c ≤ 'f' then some (c.toNat - 87)
  else if 'A' ≤ c ∧ c ≤ 'F' then some (c.toNat - 55)
  else none

def hexUnit? (a b c d : Char) : Option Nat := do
  return (((← hexValue? a) * 16 + (← hexValue? b)) * 16 + (← hexValue? c)) * 16 + (← hexValue? d)

def escape? : Char → Option Char
  | '"' => some '"'
  | '\\' => some '\\'
  | '/' => some '/'
  | 'b' => some '\x08'
  | 'f' => some '\x0c'
  | 'n' => some '\n'
  | 'r' => some '\r'
  | 't' => some '\t'
  | _ => none

/-- The rest of a string after its opening quote: its characters, and what follows it. -/
def stringRest? : List Char → Option (List Char × List Char)
  | [] => none
  | '"' :: rest => some ([], rest)
  | '\\' :: 'u' :: a :: b :: c :: d :: rest => do
    let unit ← hexUnit? a b c d
    if 0xd800 ≤ unit ∧ unit < 0xdc00 then
      match rest with
      | '\\' :: 'u' :: e :: f :: g :: h :: rest =>
        let low ← hexUnit? e f g h
        guard (0xdc00 ≤ low ∧ low < 0xe000)
        let (chars, rest) ← stringRest? rest
        return (Char.ofNat (0x10000 + (unit - 0xd800) * 0x400 + (low - 0xdc00)) :: chars, rest)
      | _ => none
    else
      guard (¬ (0xdc00 ≤ unit ∧ unit < 0xe000))
      let (chars, rest) ← stringRest? rest
      return (Char.ofNat unit :: chars, rest)
  | '\\' :: c :: rest => do
    let escaped ← escape? c
    let (chars, rest) ← stringRest? rest
    return (escaped :: chars, rest)
  | c :: rest => do
    guard (c ≠ '\\' ∧ 0x20 ≤ c.toNat)
    let (chars, rest) ← stringRest? rest
    return (c :: chars, rest)

/-- The digits of an integer without sign, which starts with a zero only if it is zero. -/
def integerDigits? (chars : List Char) : Option (List Char × List Char) :=
  match chars with
  | '0' :: rest => some (['0'], rest)
  | _ => nonempty (Decimal.span chars)
where
  nonempty : List Char × List Char → Option (List Char × List Char)
    | ([], _) => none
    | found => some found

def fraction? : List Char → Option (List Char × List Char)
  | '.' :: rest =>
    match Decimal.span rest with
    | ([], _) => none
    | (run, rest) => some ('.' :: run, rest)
  | rest => some ([], rest)

def exponent? : List Char → Option (List Char × List Char)
  | [] => some ([], [])
  | c :: rest =>
    if c = 'e' ∨ c = 'E' then
      let (sign, rest) := match rest with
        | '+' :: rest => (['+'], rest)
        | '-' :: rest => (['-'], rest)
        | rest => ([], rest)
      match Decimal.span rest with
      | ([], _) => none
      | (run, rest) => some ('e' :: sign ++ run, rest)
    else some ([], c :: rest)

def exponentValue : List Char → Int
  | _ :: '+' :: run => Decimal.value run
  | _ :: '-' :: run => -(Decimal.value run : Int)
  | _ :: run => Decimal.value run
  | [] => 0

/-- A number. Minus zero is no integer. -/
def number? (chars : List Char) : Option (Json × List Char) := do
  let (negative, unsigned) := match chars with
    | '-' :: rest => (true, rest)
    | rest => (false, rest)
  let (whole, rest) ← integerDigits? unsigned
  let (fraction, rest) ← fraction? rest
  let (exponent, rest) ← exponent? rest
  guard (Magnitude.ofDigits whole (fraction.drop 1) (exponentValue exponent)).fits
  let magnitude := Decimal.value whole
  if fraction = [] ∧ exponent = [] ∧ ¬ (negative = true ∧ magnitude = 0) then
    return (integer (if negative then -(magnitude : Int) else magnitude), rest)
  else
    return (decimal (String.ofList
      ((if negative then ['-'] else []) ++ whole ++ fraction ++ exponent)), rest)

def after? : List Char → List Char → Option (List Char)
  | [], rest => some rest
  | _ :: _, [] => none
  | c :: word, d :: rest => if c = d then after? word rest else none

mutual

/-- A value, and what follows it. `fuel` bounds the characters that are read and `depth` the
nesting that is still allowed. -/
def value? (fuel depth : Nat) (chars : List Char) : Option (Json × List Char) :=
  match fuel with
  | 0 => none
  | fuel + 1 =>
    match skipSpace chars with
    | [] => none
    | '"' :: rest => (stringRest? rest).map fun (run, rest) => (text (String.ofList run), rest)
    | '[' :: rest =>
      match depth with
      | 0 => none
      | depth + 1 =>
        match skipSpace rest with
        | ']' :: rest => some (array [], rest)
        | rest => (items? fuel depth rest).map fun (items, rest) => (array items, rest)
    | '{' :: rest =>
      match depth with
      | 0 => none
      | depth + 1 =>
        match skipSpace rest with
        | '}' :: rest => some (object [], rest)
        | rest => (members? fuel depth [] rest).map fun (members, rest) => (object members, rest)
    | c :: rest =>
      if c = 'n' then (after? ['u', 'l', 'l'] rest).map fun rest => (null, rest)
      else if c = 't' then (after? ['r', 'u', 'e'] rest).map fun rest => (bool true, rest)
      else if c = 'f' then (after? ['a', 'l', 's', 'e'] rest).map fun rest => (bool false, rest)
      else number? (c :: rest)

def items? (fuel depth : Nat) (chars : List Char) : Option (List Json × List Char) :=
  match fuel with
  | 0 => none
  | fuel + 1 =>
    match value? fuel depth chars with
    | none => none
    | some (item, rest) =>
      match skipSpace rest with
      | ']' :: rest => some ([item], rest)
      | ',' :: rest => (items? fuel depth rest).map fun (items, rest) => (item :: items, rest)
      | _ => none

/-- The members of an object up to its closing brace, added to those read before. -/
def members? (fuel depth : Nat) (found : List (String × Json)) (chars : List Char) :
    Option (List (String × Json) × List Char) :=
  match fuel with
  | 0 => none
  | fuel + 1 =>
    match skipSpace chars with
    | '"' :: rest =>
      match stringRest? rest with
      | none => none
      | some (name, rest) =>
        match skipSpace rest with
        | ':' :: rest =>
          match value? fuel depth rest with
          | none => none
          | some (value, rest) =>
            let found := setMember (String.ofList name) value found
            match skipSpace rest with
            | '}' :: rest => some (found, rest)
            | ',' :: rest => members? fuel depth found rest
            | _ => none
        | _ => none
    | _ => none

end

def parse? (source : String) : Option Json :=
  let chars := source.toList
  match value? (2 * chars.length + 2) 127 chars with
  | some (value, rest) => if (skipSpace rest).isEmpty then some value else none
  | none => none

end BatchChanges.Json
