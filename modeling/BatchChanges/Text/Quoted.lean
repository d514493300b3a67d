import BatchChanges.Text.Unprintable

/-! # Quoted text in messages

A message shows a text that a user chose between double quotes. Quotes, backslashes and the common
control characters are written with a backslash, every other character that would not show with its
number in hexadecimal, so that a quoted text never spans lines and always shows where it ends.
-/

namespace BatchChanges.Text

/-- A hexadecimal numeral in small letters, without leading zeros. -/
def hexDigits (number : Nat) : List Char :=
  let digit := fun n : Nat => if n < 10 then Char.ofNat (48 + n) else Char.ofNat (87 + n)
  if number < 16 then [digit number] else hexDigits (number / 16) ++ [digit (number % 16)]
termination_by number
decreasing_by omega

def quotedChar (c : Char) : List Char :=
  if c = '"' then ['\\', '"']
  else if c = '\\' then ['\\', '\\']
  else if c = '\n' then ['\\', 'n']
  else if c = '\r' then ['\\', 'r']
  else if c = '\t' then ['\\', 't']
  else if c.toNat = 0 then ['\\', '0']
  else if isUnprintable c then ['\\', 'u', '{'] ++ hexDigits c.toNat ++ ['}']
  else [c]

def quoted (text : String) : String :=
  String.ofList ('"' :: text.toList.flatMap quotedChar ++ ['"'])

end BatchChanges.Text
