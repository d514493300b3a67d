import BatchChanges.Text.Blank
import BatchChanges.Text.Decimal
import BatchChanges.Time
import BatchChanges.Time.Calendar

/-! # Timestamps

An instant is written in the zone UTC as date, the letter T, time and the letter Z. The fraction
of the second is left out when it is zero and has otherwise the fewest of 3, 6 or 9 digits that
are exact; years outside of 0 to 9999 carry a sign.

The reader accepts more: any offset below 24 hours in the place of Z, the small letters, a blank
for the letter T, numbers with fewer digits, and white space in front of numbers, separators and
the offset. The date has to be one of the calendar, and the offset cannot be left out.
-/

namespace BatchChanges.Time

open Text

/-- The fraction of a second with the fewest of 0, 3, 6 or 9 digits. -/
def fractionText (nanosecond : Nat) : List Char :=
  if nanosecond = 0 then []
  else if nanosecond % 1000000 = 0 then '.' :: Decimal.padded 3 (nanosecond / 1000000)
  else if nanosecond % 1000 = 0 then '.' :: Decimal.padded 6 (nanosecond / 1000)
  else '.' :: Decimal.padded 9 nanosecond

/-- A year with at least four digits, and with a sign unless it lies between 0 and 9999. -/
def yearText (year : Int) : List Char :=
  if 0 ≤ year ∧ year ≤ 9999 then Decimal.padded 4 year.toNat
  else (if year < 0 then '-' else '+') :: Decimal.padded 4 year.natAbs

def text (time : Time) : String :=
  let date := Date.ofDayNumber (time.second / 86400)
  let ofDay := (time.second % 86400).toNat
  let leap := if Duration.perSecond ≤ time.nanosecond then 1 else 0
  String.ofList <|
    yearText date.year ++ ['-'] ++ Decimal.padded 2 date.month ++ ['-'] ++
      Decimal.padded 2 date.day ++ ['T'] ++ Decimal.padded 2 (ofDay / 3600) ++ [':'] ++
      Decimal.padded 2 (ofDay / 60 % 60) ++ [':'] ++ Decimal.padded 2 (ofDay % 60 + leap) ++
      fractionText (time.nanosecond % Duration.perSecond) ++ ['Z']

/-- A number of at most `width` digits after white space, and what follows it. -/
def number? (width : Nat) (chars : List Char) : Option (Nat × List Char) :=
  match Decimal.spanUpTo width (trimLeft chars) with
  | ([], _) => none
  | (run, rest) => some (Decimal.value run, rest)

/-- A year after white space: four digits at most, or a sign and any number of digits. -/
def year? (chars : List Char) : Option (Int × List Char) :=
  match trimLeft chars with
  | '-' :: rest => signed rest fun year => -year
  | '+' :: rest => signed rest fun year => year
  | rest => (number? 4 rest).map fun (year, rest) => ((year : Int), rest)
where
  signed (chars : List Char) (sign : Int → Int) : Option (Int × List Char) :=
    match Decimal.span chars with
    | ([], _) => none
    | (run, rest) => some (sign (Decimal.value run), rest)

def separator? (mark : Char) (chars : List Char) : Option (List Char) :=
  match trimLeft chars with
  | [] => none
  | c :: rest => if c = mark then some rest else none

/-- The fraction of a second in nanoseconds; nine digits count, more are skipped. -/
def fraction? : List Char → Option (Nat × List Char)
  | '.' :: rest =>
    match Decimal.span rest with
    | ([], _) => none
    | (run, rest) => some (Decimal.value ((run ++ List.replicate 9 '0').take 9), rest)
  | rest => some (0, rest)

/-- The offset from UTC in seconds. Hours and minutes have two digits each; colons and blanks may
stand between them. -/
def offset? : List Char → Option (Int × List Char)
  | [] => none
  | c :: rest =>
    if c = 'Z' ∨ c = 'z' then some (0, rest)
    else if c = '+' then clock rest fun seconds => seconds
    else if c = '-' ∨ c = '−' then clock rest fun seconds => -seconds
    else universal (c :: rest)
where
  clock (chars : List Char) (sign : Int → Int) : Option (Int × List Char) :=
    match Decimal.spanUpTo 2 chars with
    | ([h₁, h₂], rest) =>
      match Decimal.spanUpTo 2 (rest.dropWhile fun c => c == ':' || isBlank c) with
      | ([m₁, m₂], rest) =>
        let minutes := Decimal.value [m₁, m₂]
        if minutes < 60 then
          some (sign ((Decimal.value [h₁, h₂] * 3600 + minutes * 60 : Nat) : Int), rest)
        else none
      | _ => none
    | _ => none
  universal : List Char → Option (Int × List Char)
    | u :: t :: c :: rest =>
      if u.toLower = 'u' ∧ t.toLower = 't' ∧ c.toLower = 'c' then some (0, rest) else none
    | _ => none

def parse? (stamp : String) : Option Time := do
  let (year, rest) ← year? stamp.toList
  let rest ← separator? '-' rest
  let (month, rest) ← number? 2 rest
  let rest ← separator? '-' rest
  let (day, rest) ← number? 2 rest
  let rest ← timeOfDay rest
  let (hour, rest) ← number? 2 rest
  let rest ← separator? ':' rest
  let (minute, rest) ← number? 2 rest
  let rest ← separator? ':' rest
  let (second, rest) ← number? 2 rest
  let (fraction, rest) ← fraction? rest
  let (offset, rest) ← offset? (trimLeft rest)
  guard (isAllBlank rest)
  let date : Date := ⟨year, month, day⟩
  guard (date.isValid ∧ hour < 24 ∧ minute < 60 ∧ second ≤ 60 ∧ offset.natAbs < 86400)
  let leap := second = 60
  let ofDay : Int := hour * 3600 + minute * 60 + (if leap then 59 else second)
  ofParts? (date.dayNumber * 86400 + ofDay - offset)
    (if leap then Duration.perSecond + fraction else fraction)
where
  timeOfDay : List Char → Option (List Char)
    | c :: rest => if c = 'T' ∨ c = 't' ∨ c = ' ' then some rest else none
    | [] => none

end BatchChanges.Time
