import BatchChanges.Text.Decimal

/-! # The range of numerals

A numeral may be of any length, but the number it denotes has to lie in the range of floating-point
numbers with 53 bits. What counts is a significand of at most 64 bits and a power of ten, each
rounded to such a number, and their product.
-/

namespace BatchChanges.Json

open Text

/-- A number as a significand and a power of ten. -/
structure Magnitude where
  significand : Nat := 0
  exponent : Int := 0
deriving DecidableEq

/-- The nearest number with 53 significant bits; of two that are as near, the even one. -/
def roundedTo53 (number : Nat) : Nat :=
  let dropped := number.log2 + 1 - 53
  let kept := number >>> dropped
  let excess := 2 * (number - kept <<< dropped)
  let step := 1 <<< dropped
  let up := decide (step < excess) || (decide (step = excess) && kept % 2 == 1)
  (if up then kept + 1 else kept) <<< dropped

/-- The least number that is rounded beyond every floating-point number. -/
def overflowBound : Nat := 1 <<< 1024 - 1 <<< 970

namespace Magnitude

def significandLimit : Nat := 18446744073709551615

/-- Takes in the digits before the point. Once one of them finds no room, it and all others only
raise the power of ten. -/
def takeWhole (full : Bool) (magnitude : Magnitude) : List Char → Magnitude
  | [] => magnitude
  | c :: rest =>
    let longer := 10 * magnitude.significand + Decimal.digitValue c
    if full ∨ significandLimit < longer then
      takeWhole true { magnitude with exponent := magnitude.exponent + 1 } rest
    else takeWhole false { magnitude with significand := longer } rest

/-- Takes in the digits after the point, as far as there is room. -/
def takeFraction (magnitude : Magnitude) : List Char → Magnitude
  | [] => magnitude
  | c :: rest =>
    let longer := 10 * magnitude.significand + Decimal.digitValue c
    if significandLimit < longer then magnitude
    else takeFraction ⟨longer, magnitude.exponent - 1⟩ rest

/-- The magnitude of a numeral with these digits before and after the point. -/
def ofDigits (whole fraction : List Char) (exponent : Int) : Magnitude :=
  let magnitude := (takeWhole false {} whole).takeFraction fraction
  { magnitude with exponent := magnitude.exponent + exponent }

/-- Whether the number is in range. -/
def fits (magnitude : Magnitude) : Bool :=
  if magnitude.significand = 0 ∨ magnitude.exponent < 0 then true
  else if 308 < magnitude.exponent then false
  else
    decide (roundedTo53 magnitude.significand * roundedTo53 (Nat.pow 10 magnitude.exponent.toNat) <
      overflowBound)

end Magnitude

end BatchChanges.Json
