/-! # Decimal numerals

Natural numbers are written with the fewest decimal digits, and a run of digits is read back as
the number that it denotes. `value_digits` states that nothing is lost on the way.
-/

namespace BatchChanges.Text.Decimal

def digitChar (digit : Nat) : Char := Char.ofNat (48 + digit)

def digitValue (c : Char) : Nat := c.toNat - 48

def digits (number : Nat) : List Char :=
  if number < 10 then [digitChar number] else digits (number / 10) ++ [digitChar (number % 10)]
termination_by number
decreasing_by omega

def value (chars : List Char) : Nat := chars.foldl (fun number c => 10 * number + digitValue c) 0

/-- The numeral of a number, filled up with zeros on the left to at least `width` digits. -/
def padded (width number : Nat) : List Char :=
  List.replicate (width - (digits number).length) '0' ++ digits number

def ofInt : Int → List Char
  | .ofNat number => digits number
  | .negSucc number => '-' :: digits (number + 1)

def span (chars : List Char) : List Char × List Char :=
  (chars.takeWhile Char.isDigit, chars.dropWhile Char.isDigit)

/-- The digits at the start of a text but at most `width` of them, and what follows. -/
def spanUpTo (width : Nat) (chars : List Char) : List Char × List Char :=
  let run := (chars.take width).takeWhile Char.isDigit
  (run, chars.drop run.length)

theorem digitValue_digitChar {digit : Nat} (below : digit < 10) :
    digitValue (digitChar digit) = digit := by
  have all : ∀ digit, digit < 10 → digitValue (digitChar digit) = digit := by decide
  exact all digit below

theorem isDigit_digitChar {digit : Nat} (below : digit < 10) :
    (digitChar digit).isDigit = true := by
  have all : ∀ digit, digit < 10 → (digitChar digit).isDigit = true := by decide
  exact all digit below

/-- Reading a numeral gives the number back. -/
@[simp] theorem value_digits (number : Nat) : value (digits number) = number := by
  rw [digits]
  split
  · next small => simp [value, digitValue_digitChar small]
  · next large =>
    have shorter := value_digits (number / 10)
    simp only [value, List.foldl_append, List.foldl_cons, List.foldl_nil] at shorter ⊢
    rw [shorter, digitValue_digitChar (Nat.mod_lt _ (by decide))]
    omega
termination_by number
decreasing_by omega

/-- A numeral holds digits only. -/
theorem isDigit_of_mem_digits {number : Nat} {c : Char} (member : c ∈ digits number) :
    c.isDigit = true := by
  rw [digits] at member
  split at member
  · next small => exact List.mem_singleton.mp member ▸ isDigit_digitChar small
  · next large =>
    rcases List.mem_append.mp member with member | member
    · exact isDigit_of_mem_digits member
    · exact List.mem_singleton.mp member ▸ isDigit_digitChar (Nat.mod_lt _ (by decide))
termination_by number
decreasing_by omega

theorem digits_ne_nil (number : Nat) : digits number ≠ [] := by
  rw [digits]
  split <;> simp

end BatchChanges.Text.Decimal
