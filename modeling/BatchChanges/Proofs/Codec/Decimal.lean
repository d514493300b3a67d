import BatchChanges.Text.Decimal
import Mathlib.Data.List.TakeWhile
import Mathlib.Tactic.Ring

/-! # Numerals inside of a text

A numeral is read back from a text in which it is followed by something else: the reader takes the
whole run of digits, or as many digits as the numeral was filled up to, and leaves the rest.
-/

namespace BatchChanges.Text

/-- A reader that succeeds hands over to the next one. -/
theorem bind_of_eq_some {α β : Type} {first : Option α} {value : α} {next : α → Option β}
    {result : Option β} (read : first = some value) (rest : next value = result) :
    (first >>= next) = result := by
  rw [read]
  exact rest

namespace Decimal

variable {run rest : List Char} {width number : Nat}

/-- No digit follows. -/
def Stops (rest : List Char) : Prop := ∀ c ∈ rest.head?, c.isDigit = false

theorem stops_cons {c : Char} (other : c.isDigit = false) : Stops (c :: rest) := by
  rintro _ ⟨⟩
  exact other

/-- A run of digits is taken up to its end. -/
theorem span_append (digits : ∀ c ∈ run, c.isDigit = true) (stops : Stops rest) :
    span (run ++ rest) = (run, rest) := by
  rw [span, List.takeWhile_append_of_pos digits, List.dropWhile_append_of_pos digits]
  cases rest with
  | nil => simp
  | cons c rest =>
    have other := stops c rfl
    simp [other]

private theorem spanUpTo_append (digits : ∀ c ∈ run, c.isDigit = true) (rest : List Char) :
    spanUpTo run.length (run ++ rest) = (run, rest) := by
  have all : run.takeWhile Char.isDigit = run := List.takeWhile_eq_self_iff.mpr digits
  rw [spanUpTo, List.take_left, all, List.drop_left]

theorem value_append (left right : List Char) :
    value (left ++ right) = value left * 10 ^ right.length + value right := by
  have shifted : ∀ (chars : List Char) (start : Nat),
      chars.foldl (fun number c => 10 * number + digitValue c) start =
        start * 10 ^ chars.length + value chars := by
    intro chars
    induction chars with
    | nil => simp [value]
    | cons c rest ih =>
      intro start
      have whole : value (c :: rest) = digitValue c * 10 ^ rest.length + value rest := by
        rw [value, List.foldl_cons, ih, Nat.mul_zero, Nat.zero_add]
      rw [List.foldl_cons, ih, whole, List.length_cons]
      ring
  rw [value, List.foldl_append, shifted]
  rfl

@[simp] theorem value_replicate_zero (count : Nat) : value (List.replicate count '0') = 0 := by
  induction count with
  | zero => rfl
  | succ count ih =>
    rw [List.replicate_succ', value_append, ih]
    rfl

private theorem length_digits_le (below : number < 10 ^ width) (wide : 0 < width) :
    (digits number).length ≤ width := by
  induction width generalizing number with
  | zero => cases wide
  | succ width ih =>
    rw [digits]
    split
    · simp
    · next large =>
      have fewer : number / 10 < 10 ^ width := by
        rw [Nat.pow_succ] at below
        omega
      have positive : 0 < width := by
        rcases Nat.eq_zero_or_pos width with rfl | positive
        · omega
        · exact positive
      have shorter := ih fewer positive
      simp only [List.length_append, List.length_singleton]
      omega

theorem length_padded (below : number < 10 ^ width) (wide : 0 < width) :
    (padded width number).length = width := by
  have fits := length_digits_le below wide
  simp only [padded, List.length_append, List.length_replicate]
  omega

theorem isDigit_of_mem_padded {c : Char} (member : c ∈ padded width number) :
    c.isDigit = true := by
  rcases List.mem_append.mp member with zero | digit
  · rw [(List.mem_replicate.mp zero).2]
    rfl
  · exact isDigit_of_mem_digits digit

@[simp] theorem value_padded (width number : Nat) : value (padded width number) = number := by
  rw [padded, value_append, value_replicate_zero, value_digits, Nat.zero_mul, Nat.zero_add]

theorem padded_ne_nil (width number : Nat) : padded width number ≠ [] :=
  List.append_ne_nil_of_right_ne_nil _ (digits_ne_nil number)

/-- A numeral starts with a digit. -/
theorem exists_padded_eq_cons (width number : Nat) :
    ∃ c more, padded width number = c :: more ∧ c.isDigit = true := by
  obtain ⟨c, more, same⟩ := List.exists_cons_of_ne_nil (padded_ne_nil width number)
  have member : c ∈ padded width number := same ▸ List.mem_cons_self
  exact ⟨c, more, same, isDigit_of_mem_padded member⟩

/-- As many digits are taken as the numeral has been filled up to. -/
theorem spanUpTo_padded (below : number < 10 ^ width) (wide : 0 < width) (rest : List Char) :
    spanUpTo width (padded width number ++ rest) = (padded width number, rest) := by
  have digits : ∀ c ∈ padded width number, c.isDigit = true := fun _ => isDigit_of_mem_padded
  have taken := spanUpTo_append digits
  rw [length_padded below wide] at taken
  exact taken rest

/-- The shortest numeral of a number starts with a zero only if it is that of zero. -/
theorem exists_digits_eq_cons (number : Nat) :
    ∃ c more, digits number = c :: more ∧ c.isDigit = true ∧ (c = '0' → number = 0) := by
  rw [digits]
  split
  · next small =>
    refine ⟨_, _, rfl, isDigit_digitChar small, fun zero => ?_⟩
    rw [← digitValue_digitChar small, zero]
    rfl
  · next large =>
    obtain ⟨c, more, same, digit, zero⟩ := exists_digits_eq_cons (number / 10)
    rw [same]
    refine ⟨c, _, rfl, digit, fun first => ?_⟩
    have := zero first
    omega
termination_by number
decreasing_by omega

end Decimal

end BatchChanges.Text
