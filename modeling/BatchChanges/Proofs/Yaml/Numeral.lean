import BatchChanges.Document
import BatchChanges.Proofs.Codec.Decimal
import BatchChanges.Proofs.Yaml.Phrase
import Mathlib.Tactic.IntervalCases

/-! # Numerals in YAML

The shortest decimal numeral of a number can be written as a plain scalar, and is read as the
number.
-/

namespace BatchChanges.Yaml

open Text

private theorem of_isDigit {p : Char → Prop} (each : ∀ digit < 10, p (Char.ofNat (48 + digit)))
    {c : Char} (digit : c.isDigit = true) : p c := by
  simp only [Char.isDigit, Bool.and_eq_true, decide_eq_true_eq, UInt32.le_iff_toNat_le] at digit
  have same : c = Char.ofNat (48 + (c.toNat - 48)) := by
    have low : 48 ≤ c.toNat := digit.1
    rw [Nat.add_sub_cancel' low, Char.ofNat_toNat]
  have high : c.toNat ≤ 57 := digit.2
  rw [same]
  exact each _ (by omega)

/-- A digit has no meaning of its own. -/
structure Harmless (c : Char) : Prop where
  inline : isInline c = true
  blank : isBlank c = false
  other : c ≠ '-' ∧ c ≠ '+' ∧ c ≠ '?' ∧ c ≠ ':' ∧ c.toNat ≠ 0xfeff
  starts : startsPlain false [c] = true

private theorem harmless_of_isDigit {c : Char} (digit : c.isDigit = true) : Harmless c :=
  of_isDigit (p := Harmless) (fun digit below => by
    interval_cases digit <;> exact ⟨rfl, rfl, by decide, rfl⟩) digit

private theorem goesOn_digits {run : List Char} (digits : ∀ c ∈ run, c.isDigit = true) :
    goesOn false run = true := by
  induction run with
  | nil => rfl
  | cons c run ih =>
    obtain ⟨here, digits⟩ := List.forall_mem_cons.mp digits
    obtain ⟨inline, blank, ⟨-, -, -, colon, -⟩, -⟩ := harmless_of_isDigit here
    simp [goesOn, blank, isBreak_of_isInline inline, colon, ih digits]

private theorem isPlain_digits {run : List Char} (digits : ∀ c ∈ run, c.isDigit = true)
    (more : run ≠ []) : isPlain run = true := by
  cases run with
  | nil => exact absurd rfl more
  | cons c run =>
    obtain ⟨here, digits⟩ := List.forall_mem_cons.mp digits
    obtain ⟨-, -, ⟨dash, -, question, colon, mark⟩, starts⟩ := harmless_of_isDigit here
    have alone : startsPlain false (c :: run) = startsPlain false [c] := by
      simp [startsPlain, dash, question, colon]
    simp [isPlain, alone, starts, dash, mark, goesOn_digits digits]

namespace Phrase

def numeral (number : Nat) : Phrase := ⟨.plain, Decimal.digits number⟩

theorem isProper_numeral (number : Nat) : (numeral number).isProper = true := by
  have digits : ∀ c ∈ Decimal.digits number, c.isDigit = true :=
    fun _ => Decimal.isDigit_of_mem_digits
  have inline : (Decimal.digits number).all isInline = true :=
    List.all_eq_true.mpr fun c member => (harmless_of_isDigit (digits c member)).inline
  simp [isProper, numeral, inline, isPlain_digits digits (Decimal.digits_ne_nil number)]

end Phrase

private theorem integerOfText?_digits (number : Nat) :
    integerOfText? (String.ofList (Decimal.digits number)) = some (number : Int) := by
  obtain ⟨c, more, same, here, zero⟩ := Decimal.exists_digits_eq_cons number
  have digits : (c :: more).all Char.isDigit = true :=
    List.all_eq_true.mpr fun _ member => Decimal.isDigit_of_mem_digits (same ▸ member)
  have magnitude : magnitude? (c :: more) = some number := by
    by_cases first : c = '0'
    · rw [zero first] at same ⊢
      rw [← same, Decimal.digits, if_pos (by decide)]
      rfl
    · rw [magnitude?, if_pos ⟨digits, List.cons_ne_nil _ _⟩, ← same, Decimal.value_digits]
      all_goals simp [first]
  obtain ⟨-, -, ⟨dash, plus, -⟩, -⟩ := harmless_of_isDigit here
  rw [integerOfText?, String.toList_ofList, same]
  simp [dash, plus, magnitude]

/-- A numeral stands for its number. -/
theorem integer?_numeral (number : Nat) :
    Document.integer? (Phrase.numeral number).node = some (number : Int) :=
  integerOfText?_digits number

end BatchChanges.Yaml
