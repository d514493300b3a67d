import BatchChanges.Proofs.Codec.Calendar
import BatchChanges.Proofs.Codec.Decimal
import BatchChanges.Time.Text

/-! # Timestamps are read back

The timestamp of an instant denotes the instant. Each reader takes what was written for it and
leaves the rest to the next one: nothing that is written starts with white space, and every number
is written with as many digits as its reader takes. A leap second is written as second 60.
-/

namespace BatchChanges.Time

open Text

private theorem isBlank_of_isDigit {c : Char} (digit : c.isDigit = true) : isBlank c = false := by
  simp only [Char.isDigit, Bool.and_eq_true, decide_eq_true_eq, ge_iff_le,
    UInt32.le_iff_toNat_le] at digit
  obtain ⟨zero, nine⟩ := digit
  change 48 ≤ c.toNat at zero
  change c.toNat ≤ 57 at nine
  simp only [isBlank, Bool.or_eq_false_iff, Bool.and_eq_false_iff, decide_eq_false_iff_not,
    beq_eq_false_iff_ne]
  omega

private theorem trimLeft_cons {c : Char} (inked : isBlank c = false) (rest : List Char) :
    trimLeft (c :: rest) = c :: rest := by
  rw [trimLeft, List.dropWhile_cons_of_neg (by simp [inked])]

private theorem trimLeft_padded (width number : Nat) (rest : List Char) :
    trimLeft (Decimal.padded width number ++ rest) = Decimal.padded width number ++ rest := by
  obtain ⟨c, more, same, digit⟩ := Decimal.exists_padded_eq_cons width number
  rw [same, List.cons_append, trimLeft_cons (isBlank_of_isDigit digit)]

private theorem number?_padded {width number : Nat} (below : number < 10 ^ width) (wide : 0 < width)
    (rest : List Char) :
    number? width (Decimal.padded width number ++ rest) = some (number, rest) := by
  rw [number?, trimLeft_padded, Decimal.spanUpTo_padded below wide]
  split
  · next none =>
    cases Decimal.padded_ne_nil width number (congrArg Prod.fst none)
  · next taken =>
    cases taken
    rw [Decimal.value_padded]

private theorem separator?_cons {mark : Char} (inked : isBlank mark = false) (rest : List Char) :
    separator? mark (mark :: rest) = some rest := by
  rw [separator?, trimLeft_cons inked]
  exact if_pos rfl

private theorem year?_padded {number : Nat} (below : number < 10000) (rest : List Char) :
    year? (Decimal.padded 4 number ++ rest) = some ((number : Int), rest) := by
  obtain ⟨c, more, same, digit⟩ := Decimal.exists_padded_eq_cons 4 number
  have fits : number < 10 ^ 4 := below
  have read := number?_padded fits (by decide) rest
  rw [year?, trimLeft_padded]
  rw [same] at read ⊢
  split
  · next sign =>
    cases sign
    cases digit
  · next sign =>
    cases sign
    cases digit
  · rw [read, Option.map_some]

private theorem signed_padded (number : Nat) {rest : List Char} (stops : Decimal.Stops rest)
    (sign : Int → Int) :
    year?.signed (Decimal.padded 4 number ++ rest) sign = some (sign number, rest) := by
  rw [year?.signed, Decimal.span_append (fun c => Decimal.isDigit_of_mem_padded) stops]
  split
  · next none => cases Decimal.padded_ne_nil 4 number (congrArg Prod.fst none)
  · next taken =>
    cases taken
    rw [Decimal.value_padded]

private theorem year?_yearText (year : Int) {rest : List Char} (stops : Decimal.Stops rest) :
    year? (yearText year ++ rest) = some (year, rest) := by
  rw [yearText]
  split
  · next four =>
    rw [year?_padded (by omega), Int.toNat_of_nonneg four.1]
  · next outside =>
    split
    · next negative =>
      rw [List.cons_append, year?, trimLeft_cons (by decide)]
      simp only [signed_padded _ stops, Option.some.injEq, Prod.mk.injEq, and_true]
      omega
    · next positive =>
      rw [List.cons_append, year?, trimLeft_cons (by decide)]
      simp only [signed_padded _ stops, Option.some.injEq, Prod.mk.injEq, and_true]
      omega

private theorem fraction?_padded {width number : Nat} (below : number < 10 ^ width)
    (wide : 0 < width) (short : width ≤ 9) {rest : List Char} (stops : Decimal.Stops rest) :
    fraction? ('.' :: Decimal.padded width number ++ rest) =
      some (number * 10 ^ (9 - width), rest) := by
  rw [List.cons_append, fraction?, Decimal.span_append (fun c => Decimal.isDigit_of_mem_padded)
    stops]
  have length := Decimal.length_padded below wide
  have filled : (Decimal.padded width number ++ List.replicate 9 '0').take 9 =
      Decimal.padded width number ++ List.replicate (9 - width) '0' := by
    rw [List.take_append, List.take_of_length_le (by omega), length, List.take_replicate]
    congr 2
    omega
  split
  · next none => cases Decimal.padded_ne_nil width number (congrArg Prod.fst none)
  · next taken =>
    cases taken
    rw [filled, Decimal.value_append, Decimal.value_padded, Decimal.value_replicate_zero,
      List.length_replicate, Nat.add_zero]

private theorem fraction?_fractionText {nanosecond : Nat} (below : nanosecond < Duration.perSecond)
    {rest : List Char} (stops : Decimal.Stops rest) (other : rest.head? ≠ some '.') :
    fraction? (fractionText nanosecond ++ rest) = some (nanosecond, rest) := by
  rw [Duration.perSecond] at below
  rw [fractionText]
  split
  · next zero =>
    subst zero
    rw [List.nil_append, fraction?.eq_def]
    split
    · exact absurd rfl other
    · rfl
  · split
    · next milliseconds =>
      rw [fraction?_padded (by omega) (by decide) (by decide) stops]
      simp only [Option.some.injEq, Prod.mk.injEq, and_true]
      omega
    · split
      · next microseconds =>
        rw [fraction?_padded (by omega) (by decide) (by decide) stops]
        simp only [Option.some.injEq, Prod.mk.injEq, and_true]
        omega
      · rw [fraction?_padded (by omega) (by decide) (by decide) stops]
        simp

private theorem daysInMonth_le (year : Int) (month : Nat) : Date.daysInMonth year month ≤ 31 := by
  simp only [Date.daysInMonth]
  split
  · split <;> decide
  all_goals decide

private theorem timeOfDay_cons (rest : List Char) : parse?.timeOfDay ('T' :: rest) = some rest := by
  rw [parse?.timeOfDay, if_pos (.inl rfl)]

/-- A timestamp of a date and a time of day is read as the instant with these parts. -/
theorem parse?_parts {date : Date} {hour minute second nanosecond : Nat}
    (valid : date.isValid = true) (hours : hour < 24) (minutes : minute < 60)
    (seconds : second ≤ 60) (below : nanosecond < Duration.perSecond) :
    parse? (String.ofList (yearText date.year ++ ['-'] ++ Decimal.padded 2 date.month ++ ['-'] ++
        Decimal.padded 2 date.day ++ ['T'] ++ Decimal.padded 2 hour ++ [':'] ++
        Decimal.padded 2 minute ++ [':'] ++ Decimal.padded 2 second ++ fractionText nanosecond ++
        ['Z'])) =
      ofParts?
        (date.dayNumber * 86400 +
          (hour * 3600 + minute * 60 + (if second = 60 then 59 else second) : Int))
        (if second = 60 then Duration.perSecond + nanosecond else nanosecond) := by
  have calendar := valid
  simp only [Date.isValid, Bool.and_eq_true, decide_eq_true_eq] at calendar
  obtain ⟨⟨⟨-, december⟩, -⟩, days⟩ := calendar
  have short := daysInMonth_le date.year date.month
  have dash : ∀ rest, separator? '-' ('-' :: rest) = some rest := separator?_cons (by decide)
  have colon : ∀ rest, separator? ':' (':' :: rest) = some rest := separator?_cons (by decide)
  have offset : offset? (trimLeft ['Z']) = some (0, []) := by decide
  rw [parse?, String.toList_ofList]
  simp only [List.append_assoc, List.cons_append, List.nil_append]
  refine bind_of_eq_some (year?_yearText _ (Decimal.stops_cons (by decide))) ?_
  refine bind_of_eq_some (dash _) ?_
  refine bind_of_eq_some (number?_padded (by omega) (by decide) _) ?_
  refine bind_of_eq_some (dash _) ?_
  refine bind_of_eq_some (number?_padded (by omega) (by decide) _) ?_
  refine bind_of_eq_some (timeOfDay_cons _) ?_
  refine bind_of_eq_some (number?_padded (by omega) (by decide) _) ?_
  refine bind_of_eq_some (colon _) ?_
  refine bind_of_eq_some (number?_padded (by omega) (by decide) _) ?_
  refine bind_of_eq_some (colon _) ?_
  refine bind_of_eq_some (number?_padded (by omega) (by decide) _) ?_
  refine bind_of_eq_some (fraction?_fractionText below (Decimal.stops_cons (by decide))
    (by decide)) ?_
  refine bind_of_eq_some offset ?_
  refine bind_of_eq_some (if_pos rfl) ?_
  refine bind_of_eq_some (if_pos ⟨valid, hours, minutes, seconds, by decide⟩) ?_
  exact congrArg (ofParts? · _) (Int.sub_zero _)

/-- The timestamp of an instant is read as the instant. -/
@[simp] theorem parse?_text (time : Time) : parse? time.text = some time := by
  have first := time.first_le
  have last := time.le_last
  have leaps := time.second_of_leap
  have bound := time.nanosecond_lt
  have unit : Duration.perSecond = 1000000000 := rfl
  have valid : (Date.ofDayNumber (time.second / 86400)).isValid = true :=
    Date.isValid_ofDayNumber (by omega) (by omega)
  refine (parse?_parts valid (by omega) (Nat.mod_lt _ (by decide)) (by split <;> omega)
    (Nat.mod_lt _ (by decide))).trans ?_
  rw [Date.dayNumber_ofDayNumber, ← ofParts?_parts time]
  by_cases leap : Duration.perSecond ≤ time.nanosecond
  · have last := leaps leap
    rw [if_pos leap, if_pos (by omega), if_pos (by omega)]
    congr 1
    · omega
    · rw [unit]
      omega
  · rw [if_neg leap, Nat.add_zero, if_neg (by omega), if_neg (by omega),
      Nat.mod_eq_of_lt (show time.nanosecond < Duration.perSecond by omega)]
    congr 1
    omega

end BatchChanges.Time
