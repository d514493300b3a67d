/-! # Instants and durations

An instant is a second of the common calendar, counted from the start of 1970, and a part of that
second in nanoseconds. A leap second is the last second of a minute with a part of one second or
more, so that instants are ordered by their second first and their part next. The calendar ends
with the year 262142; an addition that would leave it has no result.
-/

namespace BatchChanges

/-- A length of time, never negative. -/
structure Duration where
  nanoseconds : Nat
deriving DecidableEq, Repr, Inhabited

namespace Duration

def perSecond : Nat := 1000000000

def ofSeconds (seconds : Nat) : Duration := ⟨seconds * perSecond⟩

def ofMilliseconds (milliseconds : Nat) : Duration := ⟨milliseconds * 1000000⟩

def add (left right : Duration) : Duration := ⟨left.nanoseconds + right.nanoseconds⟩

/-- The number of seconds that fit into the duration. -/
def wholeSeconds (duration : Duration) : Nat := duration.nanoseconds / perSecond

/-- The longest duration that an instant can be moved by: 2^63 - 1 milliseconds. -/
def longest : Duration := ofMilliseconds 9223372036854775807

/-- Whether the duration is short enough to move an instant by it. -/
def isSpan (duration : Duration) : Bool := decide (duration.nanoseconds ≤ longest.nanoseconds)

/-- The duration of 5200 weeks, which stands in for one that is no span. -/
def century : Duration := ofSeconds (5200 * 7 * 86400)

end Duration

/-- A second of the calendar and a part of it. -/
structure Time where
  /-- Seconds since the start of 1970. -/
  second : Int
  /-- The part of the second; a second or more inside a leap second. -/
  nanosecond : Nat
  nanosecond_lt : nanosecond < 2 * Duration.perSecond
  second_of_leap : Duration.perSecond ≤ nanosecond → second % 60 = 59
  first_le : -8334601228800 ≤ second
  le_last : second ≤ 8210266876799
deriving DecidableEq

namespace Time

def ofParts? (second : Int) (nanosecond : Nat) : Option Time :=
  if valid : nanosecond < 2 * Duration.perSecond ∧
      (Duration.perSecond ≤ nanosecond → second % 60 = 59) ∧
      -8334601228800 ≤ second ∧ second ≤ 8210266876799 then
    some ⟨second, nanosecond, valid.1, valid.2.1, valid.2.2.1, valid.2.2.2⟩
  else none

/-- The start of 1970. -/
def epoch : Time := ⟨0, 0, by decide, by decide, by decide, by decide⟩

instance : Inhabited Time := ⟨epoch⟩

instance : LE Time :=
  ⟨fun left right => left.second < right.second ∨
    left.second = right.second ∧ left.nanosecond ≤ right.nanosecond⟩

instance : LT Time :=
  ⟨fun left right => left.second < right.second ∨
    left.second = right.second ∧ left.nanosecond < right.nanosecond⟩

instance (left right : Time) : Decidable (left ≤ right) :=
  inferInstanceAs (Decidable (_ ∨ _))

instance (left right : Time) : Decidable (left < right) :=
  inferInstanceAs (Decidable (_ ∨ _))

theorem le_def {left right : Time} : left ≤ right ↔ left.second < right.second ∨
    left.second = right.second ∧ left.nanosecond ≤ right.nanosecond := Iff.rfl

theorem lt_def {left right : Time} : left < right ↔ left.second < right.second ∨
    left.second = right.second ∧ left.nanosecond < right.nanosecond := Iff.rfl

theorem ext_parts {left right : Time} (second : left.second = right.second)
    (nanosecond : left.nanosecond = right.nanosecond) : left = right := by
  cases left
  cases right
  cases second
  cases nanosecond
  rfl

theorem le_refl (time : Time) : time ≤ time := .inr ⟨rfl, Nat.le_refl _⟩

theorem le_trans {first second third : Time} (left : first ≤ second) (right : second ≤ third) :
    first ≤ third := by
  rw [le_def] at *
  omega

theorem not_le {left right : Time} : ¬ left ≤ right ↔ right < left := by
  rw [le_def, lt_def]
  omega

/-- The later instant after `duration` has passed, as long as the calendar lasts. A leap second
lasts one second and is followed by the first second of the next minute. -/
def add? (time : Time) (duration : Duration) : Option Time :=
  if Duration.perSecond ≤ time.nanosecond ∧
      time.nanosecond + duration.nanoseconds < 2 * Duration.perSecond then
    ofParts? time.second (time.nanosecond + duration.nanoseconds)
  else
    let part := time.nanosecond % Duration.perSecond + duration.nanoseconds
    ofParts? (time.second + (part / Duration.perSecond : Nat)) (part % Duration.perSecond)

theorem ofParts?_eq_some {second : Int} {nanosecond : Nat} {time : Time}
    (built : ofParts? second nanosecond = some time) :
    time.second = second ∧ time.nanosecond = nanosecond := by
  simp only [ofParts?] at built
  split at built
  · cases built
    exact ⟨rfl, rfl⟩
  · cases built

theorem ofParts?_parts (time : Time) : ofParts? time.second time.nanosecond = some time := by
  simp [ofParts?, time.nanosecond_lt, time.first_le, time.le_last]
  exact time.second_of_leap

/-- Waiting never leads to an earlier instant. -/
theorem le_of_add? {time later : Time} {duration : Duration}
    (added : time.add? duration = some later) : time ≤ later := by
  have bound := time.nanosecond_lt
  simp only [add?] at added
  rw [le_def]
  split at added
  · have := ofParts?_eq_some added
    omega
  · have := ofParts?_eq_some added
    simp only [Duration.perSecond] at *
    omega

end Time

end BatchChanges
