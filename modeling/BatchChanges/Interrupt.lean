/-! # Interruptions

An activity ends before it is done if it fails, or if it needs an instant after the end of the
calendar. A failure can be handled; the other ends everything that was under way.
-/

namespace BatchChanges

/-- Why an activity ends before it is done. -/
inductive Interrupt (ε : Type) where
  | failed (error : ε)
  /-- An instant after the end of the calendar was needed. -/
  | overflow
deriving DecidableEq

namespace Interrupt

variable {ε δ : Type}

def map (revise : ε → δ) : Interrupt ε → Interrupt δ
  | failed error => failed (revise error)
  | overflow => overflow

end Interrupt

end BatchChanges
