import Mathlib.Algebra.Ring.Int.Defs

/-!
# A count that is read and reset

One thread counts, another reads the count for a report and resets it later.
What was counted and is neither reported nor still there is missing: all that
is counted between the reading and the reset, and what the count drops where
it wraps.
-/

/-- The count, whether it was read since the last reset, the sum of what was
read, and how often it was counted. -/
structure ReadReset where
  value : Int
  isRead : Bool
  reported : Int
  counted : Nat

namespace ReadReset

/-- One more, in an integer type that wraps. -/
def count (wrap : Int → Int) (register : ReadReset) : ReadReset :=
  { register with
    value := wrap (register.value + 1)
    counted := register.counted + 1 }

def read (register : ReadReset) : ReadReset :=
  { register with
    isRead := true
    reported := register.reported + register.value }

def reset (register : ReadReset) : ReadReset :=
  { register with
    value := 0
    isRead := false }

/-- What is in the count and not in the reports. -/
def unreported (register : ReadReset) : Int :=
  if register.isRead then 0 else register.value

def missing (register : ReadReset) : Int :=
  register.counted - register.reported - register.unreported

/-- What goes missing when it is counted now. -/
def lost (wrap : Int → Int) (register : ReadReset) : Int :=
  if register.isRead then 1
  else register.value + 1 - wrap (register.value + 1)

variable {wrap : Int → Int} {register : ReadReset}

theorem missing_count :
    (register.count wrap).missing = register.missing + register.lost wrap := by
  cases isRead : register.isRead with
  | false =>
      simp only [missing, unreported, count, lost, isRead, Bool.false_eq_true,
        if_false]
      omega
  | true =>
      simp only [missing, unreported, count, lost, isRead, if_true]
      omega

theorem missing_read (unread : register.isRead = false) :
    register.read.missing = register.missing := by
  simp only [missing, unreported, read, unread, Bool.false_eq_true, if_false,
    if_true]
  omega

theorem missing_reset (isRead : register.isRead = true) :
    register.reset.missing = register.missing := by
  simp [missing, unreported, reset, isRead]

/-- Nothing is missing exactly when the reports and the count add up. -/
theorem missing_eq_zero_iff (unread : register.isRead = false) :
    register.missing = 0 ↔
      register.reported + register.value = register.counted := by
  simp only [missing, unreported, unread, Bool.false_eq_true, if_false]
  omega

end ReadReset
