import Mathlib.Tactic.TypeStar

/-!
# Runs driven by a stream of inputs

A machine that takes a step for every input goes on for ever.  What a step
keeps holds all the time, and what makes a rank smaller with every step cannot
go on.
-/

namespace InputRun

variable {State Input : Type*}

/-- The state after the given number of inputs. -/
def states (step : State → Input → State) (start : State)
    (inputs : Nat → Input) : Nat → State
  | 0 => start
  | n + 1 => step (states step start inputs n) (inputs n)

variable {step : State → Input → State} {start : State} {inputs : Nat → Input}

/-- What holds at the start and is kept by all the steps taken holds always. -/
theorem always {Invariant : State → Prop} {Allowed : State → Input → Prop}
    (first : Invariant start)
    (keeps : ∀ state input, Allowed state input → Invariant state →
      Invariant (step state input))
    (allowed : ∀ n, Allowed (states step start inputs n) (inputs n)) (n : Nat) :
    Invariant (states step start inputs n) := by
  induction n with
  | zero => exact first
  | succ n induction => exact keeps _ _ (allowed n) induction

/-- What goes on to the next state and makes a rank smaller there ends. -/
theorem not_forever {Going : Nat → Prop} {rank : Nat → Nat}
    (next : ∀ n, Going n → Going (n + 1) ∧ rank (n + 1) < rank n) (n : Nat) :
    ¬Going n := by
  suffices bounded : ∀ bound n, rank n ≤ bound → ¬Going n from
    bounded (rank n) n (Nat.le_refl _)
  intro bound
  induction bound with
  | zero =>
      intro n small going
      obtain ⟨_, smaller⟩ := next n going
      omega
  | succ bound induction =>
      intro n small going
      obtain ⟨still, smaller⟩ := next n going
      exact induction (n + 1) (by omega) still

end InputRun
