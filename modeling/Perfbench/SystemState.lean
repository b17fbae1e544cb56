import Mathlib.Logic.Function.Basic
import Perfbench.Library.ByteLoop

/-!
# The end of a run

A send loop that reaches its limit sets the flag of its tenant and looks at
the flags of all.  Where it finds them set it stops all the tenants.  Every
connection that is closed makes the controller's thread finish all the
tenants, too; a mutex keeps such threads apart from each other only.
-/

namespace Perfbench

/-- Where the thread of a send loop is. -/
inductive SendLoop where
  /-- at the head of the loop -/
  | head
  /-- before the test of the limit -/
  | body
  /-- in `tenant_finished`, with the index of the loop there -/
  | scanning (i : Nat)
  /-- in `stop_tenants`, with the index of the loop there -/
  | stopping (i : Nat)
  /-- has returned without stopping the tenants -/
  | returned
  /-- has returned from `all_tenants_finished` -/
  | stopped
  deriving DecidableEq

/-- The tenants are numbered from 0; `tenantFinished` and `testcaseFinished`
are the flags of tenants and of their testcases. -/
structure SystemState where
  loops : Nat → SendLoop
  tenantFinished : Nat → Bool
  testcaseFinished : Nat → Bool
  /-- how often `finish` of each testcase has run -/
  finishes : Nat → Nat
  /-- calls of `tenant_failed` that wait for the mutex -/
  waiting : Nat
  /-- the index in the loop of the call that holds the mutex -/
  failing : Option Nat
  /-- calls of `tenant_failed` that have returned -/
  failures : Nat
  finished : Bool
  failed : Bool

namespace SystemState

/-- All the tenants are connected, and the send loops start. -/
def running : SystemState where
  loops := fun _ => .head
  tenantFinished := fun _ => false
  testcaseFinished := fun _ => false
  finishes := fun _ => 0
  waiting := 0
  failing := none
  failures := 0
  finished := false
  failed := false

def setLoop (state : SystemState) (t : Nat) (loop : SendLoop) : SystemState :=
  { state with loops := Function.update state.loops t loop }

/-- `BaseTestCase::finish`: the controller is stopped, and the report and the
logfile are written. -/
def finish (state : SystemState) (t : Nat) : SystemState :=
  { state with
    finishes := Function.update state.finishes t (state.finishes t + 1)
    testcaseFinished := Function.update state.testcaseFinished t true }

inductive Step where
  /-- the send loop of a tenant tests whether its testcase is finished -/
  | loopTest (t : Nat)
  /-- the limit is not reached, and a burst is sent -/
  | burst (t : Nat)
  /-- the limit is reached, and the tenant's flag is set -/
  | limitReached (t : Nat)
  /-- the next step of `tenant_finished` or `all_tenants_finished` -/
  | tenantFinished (t : Nat)
  /-- a connection of a tenant is closed -/
  | connectionClosed
  /-- the next step of `tenant_failed` -/
  | tenantFailed
  deriving DecidableEq

/-- A step of the thread of a send loop, of one that is there. -/
def sendLoopStep (tenants : Nat) (state : SystemState) (t : Nat) :
    SendLoop → SystemState
  | .scanning i =>
      if i < tenants then
        if state.tenantFinished i then
          state.setLoop t (.scanning (ByteLoop.next i))
        else state.setLoop t .returned
      -- the cooldown lies between the two
      else state.setLoop t (.stopping 0)
  | .stopping i =>
      if i < tenants then
        (state.finish i).setLoop t (.stopping (ByteLoop.next i))
      else { state.setLoop t .stopped with finished := true }
  | _ => state

def step (tenants : Nat) (state : SystemState) : Step → SystemState
  | .loopTest t =>
      if t < tenants ∧ state.loops t = .head then
        state.setLoop t (if state.testcaseFinished t then .returned else .body)
      else state
  | .burst t =>
      if t < tenants ∧ state.loops t = .body then state.setLoop t .head
      else state
  | .limitReached t =>
      if t < tenants ∧ state.loops t = .body then
        { state.setLoop t (.scanning 0) with
          tenantFinished := Function.update state.tenantFinished t true }
      else state
  | .tenantFinished t =>
      if t < tenants then sendLoopStep tenants state t (state.loops t)
      else state
  | .connectionClosed => { state with waiting := state.waiting + 1 }
  | .tenantFailed =>
      match state.failing with
      | none =>
          if state.waiting = 0 then state
          else { state with waiting := state.waiting - 1, failing := some 0 }
      | some i =>
          if i < tenants then
            { state.finish i with failing := some (ByteLoop.next i) }
          else
            { state with
              failing := none
              failures := state.failures + 1
              failed := true }

def run (tenants : Nat) (steps : List Step) : SystemState :=
  steps.foldl (step tenants) running

theorem run_append (tenants : Nat) (steps more : List Step) :
    run tenants (steps ++ more) =
      more.foldl (step tenants) (run tenants steps) :=
  List.foldl_append

end SystemState

end Perfbench
