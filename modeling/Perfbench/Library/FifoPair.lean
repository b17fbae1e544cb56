import Mathlib.Data.List.Basic

/-!
# Two parties and the messages between them

Two parties react to messages with a new state and further messages.  What
they sent and the other has not yet received waits in order, one queue for
each direction.  An invariant of the whole is made of one for each party and
one for the messages of each direction.
-/

/-- The states of the parties and the messages on their way to each. -/
structure FifoPair (Left Right Message : Type*) where
  left : Left
  right : Right
  toLeft : List Message
  toRight : List Message

namespace FifoPair

variable {Left Right Message : Type*}

/-- The party that receives the next message. -/
inductive Delivery where
  | toLeft
  | toRight
  deriving DecidableEq

/-- Deliver the oldest message, if there is one. -/
def step (reactLeft : Message → Left → Left × List Message)
    (reactRight : Message → Right → Right × List Message)
    (pair : FifoPair Left Right Message) :
    Delivery → FifoPair Left Right Message
  | .toLeft =>
      match pair.toLeft with
      | [] => pair
      | message :: waiting =>
          let reaction := reactLeft message pair.left
          { pair with
            left := reaction.1
            toLeft := waiting
            toRight := pair.toRight ++ reaction.2 }
  | .toRight =>
      match pair.toRight with
      | [] => pair
      | message :: waiting =>
          let reaction := reactRight message pair.right
          { pair with
            right := reaction.1
            toRight := waiting
            toLeft := pair.toLeft ++ reaction.2 }

def run (reactLeft : Message → Left → Left × List Message)
    (reactRight : Message → Right → Right × List Message)
    (pair : FifoPair Left Right Message) (deliveries : List Delivery) :
    FifoPair Left Right Message :=
  deliveries.foldl (step reactLeft reactRight) pair

/-- An invariant of each party, and of the messages to each of them. -/
structure Holds (leftOk : Left → Prop) (rightOk : Right → Prop)
    (toLeftOk toRightOk : Message → Prop) (pair : FifoPair Left Right Message) :
    Prop where
  left : leftOk pair.left
  right : rightOk pair.right
  toLeft : ∀ message ∈ pair.toLeft, toLeftOk message
  toRight : ∀ message ∈ pair.toRight, toRightOk message

variable {reactLeft : Message → Left → Left × List Message}
  {reactRight : Message → Right → Right × List Message}
  {leftOk : Left → Prop} {rightOk : Right → Prop}
  {toLeftOk toRightOk : Message → Prop}

/-- It is enough that each party, given good messages, stays good and sends
good messages. -/
theorem Holds.step
    (leftKeeps : ∀ message left, toLeftOk message → leftOk left →
      leftOk (reactLeft message left).1 ∧
        ∀ sent ∈ (reactLeft message left).2, toRightOk sent)
    (rightKeeps : ∀ message right, toRightOk message → rightOk right →
      rightOk (reactRight message right).1 ∧
        ∀ sent ∈ (reactRight message right).2, toLeftOk sent)
    {pair : FifoPair Left Right Message}
    (holds : Holds leftOk rightOk toLeftOk toRightOk pair)
    (delivery : Delivery) :
    Holds leftOk rightOk toLeftOk toRightOk
      (pair.step reactLeft reactRight delivery) := by
  cases delivery with
  | toLeft =>
      cases queue : pair.toLeft with
      | nil => simpa only [FifoPair.step, queue] using holds
      | cons message waiting =>
          have messages := holds.toLeft
          rw [queue] at messages
          obtain ⟨left, sent⟩ := leftKeeps message pair.left
            (messages message List.mem_cons_self) holds.left
          simp only [FifoPair.step, queue]
          refine ⟨left, holds.right, ?_, ?_⟩
          · exact fun other member =>
              messages other (List.mem_cons_of_mem _ member)
          · intro other member
            rcases List.mem_append.mp member with earlier | new
            · exact holds.toRight other earlier
            · exact sent other new
  | toRight =>
      cases queue : pair.toRight with
      | nil => simpa only [FifoPair.step, queue] using holds
      | cons message waiting =>
          have messages := holds.toRight
          rw [queue] at messages
          obtain ⟨right, sent⟩ := rightKeeps message pair.right
            (messages message List.mem_cons_self) holds.right
          simp only [FifoPair.step, queue]
          refine ⟨holds.left, right, ?_, ?_⟩
          · intro other member
            rcases List.mem_append.mp member with earlier | new
            · exact holds.toLeft other earlier
            · exact sent other new
          · exact fun other member =>
              messages other (List.mem_cons_of_mem _ member)

theorem Holds.run
    (leftKeeps : ∀ message left, toLeftOk message → leftOk left →
      leftOk (reactLeft message left).1 ∧
        ∀ sent ∈ (reactLeft message left).2, toRightOk sent)
    (rightKeeps : ∀ message right, toRightOk message → rightOk right →
      rightOk (reactRight message right).1 ∧
        ∀ sent ∈ (reactRight message right).2, toLeftOk sent)
    {pair : FifoPair Left Right Message}
    (holds : Holds leftOk rightOk toLeftOk toRightOk pair)
    (deliveries : List Delivery) :
    Holds leftOk rightOk toLeftOk toRightOk
      (pair.run reactLeft reactRight deliveries) := by
  induction deliveries generalizing pair with
  | nil => exact holds
  | cons delivery deliveries induction =>
      exact induction (holds.step leftKeeps rightKeeps delivery)

end FifoPair
