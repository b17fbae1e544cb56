import Mathlib.Data.List.Induction
import Perfbench.Counter.CountResponse
import Perfbench.Library.History

/-!
# Runs of the counter

A run interleaves the events of any number of connections.  What it does to
the tables of one connection is the run of that connection's own events, so
statements about a connection are proved on `ConnTables.run` and hold of every
counter run by `Counter.run_conn`.
-/

namespace Perfbench

/-- What reaches the counter. -/
inductive Event where
  | established (connId : Int)
  | request (connIndex : Nat) (msg : Message)
  | response (connIndex : Nat) (msg : Message) (pastEnd : PastEnd)
  | newInterval (now : ℚ)

/-- An event as one connection sees it. -/
inductive ConnEvent where
  | request (msg : Message)
  | response (msg : Message) (pastEnd : PastEnd)

namespace Counter

def step (counter : Counter) : Event → Counter
  | .established connId => counter.connEstablished connId
  | .request connIndex msg => counter.countRequest msg connIndex
  | .response connIndex msg pastEnd =>
      counter.countResponse pastEnd msg connIndex
  | .newInterval now => counter.newInterval now

def run (counter : Counter) (events : List Event) : Counter :=
  events.foldl step counter

end Counter

namespace ConnTables

def respond (pastEnd : PastEnd) (msg : Message) (tables : ConnTables) :
    ConnTables :=
  tables.answer msg (tables.matchResponse pastEnd msg.xid)

def step (tables : ConnTables) : ConnEvent → ConnTables
  | .request msg => tables.pushRequest msg
  | .response msg pastEnd => tables.respond pastEnd msg

def run (tables : ConnTables) (events : List ConnEvent) : ConnTables :=
  events.foldl step tables

@[simp] theorem run_nil (tables : ConnTables) : tables.run [] = tables := rfl

@[simp] theorem run_cons (tables : ConnTables) (event : ConnEvent)
    (events : List ConnEvent) :
    tables.run (event :: events) = (tables.step event).run events := rfl

theorem run_append (tables : ConnTables) (first second : List ConnEvent) :
    tables.run (first ++ second) = (tables.run first).run second :=
  List.foldl_append

theorem run_snoc (tables : ConnTables) (past : List ConnEvent)
    (event : ConnEvent) :
    tables.run (past ++ [event]) = (tables.run past).step event := by
  rw [run_append]
  rfl

end ConnTables

namespace Event

/-- The event as seen by one connection, if it is one of that connection. -/
def onConn (connIndex : Nat) : Event → Option ConnEvent
  | .established _ => none
  | .request index msg =>
      if index = connIndex then some (.request msg) else none
  | .response index msg pastEnd =>
      if index = connIndex then some (.response msg pastEnd) else none
  | .newInterval _ => none

end Event

/-- The events of one connection, in order. -/
def onConn (connIndex : Nat) (events : List Event) : List ConnEvent :=
  events.filterMap (Event.onConn connIndex)

theorem filterMap_cons_toList {α β : Type*} (translate : α → Option β)
    (item : α) (items : List α) :
    (item :: items).filterMap translate =
      (translate item).toList ++ items.filterMap translate := by
  cases translation : translate item with
  | none => simp [translation]
  | some translated => simp [translation]

@[simp] theorem onConn_nil (connIndex : Nat) : onConn connIndex [] = [] := rfl

theorem onConn_append (connIndex : Nat) (first second : List Event) :
    onConn connIndex (first ++ second) =
      onConn connIndex first ++ onConn connIndex second :=
  List.filterMap_append

theorem onConn_cons (connIndex : Nat) (event : Event) (events : List Event) :
    onConn connIndex (event :: events) =
      (event.onConn connIndex).toList ++ onConn connIndex events :=
  filterMap_cons_toList _ event events

theorem onConn_singleton (connIndex : Nat) (event : Event) :
    onConn connIndex [event] = (event.onConn connIndex).toList := by
  rw [onConn_cons]
  exact List.append_nil _

namespace Counter

@[simp] theorem run_nil (counter : Counter) : counter.run [] = counter := rfl

@[simp] theorem run_cons (counter : Counter) (event : Event)
    (events : List Event) :
    counter.run (event :: events) = (counter.step event).run events := rfl

theorem run_append (counter : Counter) (first second : List Event) :
    counter.run (first ++ second) = (counter.run first).run second :=
  List.foldl_append

theorem run_snoc (counter : Counter) (past : List Event) (event : Event) :
    counter.run (past ++ [event]) = (counter.run past).step event := by
  rw [run_append]
  rfl

theorem countRequest_conn (msg : Message) (index : Nat) (counter : Counter)
    (connIndex : Nat) :
    (counter.countRequest msg index).conns[connIndex]? =
      if index = connIndex then
        counter.conns[connIndex]?.map (ConnTables.pushRequest msg)
      else counter.conns[connIndex]? := by
  simp only [countRequest, List.getElem?_modify]
  split <;> simp_all

theorem answer_of_index_none {matched : Matched}
    (rejected : matched.index = none) (msg : Message) (tables : ConnTables) :
    tables.answer msg matched = tables := by
  cases matched with
  | rejected => rfl
  | unending => rfl
  | late => simp [Matched.index] at rejected
  | inOrder => simp [Matched.index] at rejected
  | skipping => simp [Matched.index] at rejected

theorem countResponse_conn (pastEnd : PastEnd) (msg : Message) (index : Nat)
    (counter : Counter) (connIndex : Nat) :
    (counter.countResponse pastEnd msg index).conns[connIndex]? =
      if index = connIndex then
        counter.conns[connIndex]?.map (ConnTables.respond pastEnd msg)
      else counter.conns[connIndex]? := by
  unfold countResponse
  cases present : counter.conns[index]? with
  | none =>
      by_cases same : index = connIndex
      · subst connIndex
        simp [present]
      · simp [same]
  | some tables =>
      have inside : index < counter.conns.length :=
        (List.getElem?_eq_some_iff.mp present).1
      cases rejected : (tables.matchResponse pastEnd msg.xid).index with
      | none =>
          by_cases same : index = connIndex
          · subst connIndex
            simp [rejected, present, ConnTables.respond,
              answer_of_index_none rejected]
          · simp [rejected, same]
      | some reqSearchIndex =>
          by_cases same : index = connIndex
          · subst connIndex
            simp only [rejected, if_true]
            rw [List.getElem?_set_self inside, present]
            rfl
          · simp [rejected, same]

theorem step_conn {counter : Counter} {connIndex : Nat} {tables : ConnTables}
    (present : counter.conns[connIndex]? = some tables) (event : Event) :
    (counter.step event).conns[connIndex]? =
      some (tables.run (event.onConn connIndex).toList) := by
  cases event with
  | established connId =>
      have inside : connIndex < counter.conns.length :=
        (List.getElem?_eq_some_iff.mp present).1
      simp only [step, connEstablished, Event.onConn]
      rw [List.getElem?_append_left inside, present]
      rfl
  | request index msg =>
      simp only [step, Event.onConn, countRequest_conn]
      by_cases same : index = connIndex
      · simp [same, present, ConnTables.step]
      · simp [same, present]
  | response index msg pastEnd =>
      simp only [step, Event.onConn, countResponse_conn]
      by_cases same : index = connIndex
      · simp [same, present, ConnTables.step]
      · simp [same, present]
  | newInterval now =>
      simpa [step, newInterval, Event.onConn] using present

/-- A counter run acts on the tables of a connection as the run of that
connection's events. -/
theorem run_conn {counter : Counter} {connIndex : Nat} {tables : ConnTables}
    (present : counter.conns[connIndex]? = some tables)
    (events : List Event) :
    (counter.run events).conns[connIndex]? =
      some (tables.run (onConn connIndex events)) := by
  induction events generalizing counter tables with
  | nil => simpa using present
  | cons event events induction =>
      rw [run_cons, induction (step_conn present event), onConn_cons,
        ConnTables.run_append]

end Counter

end Perfbench
