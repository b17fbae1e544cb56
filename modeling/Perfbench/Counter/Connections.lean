import Perfbench.Counter.Bookkeeping

/-!
# Runs from the start

`ctrl_conn_established` creates the tables of a connection, and requests and
responses name connections that are established.  In a run from the start the
tables of a connection are then those of its own events.
-/

namespace Perfbench

namespace Event

def establishes : Event → Bool
  | .established _ => true
  | _ => false

end Event

/-- Number of connections a run establishes. -/
def connections (events : List Event) : Nat :=
  events.countP Event.establishes

def OnEstablished (past : List Event) : Event → Prop
  | .established _ => True
  | .request connIndex _ => connIndex < connections past
  | .response connIndex _ _ => connIndex < connections past
  | .newInterval _ => True

instance (past : List Event) : DecidablePred (OnEstablished past)
  | .established _ => isTrue trivial
  | .request connIndex _ =>
      inferInstanceAs (Decidable (connIndex < connections past))
  | .response connIndex _ _ =>
      inferInstanceAs (Decidable (connIndex < connections past))
  | .newInterval _ => isTrue trivial

theorem connections_snoc (past : List Event) (event : Event) :
    connections (past ++ [event]) =
      connections past + if event.establishes then 1 else 0 := by
  simp [connections, List.countP_append, List.countP_singleton]

namespace Counter

theorem step_conns_length (counter : Counter) (event : Event) :
    (counter.step event).conns.length =
      counter.conns.length + if event.establishes then 1 else 0 := by
  cases event with
  | established connId => simp [step, connEstablished, Event.establishes]
  | request connIndex msg => simp [step, countRequest, Event.establishes]
  | newInterval now => simp [step, newInterval, Event.establishes]
  | response connIndex msg pastEnd =>
      simp only [step, countResponse, Event.establishes]
      split
      · rfl
      · split <;> simp

theorem initial_conns_length (events : List Event) :
    (initial.run events).conns.length = connections events := by
  induction events using List.reverseRecOn with
  | nil => rfl
  | append_singleton past event induction =>
      rw [run_snoc, step_conns_length, induction, connections_snoc]

theorem onConn_of_connections_le {events : List Event}
    (connected : History.Admissible OnEstablished events) {connIndex : Nat}
    (later : connections events ≤ connIndex) :
    onConn connIndex events = [] := by
  revert later
  refine connected.invariant ?_ ?_
  · intro _
    rfl
  · intro past event _ onEstablished induction later
    rw [connections_snoc] at later
    rw [onConn_append, induction (by omega), onConn_cons]
    cases event with
    | established connId => rfl
    | newInterval now => rfl
    | request index msg =>
        have inside : index < connections past := onEstablished
        have different : index ≠ connIndex := by omega
        simp [Event.onConn, different]
    | response index msg pastEnd =>
        have inside : index < connections past := onEstablished
        have different : index ≠ connIndex := by omega
        simp [Event.onConn, different]

/-- In a run from the start every connection shows the run of its own
events. -/
theorem initial_conn {events : List Event}
    (connected : History.Admissible OnEstablished events) {connIndex : Nat}
    (inside : connIndex < connections events) :
    ∃ connId, (initial.run events).conns[connIndex]? =
      some ((ConnTables.fresh connId).run (onConn connIndex events)) := by
  revert inside
  refine connected.invariant ?_ ?_
  · intro inside
    exact absurd inside (Nat.not_lt_zero connIndex)
  · intro past event pastConnected onEstablished induction inside
    rcases Nat.lt_or_ge connIndex (connections past) with old | new
    · obtain ⟨connId, present⟩ := induction old
      refine ⟨connId, ?_⟩
      rw [run_snoc, step_conn present, onConn_append, onConn_cons,
        ConnTables.run_append]
      simp
    · rw [connections_snoc] at inside
      cases event with
      | established connId =>
          have position : connIndex = connections past := by
            simp only [Event.establishes, if_true] at inside
            omega
          refine ⟨connId, ?_⟩
          rw [run_snoc, onConn_append,
            onConn_of_connections_le pastConnected new]
          simp [step, connEstablished, position, initial_conns_length,
            onConn_cons, Event.onConn]
      | request index msg =>
          simp only [Event.establishes] at inside
          exact absurd inside (by simpa using new)
      | response index msg pastEnd =>
          simp only [Event.establishes] at inside
          exact absurd inside (by simpa using new)
      | newInterval now =>
          simp only [Event.establishes] at inside
          exact absurd inside (by simpa using new)

/-- The tables of a connection hold the requests issued on it and count
them. -/
theorem initial_bookkept {events : List Event} {connIndex : Nat}
    {tables : ConnTables}
    (connected : History.Admissible OnEstablished events)
    (present : (initial.run events).conns[connIndex]? = some tables) :
    tables.Bookkept ∧
      tables.reqXids = issued (onConn connIndex events) := by
  have inside : connIndex < connections events := by
    rw [← initial_conns_length]
    exact (List.getElem?_eq_some_iff.mp present).1
  obtain ⟨connId, shown⟩ := initial_conn connected inside
  rw [present, Option.some.injEq] at shown
  rw [shown]
  refine ⟨(ConnTables.bookkept_fresh connId).run _, ?_⟩
  rw [(ConnTables.run_reqs _ _).1]
  rfl

end Counter

end Perfbench
