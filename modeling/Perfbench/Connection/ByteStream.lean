import Perfbench.Connection.Reassembly

/-!
# Arrivals of a byte stream

`read_cb` hands over the complete messages of the bytes that have arrived,
byte for byte and in order, and stays inside its arrays as long as no length
field is below the length of the header.
-/

namespace Perfbench

theorem readCb_nil (buffer : OFReadBuffer) :
    readCb buffer [] = ([], buffer, []) := by
  rw [readCb, OFReadBuffer.request, List.take_nil, if_pos rfl]

theorem readCb_round {tail input : List UInt8} (unfinished : Unfinished tail)
    (arrived : input ≠ []) :
    ∃ bytes rest, input = bytes ++ rest ∧ rest.length < input.length ∧
      Fits tail bytes ∧ ∃ reading,
        reading = (OFReadBuffer.ofTail tail).read bytes ∧
        readCb (OFReadBuffer.ofTail tail) input =
          (reading :: (readCb reading.next rest).1,
            (readCb reading.next rest).2) := by
  have some := request_ofTail_ne_nil unfinished arrived
  refine ⟨(OFReadBuffer.ofTail tail).request input,
    input.drop (OFReadBuffer.ofTail tail).getReadLen,
    (List.take_append_drop _ _).symm, ?_,
    request_ofTail_length unfinished input, _, rfl, ?_⟩
  · have read := List.length_pos_of_ne_nil some
    rw [OFReadBuffer.request, List.length_take] at read
    rw [List.length_drop]
    omega
  · rw [readCb.eq_def, if_neg some]

/-- The buffer is in the state that the bytes since the last message give. -/
structure Reassembled (stream : List UInt8)
    (run : List Reading × OFReadBuffer × List UInt8) : Prop where
  messages : messagesOf run.1 = (messageFormat.split stream).1
  buffer : run.2.1 = OFReadBuffer.ofTail (messageFormat.split stream).2
  input : run.2.2 = []
  safe : ∀ reading ∈ run.1, reading.Safe

theorem Unfinished.split {tail : List UInt8} (unfinished : Unfinished tail) :
    messageFormat.split tail = ([], tail) :=
  FrameFormat.split_of_not_complete unfinished.notComplete

theorem Unfinished.framed {tail : List UInt8} (unfinished : Unfinished tail) :
    messageFormat.Framed tail := by
  rw [FrameFormat.Framed, unfinished.split]
  exact unfinished.notUndersized

theorem unfinished_split {stream : List UInt8}
    (framed : messageFormat.Framed stream) :
    Unfinished (messageFormat.split stream).2 :=
  ⟨FrameFormat.split_rest_not_complete stream, framed⟩

theorem framed_frame_append_iff {frame : List UInt8}
    (isFrame : messageFormat.Frame frame) (rest : List UInt8) :
    messageFormat.Framed (frame ++ rest) ↔ messageFormat.Framed rest := by
  rw [FrameFormat.Framed, FrameFormat.split_frame_append isFrame,
    FrameFormat.Framed]

/-- By induction on the input: each round reads some of it. -/
theorem readCb_reassembled {tail input : List UInt8}
    (unfinished : Unfinished tail)
    (framed : messageFormat.Framed (tail ++ input)) :
    Reassembled (tail ++ input) (readCb (OFReadBuffer.ofTail tail) input) := by
  by_cases arrived : input = []
  · subst arrived
    rw [readCb_nil, List.append_nil]
    refine ⟨?_, ?_, rfl, ?_⟩
    · rw [unfinished.split]
      rfl
    · rw [unfinished.split]
    · intro reading member
      exact absurd member List.not_mem_nil
  · obtain ⟨bytes, rest, inputEq, shorter, fits, reading, read, round⟩ :=
      readCb_round unfinished arrived
    rw [round, inputEq, ← List.append_assoc]
    rw [inputEq, ← List.append_assoc] at framed
    rcases read_cases unfinished fits with ⟨undersized, _⟩ |
      ⟨isFrame, safe, message, next⟩ | ⟨unfinished', safe, message, next⟩
    · exact absurd framed (undersized.not_framed rest)
    · rw [← read] at safe message next
      have later := @readCb_reassembled [] rest unfinished_nil
        ((framed_frame_append_iff isFrame rest).mp framed)
      rw [next]
      refine ⟨?_, ?_, ?_, ?_⟩
      · rw [FrameFormat.split_frame_append isFrame, messagesOf,
          List.filterMap_cons_some message]
        exact congrArg _ later.messages
      · rw [FrameFormat.split_frame_append isFrame]
        exact later.buffer
      · exact later.input
      · exact List.forall_mem_cons.mpr ⟨safe, later.safe⟩
    · rw [← read] at safe message next
      have later := readCb_reassembled unfinished' framed
      rw [next]
      refine ⟨?_, later.buffer, later.input, ?_⟩
      · rw [messagesOf, List.filterMap_cons_none message]
        exact later.messages
      · exact List.forall_mem_cons.mpr ⟨safe, later.safe⟩
termination_by input.length

/-- By induction on the input: the round that completes the undersized header
is the unsafe one. -/
theorem readCb_overruns {tail input : List UInt8} (unfinished : Unfinished tail)
    (notFramed : ¬messageFormat.Framed (tail ++ input)) :
    ∃ reading ∈ (readCb (OFReadBuffer.ofTail tail) input).1,
      ¬reading.Safe := by
  have arrived : input ≠ [] := by
    rintro rfl
    rw [List.append_nil] at notFramed
    exact notFramed unfinished.framed
  obtain ⟨bytes, rest, inputEq, shorter, fits, reading, read, round⟩ :=
    readCb_round unfinished arrived
  rw [inputEq, ← List.append_assoc] at notFramed
  rw [round]
  rcases read_cases unfinished fits with ⟨_, notSafe⟩ |
    ⟨isFrame, _, _, next⟩ | ⟨unfinished', _, _, next⟩
  · rw [← read] at notSafe
    exact ⟨reading, List.mem_cons_self, notSafe⟩
  · rw [← read] at next
    rw [framed_frame_append_iff isFrame] at notFramed
    obtain ⟨later, member, notSafe⟩ :=
      @readCb_overruns [] rest unfinished_nil notFramed
    rw [next]
    exact ⟨later, List.mem_cons_of_mem _ member, notSafe⟩
  · rw [← read] at next
    obtain ⟨later, member, notSafe⟩ := readCb_overruns unfinished' notFramed
    rw [next]
    exact ⟨later, List.mem_cons_of_mem _ member, notSafe⟩
termination_by input.length

theorem receive_reassembled {tail : List UInt8} {arrivals : List (List UInt8)}
    (unfinished : Unfinished tail)
    (framed : messageFormat.Framed (tail ++ arrivals.flatten)) :
    Reassembled (tail ++ arrivals.flatten)
      (receive (OFReadBuffer.ofTail tail) [] arrivals) := by
  induction arrivals generalizing tail with
  | nil =>
      have ended := @readCb_reassembled tail [] unfinished
      rw [readCb_nil] at ended
      exact ended framed
  | cons arrival arrivals induction =>
      rw [List.flatten_cons, ← List.append_assoc] at framed ⊢
      rw [receive, List.nil_append]
      have later := (FrameFormat.framed_append_iff _ _).mp framed
      have here : messageFormat.Framed (tail ++ arrival) :=
        FrameFormat.framed_of_append framed
      have run := readCb_reassembled unfinished here
      have rest := induction (unfinished_split here) later
      have joined := @FrameFormat.split_append _ messageFormat
        (tail ++ arrival) arrivals.flatten
      rw [run.input, run.buffer]
      refine ⟨?_, ?_, rest.input, ?_⟩
      · rw [joined, ← run.messages, ← rest.messages]
        exact List.filterMap_append
      · rw [joined]
        exact rest.buffer
      · intro reading member
        rcases List.mem_append.mp member with first | second
        · exact run.safe reading first
        · exact rest.safe reading second

theorem receive_overruns {tail : List UInt8} {arrivals : List (List UInt8)}
    (unfinished : Unfinished tail)
    (notFramed : ¬messageFormat.Framed (tail ++ arrivals.flatten)) :
    ∃ reading ∈ (receive (OFReadBuffer.ofTail tail) [] arrivals).1,
      ¬reading.Safe := by
  induction arrivals generalizing tail with
  | nil =>
      rw [List.flatten_nil, List.append_nil] at notFramed
      exact absurd unfinished.framed notFramed
  | cons arrival arrivals induction =>
      rw [List.flatten_cons, ← List.append_assoc] at notFramed
      rw [receive, List.nil_append]
      by_cases here : messageFormat.Framed (tail ++ arrival)
      · have run := readCb_reassembled unfinished here
        rw [FrameFormat.framed_append_iff] at notFramed
        obtain ⟨reading, member, notSafe⟩ :=
          induction (unfinished_split here) notFramed
        rw [run.input, run.buffer]
        exact ⟨reading, List.mem_append_right _ member, notSafe⟩
      · obtain ⟨reading, member, notSafe⟩ := readCb_overruns unfinished here
        exact ⟨reading, List.mem_append_left _ member, notSafe⟩

theorem held_ofTail (tail : List UInt8) :
    (OFReadBuffer.ofTail tail).held = tail := by
  rw [OFReadBuffer.ofTail]
  split
  · exact List.take_left
  · exact List.take_left

/-- The messages handed over are the first of the sequence, and with the bytes
of the unfinished next one in the buffer make up what has arrived. -/
structure Delivered (messages arrivals : List (List UInt8))
    (run : List Reading × OFReadBuffer × List UInt8) : Prop where
  inOrder : messagesOf run.1 <+: messages
  bytes : (messagesOf run.1).flatten ++ run.2.1.held = arrivals.flatten
  unfinished : ∀ message,
    messages[(messagesOf run.1).length]? = some message →
      run.2.1.held.length < message.length
  nothingUnread : run.2.2 = []
  whole : arrivals.flatten = messages.flatten → messagesOf run.1 = messages

/-- The messages do not depend on how the stream is cut. -/
theorem receive_delivered {messages arrivals : List (List UInt8)}
    (wellFormed : ∀ message ∈ messages, messageFormat.Frame message)
    (arrived : arrivals.flatten <+: messages.flatten) :
    Delivered messages arrivals (receive .clear [] arrivals) := by
  obtain ⟨later, stream⟩ := arrived
  have framed := FrameFormat.framed_of_prefix wellFormed ⟨later, stream⟩
  have run := @receive_reassembled [] arrivals unfinished_nil framed
  rw [ofTail_nil, List.nil_append] at run
  obtain ⟨isPrefix, shorter⟩ := FrameFormat.split_prefix wellFormed stream
  refine ⟨?_, ?_, ?_, run.input, ?_⟩
  · rw [run.messages]
    exact isPrefix
  · rw [run.messages, run.buffer, held_ofTail, FrameFormat.split_flatten]
  · rw [run.messages, run.buffer, held_ofTail]
    exact shorter
  · intro whole
    rw [run.messages, whole, FrameFormat.split_flatten_frames wellFormed]

/-- A message of a header only, and one of nine bytes. -/
def twoMessages : List (List UInt8) :=
  [[1, 0, 0, 8, 0, 0, 0, 7], [1, 2, 0, 9, 0, 0, 0, 8, 42]]

/-- They arrive in three parts, cut in both headers, and the last byte has
not arrived. -/
theorem receive_delivered_twoMessages :
    Delivered twoMessages
      [[1, 0, 0], [8, 0, 0, 0, 7, 1, 2], [0, 9, 0, 0, 0, 8]]
      (receive .clear [] [[1, 0, 0], [8, 0, 0, 0, 7, 1, 2],
        [0, 9, 0, 0, 0, 8]]) :=
  receive_delivered (by decide) ⟨[42], rfl⟩

/-- The arrays, the cursor and the next read stay within bounds, whatever
arrives, exactly when the stream up to there is framed. -/
theorem receive_safe_iff (arrivals : List (List UInt8)) :
    (∀ reading ∈ (receive .clear [] arrivals).1, reading.Safe) ↔
      messageFormat.Framed arrivals.flatten := by
  constructor
  · intro safe
    by_contra notFramed
    obtain ⟨reading, member, notSafe⟩ :=
      @receive_overruns [] arrivals unfinished_nil notFramed
    exact notSafe (safe reading member)
  · intro framed
    exact (@receive_reassembled [] arrivals unfinished_nil framed).safe

/-- A header that announces an empty message is copied into an array of no
bytes. -/
theorem receive_emptyMessage :
    ¬∀ reading ∈ (receive .clear [] [[1, 0, 0, 0, 0, 0, 0, 0]]).1,
      reading.Safe := by
  have notComplete :
      ¬messageFormat.Complete [1, 0, 0, 0, 0, 0, 0, 0] := by decide
  have notFramed : ¬messageFormat.Framed [1, 0, 0, 0, 0, 0, 0, 0] := by
    rw [FrameFormat.Framed, FrameFormat.split_of_not_complete notComplete]
    decide
  obtain ⟨reading, member, notSafe⟩ :=
    @receive_overruns [] [[1, 0, 0, 0, 0, 0, 0, 0]] unfinished_nil notFramed
  intro safe
  exact notSafe (safe reading member)

end Perfbench
