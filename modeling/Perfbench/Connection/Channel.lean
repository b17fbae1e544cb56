import Perfbench.Connection.ByteStream
import Perfbench.Connection.MessageBytes

/-!
# One direction of a connection

What one end writes arrives at the other end byte for byte and in order, a few
bytes at a time.  A round of the loop of `read_cb` reads some of what has
arrived; the rounds hand over the messages that were written.
-/

namespace Perfbench

/-- The buffer of the end that reads, and what was written and not read. -/
structure Channel where
  buffer : OFReadBuffer
  stream : List UInt8
deriving DecidableEq, Repr

namespace Channel

open OFMessage (OnWire toBytes wireFormat)

def new : Channel where
  buffer := .clear
  stream := []

def write (bytes : List UInt8) (channel : Channel) : Channel :=
  { channel with stream := channel.stream ++ bytes }

/-- A round of the loop, when as many bytes have arrived as said; the loop
ends when nothing is there to be read. -/
def round (count : Nat) (channel : Channel) : Option (Reading × Channel) :=
  let bytes := channel.buffer.request (channel.stream.take count)
  if bytes = [] then none
  else
    let reading := channel.buffer.read bytes
    some (reading,
      { buffer := reading.next
        stream := channel.stream.drop bytes.length })

/-- The bytes of the messages: the first ones are in the buffer. -/
structure Carries (fluid : FluidMsg) (datapathId : Nat)
    (messages : List OFMessage) (channel : Channel) : Prop where
  onWire : ∀ msg ∈ messages, OnWire msg
  buffer : channel.buffer = OFReadBuffer.ofTail channel.buffer.held
  unfinished : Unfinished channel.buffer.held
  bytes : channel.buffer.held ++ channel.stream =
    (wireFormat fluid datapathId).write messages

variable {fluid : FluidMsg} {datapathId : Nat} {messages : List OFMessage}
  {channel : Channel}

theorem carries_of_tail {tail stream : List UInt8}
    (onWire : ∀ msg ∈ messages, OnWire msg) (unfinished : Unfinished tail)
    (bytes : tail ++ stream = (wireFormat fluid datapathId).write messages) :
    Carries fluid datapathId messages
      { buffer := OFReadBuffer.ofTail tail
        stream } := by
  refine ⟨onWire, ?_, ?_, ?_⟩
  · rw [held_ofTail]
  · rw [held_ofTail]
    exact unfinished
  · rw [held_ofTail]
    exact bytes

theorem carries_new : Carries fluid datapathId [] new :=
  carries_of_tail (by simp) unfinished_nil rfl

theorem Carries.write (carries : Carries fluid datapathId messages channel)
    {sent : List OFMessage} (onWire : ∀ msg ∈ sent, OnWire msg) :
    Carries fluid datapathId (messages ++ sent)
      (channel.write ((wireFormat fluid datapathId).write sent)) := by
  refine ⟨?_, carries.buffer, carries.unfinished, ?_⟩
  · exact List.forall_mem_append.mpr ⟨carries.onWire, onWire⟩
  · rw [Channel.write, ← List.append_assoc, carries.bytes,
      WireFormat.write_append]

/-- A round reads the next bytes, as many as the buffer has room for. -/
theorem Carries.round_reads (carries : Carries fluid datapathId messages channel)
    {count : Nat} {reading : Reading} {after : Channel}
    (result : channel.round count = some (reading, after)) :
    ∃ bytes, bytes ≠ [] ∧ channel.stream = bytes ++ after.stream ∧
      Fits channel.buffer.held bytes ∧
        reading = (OFReadBuffer.ofTail channel.buffer.held).read bytes ∧
          after.buffer = reading.next := by
  have fits := request_ofTail_length carries.unfinished
    (channel.stream.take count)
  rw [← carries.buffer] at fits
  obtain ⟨rest, stream⟩ : channel.buffer.request (channel.stream.take count)
      <+: channel.stream :=
    (List.take_prefix _ _).trans (List.take_prefix _ _)
  simp only [round] at result
  split at result
  · cases result
  · rename_i some
    cases result
    refine ⟨_, some, ?_, fits, ?_, rfl⟩
    · exact (List.prefix_iff_eq_append.mp ⟨rest, stream⟩).symm
    · rw [← carries.buffer]

/-- A round stays inside its arrays, and hands over nothing or exactly the
first of the messages. -/
theorem Carries.round (carries : Carries fluid datapathId messages channel)
    {count : Nat} {reading : Reading} {after : Channel}
    (result : channel.round count = some (reading, after)) :
    reading.Safe ∧
      (reading.message = none ∧ Carries fluid datapathId messages after ∨
        ∃ msg waiting, messages = msg :: waiting ∧
          reading.message = some (msg.toBytes fluid datapathId) ∧
            Carries fluid datapathId waiting after) := by
  obtain ⟨bytes, -, stream, fits, rfl, next⟩ := carries.round_reads result
  have whole := carries.bytes
  rw [stream, ← List.append_assoc] at whole
  obtain ⟨afterBuffer, afterStream⟩ := after
  simp only at stream next whole
  rcases read_cases carries.unfinished fits with ⟨undersized, -⟩ |
    ⟨isFrame, safe, message, cleared⟩ | ⟨unfinished, safe, message, kept⟩
  · have framed := undersized.not_framed []
    rw [List.append_nil] at framed
    exact absurd (WireFormat.framed_front carries.onWire whole) framed
  · obtain ⟨arrived, waiting, parts, decoded, later⟩ :=
      WireFormat.split_front carries.onWire whole
    have single := FrameFormat.split_frame_append isFrame []
    rw [List.append_nil, FrameFormat.split_nil] at single
    have single : (wireFormat fluid datapathId).format.split
        (channel.buffer.held ++ bytes) =
          ([channel.buffer.held ++ bytes], []) := single
    rw [single] at decoded later
    rw [← decoded, List.map_singleton] at parts
    have remaining : afterStream =
        (wireFormat fluid datapathId).write waiting := later
    rw [remaining, parts, WireFormat.write_append] at whole
    have front := List.append_cancel_right whole
    refine ⟨safe, .inr ⟨_, waiting, parts, ?_, ?_⟩⟩
    · rw [message]
      exact congrArg some (front.trans (List.append_nil _))
    · rw [next, cleared]
      apply carries_of_tail _ unfinished_nil later
      intro msg member
      apply carries.onWire
      rw [parts]
      exact List.mem_append_right _ member
  · refine ⟨safe, .inl ⟨message, ?_⟩⟩
    rw [next, kept]
    exact carries_of_tail carries.onWire unfinished whole

theorem Carries.settled (carries : Carries fluid datapathId messages channel)
    (read : channel.stream = []) : messages = [] ∧ channel = new := by
  have bytes := carries.bytes
  rw [read, List.append_nil] at bytes
  cases messages with
  | nil =>
      refine ⟨rfl, ?_⟩
      have buffer := carries.buffer
      rw [bytes] at buffer
      obtain ⟨_, _⟩ := channel
      simp only at read buffer
      rw [read, buffer]
      rfl
  | cons msg waiting =>
      have isFrame := @OnWire.frame fluid datapathId msg
        (carries.onWire msg (.head _))
      have complete := isFrame.complete_append
        ((wireFormat fluid datapathId).write waiting)
      exact absurd (bytes ▸ complete) carries.unfinished.notComplete

end Channel

end Perfbench
