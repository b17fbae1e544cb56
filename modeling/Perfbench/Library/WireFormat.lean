import Mathlib.Algebra.Ring.Nat
import Perfbench.Library.Framing

/-!
# Messages on a stream

Messages are written one after the other as frames.  Whatever part of the
stream has been read, the frames in that part are the first messages written,
and what is left of it belongs to the next ones.
-/

/-- Big-endian bytes of a number. -/
def networkOrder : (count : Nat) → (value : Nat) → List UInt8
  | 0, _ => []
  | count + 1, value =>
      networkOrder count (value / 256) ++ [UInt8.ofNat (value % 256)]

/-- The number that big-endian bytes stand for. -/
def ofNetworkOrder (bytes : List UInt8) : Nat :=
  bytes.foldl (fun value byte => value * 256 + byte.toNat) 0

theorem networkOrder_length (count value : Nat) :
    (networkOrder count value).length = count := by
  induction count generalizing value with
  | zero => rfl
  | succ count induction =>
      rw [networkOrder, List.length_append, induction]
      rfl

theorem ofNetworkOrder_networkOrder (count value : Nat) :
    ofNetworkOrder (networkOrder count value) = value % 256 ^ count := by
  induction count generalizing value with
  | zero => exact (Nat.mod_one value).symm
  | succ count induction =>
      have last : (UInt8.ofNat (value % 256)).toNat = value % 256 := by simp
      have front := induction (value / 256)
      rw [ofNetworkOrder] at front
      rw [networkOrder, ofNetworkOrder, List.foldl_append, front]
      simp only [List.foldl_cons, List.foldl_nil, last]
      rw [Nat.pow_succ, Nat.mul_comm (256 ^ count), Nat.mod_mul]
      omega

/-- A message that can be sent is a frame, and is read as what it was. -/
structure WireFormat (Message α : Type*) where
  format : FrameFormat α
  encode : Message → List α
  decode : List α → Message
  Sendable : Message → Prop
  frame : ∀ message, Sendable message → format.Frame (encode message)
  decode_encode : ∀ message, Sendable message →
    decode (encode message) = message

namespace WireFormat

variable {Message α : Type*} (wire : WireFormat Message α)

def write (messages : List Message) : List α :=
  (messages.map wire.encode).flatten

variable {wire}

theorem write_append (first second : List Message) :
    wire.write (first ++ second) = wire.write first ++ wire.write second := by
  rw [write, List.map_append, List.flatten_append]
  rfl

theorem frames_of_sendable {messages : List Message}
    (sendable : ∀ message ∈ messages, wire.Sendable message) :
    ∀ frame ∈ messages.map wire.encode, wire.format.Frame frame := by
  intro frame member
  obtain ⟨message, isMessage, rfl⟩ := List.mem_map.mp member
  exact wire.frame message (sendable message isMessage)

theorem map_decode_encode {messages : List Message}
    (sendable : ∀ message ∈ messages, wire.Sendable message) :
    (messages.map wire.encode).map wire.decode = messages := by
  rw [List.map_map]
  have same : messages.map (wire.decode ∘ wire.encode) =
      messages.map (fun message => message) :=
    List.map_congr_left (fun message member =>
      wire.decode_encode message (sendable message member))
  rw [same]
  exact List.map_id messages

theorem framed_front {messages : List Message}
    (sendable : ∀ message ∈ messages, wire.Sendable message)
    {front back : List α} (stream : front ++ back = wire.write messages) :
    wire.format.Framed front :=
  FrameFormat.framed_of_prefix (frames_of_sendable sendable) ⟨back, stream⟩

/-- What is read of the front of a stream are the first messages, and the rest
is the stream of the others. -/
theorem split_front {messages : List Message}
    (sendable : ∀ message ∈ messages, wire.Sendable message)
    {front back : List α} (stream : front ++ back = wire.write messages) :
    ∃ arrived waiting, messages = arrived ++ waiting ∧
      (wire.format.split front).1.map wire.decode = arrived ∧
      (wire.format.split front).2 ++ back = wire.write waiting := by
  have areFrames := frames_of_sendable sendable
  obtain ⟨⟨later, frames⟩, -⟩ := FrameFormat.split_prefix areFrames stream
  obtain ⟨arrived, waiting, parts, first, second⟩ :=
    List.map_eq_append_iff.mp frames.symm
  refine ⟨arrived, waiting, parts, ?_, ?_⟩
  · rw [← first]
    apply map_decode_encode
    intro message member
    apply sendable
    rw [parts]
    exact List.mem_append_left _ member
  · have whole := @FrameFormat.split_flatten _ wire.format front
    rw [← whole, write, ← frames, List.flatten_append, List.append_assoc]
      at stream
    rw [write, second]
    exact List.append_cancel_left stream

end WireFormat
