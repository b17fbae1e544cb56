import Perfbench.Connection.OFReadBuffer
import Perfbench.Library.Framing

/-!
# The messages of a byte stream

However the stream is cut into arrivals, the messages handed over are the
complete frames of the bytes that have arrived, and the buffer holds the
unfinished frame, as long as no header has a length field below its own
length.  Such a header is written past the end of its array.
-/

namespace Perfbench

theorem lengthField_append (stream rest : List UInt8)
    (long : ofHeaderLength ≤ stream.length) :
    lengthField (stream ++ rest) = lengthField stream := by
  have wide : 8 ≤ stream.length := long
  simp only [lengthField, List.getD_eq_getElem?_getD]
  rw [List.getElem?_append_left (by omega),
    List.getElem?_append_left (by omega)]

theorem lengthField_lt (header : List UInt8) :
    lengthField header < 2 ^ 16 := by
  have high := (header.getD 2 0).toNat_lt
  have low := (header.getD 3 0).toNat_lt
  simp only [lengthField]
  omega

/-- OpenFlow messages as frames. -/
def messageFormat : FrameFormat UInt8 where
  header := ofHeaderLength
  header_pos := by decide
  size := lengthField
  size_append := lengthField_append

/-- The buffer that holds the given bytes of an unfinished message. -/
def OFReadBuffer.ofTail (tail : List UInt8) : OFReadBuffer :=
  if tail.length < ofHeaderLength then
    { OFReadBuffer.clear with
      header := tail ++ List.replicate (ofHeaderLength - tail.length) 0
      headerPos := tail.length }
  else
    { data := tail ++ List.replicate (lengthField tail - tail.length) 0
      init := true
      header := tail.take ofHeaderLength
      headerPos := ofHeaderLength
      pos := tail.length
      len := lengthField tail }

/-- Bytes that do not make up a message yet, and may still become one. -/
structure Unfinished (tail : List UInt8) : Prop where
  notComplete : ¬messageFormat.Complete tail
  notUndersized : ¬messageFormat.Undersized tail

theorem unfinished_nil : Unfinished [] := by
  refine ⟨?_, ?_⟩
  · decide
  · decide

theorem ofTail_nil : OFReadBuffer.ofTail [] = .clear := rfl

theorem Unfinished.short_or_within {tail : List UInt8}
    (unfinished : Unfinished tail) :
    tail.length < ofHeaderLength ∨
      ofHeaderLength ≤ tail.length ∧ tail.length < lengthField tail := by
  rcases Nat.lt_or_ge tail.length ofHeaderLength with short | long
  · exact .inl short
  · refine .inr ⟨long, ?_⟩
    have notComplete := unfinished.notComplete
    have notUndersized := unfinished.notUndersized
    simp only [FrameFormat.Complete, FrameFormat.Undersized, messageFormat]
      at notComplete notUndersized
    omega

/-- Bytes written right after the front of an array, as far as there is
room. -/
theorem stored_append (front back bytes : List UInt8)
    (room : bytes.length ≤ back.length) :
    stored (front ++ back) front.length bytes =
      front ++ bytes ++ back.drop bytes.length := by
  rw [stored, List.take_left, List.drop_append,
    List.drop_eq_nil_of_le (Nat.le_add_right _ _), List.nil_append,
    Nat.add_sub_cancel_left]
  apply List.take_of_length_le
  simp only [List.length_append, List.length_drop]
  omega

theorem getReadLen_ofTail {tail : List UInt8} (unfinished : Unfinished tail) :
    (OFReadBuffer.ofTail tail).getReadLen =
      if tail.length < ofHeaderLength then ofHeaderLength - tail.length
      else lengthField tail - tail.length := by
  have fits := lengthField_lt tail
  rcases unfinished.short_or_within with short | ⟨long, within⟩
  · rw [OFReadBuffer.ofTail, if_pos short, if_pos short]
    simp only [OFReadBuffer.getReadLen, OFReadBuffer.clear, uint16Sub,
      ofHeaderLength, Bool.false_eq_true, if_false] at short ⊢
    omega
  · rw [OFReadBuffer.ofTail, if_neg (Nat.not_lt.mpr long),
      if_neg (Nat.not_lt.mpr long)]
    simp only [OFReadBuffer.getReadLen, uint16Sub, if_true]
    omega

/-- The buffer never asks for more than the header or the message lacks. -/
theorem request_ofTail_length {tail : List UInt8}
    (unfinished : Unfinished tail) (input : List UInt8) :
    ((OFReadBuffer.ofTail tail).request input).length ≤
      if tail.length < ofHeaderLength then ofHeaderLength - tail.length
      else lengthField tail - tail.length := by
  rw [OFReadBuffer.request, List.length_take, getReadLen_ofTail unfinished]
  exact Nat.min_le_left _ _

theorem request_ofTail_ne_nil {tail input : List UInt8}
    (unfinished : Unfinished tail) (arrived : input ≠ []) :
    (OFReadBuffer.ofTail tail).request input ≠ [] := by
  have available := List.length_pos_of_ne_nil arrived
  apply List.ne_nil_of_length_pos
  rw [OFReadBuffer.request, List.length_take, getReadLen_ofTail unfinished]
  rcases unfinished.short_or_within with short | ⟨long, within⟩
  · rw [if_pos short]
    omega
  · rw [if_neg (Nat.not_lt.mpr long)]
    omega

theorem putBytes_header {tail bytes : List UInt8}
    (short : tail.length < ofHeaderLength)
    (room : bytes.length ≤ ofHeaderLength - tail.length) :
    (OFReadBuffer.ofTail tail).putBytes bytes =
      ({ OFReadBuffer.clear with
          header := tail ++ bytes ++
            List.replicate (ofHeaderLength - (tail ++ bytes).length) 0
          headerPos := tail.length },
        ⟨ofHeaderLength, tail.length, bytes.length⟩) := by
  have length : (tail ++ List.replicate (ofHeaderLength - tail.length)
      (0 : UInt8)).length = ofHeaderLength := by
    rw [List.length_append, List.length_replicate]
    omega
  rw [OFReadBuffer.ofTail, if_pos short]
  simp only [OFReadBuffer.putBytes, OFReadBuffer.clear, Bool.false_eq_true,
    if_false, length]
  rw [stored_append _ _ _ (by rwa [List.length_replicate]),
    List.drop_replicate, Nat.sub_sub, ← List.length_append]

theorem putBytes_message {tail bytes : List UInt8}
    (long : ofHeaderLength ≤ tail.length)
    (room : bytes.length ≤ lengthField tail - tail.length)
    (within : tail.length < lengthField tail) :
    (OFReadBuffer.ofTail tail).putBytes bytes =
      ({ OFReadBuffer.ofTail (tail ++ bytes) with pos := tail.length },
        ⟨lengthField tail, tail.length, bytes.length⟩) := by
  have longer : ofHeaderLength ≤ (tail ++ bytes).length := by
    rw [List.length_append]
    omega
  have length : (tail ++ List.replicate (lengthField tail - tail.length)
      (0 : UInt8)).length = lengthField tail := by
    rw [List.length_append, List.length_replicate]
    omega
  rw [OFReadBuffer.ofTail, if_neg (Nat.not_lt.mpr long), OFReadBuffer.ofTail,
    if_neg (Nat.not_lt.mpr longer)]
  simp only [OFReadBuffer.putBytes, if_true, length,
    lengthField_append tail bytes long]
  rw [stored_append _ _ _ (by rwa [List.length_replicate]),
    List.drop_replicate, Nat.sub_sub, ← List.length_append,
    List.take_append_of_le_length long]

/-- No more bytes than the header or the message lacks. -/
def Fits (tail bytes : List UInt8) : Prop :=
  bytes.length ≤
    if tail.length < ofHeaderLength then ofHeaderLength - tail.length
    else lengthField tail - tail.length

theorem read_header {tail bytes : List UInt8}
    (short : tail.length < ofHeaderLength) (fits : Fits tail bytes) :
    (OFReadBuffer.ofTail tail).read bytes =
      let put := (OFReadBuffer.ofTail tail).putBytes bytes
      let len := lengthField (tail ++ bytes)
      let buffer :=
        if (tail ++ bytes).length = ofHeaderLength then
          { data := stored (List.replicate len 0) 0 (tail ++ bytes)
            init := true
            header := tail ++ bytes
            headerPos := ofHeaderLength
            pos := ofHeaderLength
            len }
        else OFReadBuffer.ofTail (tail ++ bytes)
      { writes := put.2 ::
          if (tail ++ bytes).length = ofHeaderLength then
            [⟨len, 0, ofHeaderLength⟩]
          else []
        buffer
        message := buffer.message } := by
  rw [Fits, if_pos short] at fits
  have put := putBytes_header short fits
  have length : (tail ++ bytes).length = tail.length + bytes.length :=
    List.length_append
  have wrap : uint16 (tail.length + bytes.length) =
      tail.length + bytes.length := by
    simp only [uint16, ofHeaderLength] at short fits ⊢
    omega
  by_cases full : (tail ++ bytes).length = ofHeaderLength
  · have sum : tail.length + bytes.length = ofHeaderLength := by omega
    simp only [OFReadBuffer.read, put, OFReadBuffer.readNotify, full,
      sum, OFReadBuffer.clear, Bool.false_eq_true, if_false, if_true,
      Nat.sub_self, List.replicate_zero, List.append_nil]
    rfl
  · have sum : tail.length + bytes.length ≠ ofHeaderLength := by omega
    have shorter : (tail ++ bytes).length < ofHeaderLength := by omega
    simp only [OFReadBuffer.read, put, OFReadBuffer.readNotify, wrap, sum,
      full, OFReadBuffer.clear, Bool.false_eq_true, if_false]
    rw [OFReadBuffer.ofTail, if_pos shorter, length]
    rfl

theorem read_message {tail bytes : List UInt8}
    (long : ofHeaderLength ≤ tail.length)
    (within : tail.length < lengthField tail) (fits : Fits tail bytes) :
    (OFReadBuffer.ofTail tail).read bytes =
      { writes := [⟨lengthField tail, tail.length, bytes.length⟩]
        buffer := OFReadBuffer.ofTail (tail ++ bytes)
        message := (OFReadBuffer.ofTail (tail ++ bytes)).message } := by
  rw [Fits, if_neg (Nat.not_lt.mpr long)] at fits
  have put := putBytes_message long fits within
  have wrap : uint16 (tail.length + bytes.length) =
      tail.length + bytes.length := by
    have small := lengthField_lt tail
    simp only [uint16]
    omega
  have longer : ofHeaderLength ≤ (tail ++ bytes).length := by
    rw [List.length_append]
    omega
  have pos : (OFReadBuffer.ofTail (tail ++ bytes)).pos =
      tail.length + bytes.length := by
    rw [OFReadBuffer.ofTail, if_neg (Nat.not_lt.mpr longer),
      List.length_append]
  have init : (OFReadBuffer.ofTail (tail ++ bytes)).init = true := by
    rw [OFReadBuffer.ofTail, if_neg (Nat.not_lt.mpr longer)]
  simp only [OFReadBuffer.read, put, OFReadBuffer.readNotify, init, if_true,
    wrap]
  rw [← pos, ← init]

/-- While no header is undersized, a read puts its bytes behind the unfinished
ones. -/
theorem read_ofTail_buffer {tail bytes : List UInt8}
    (unfinished : Unfinished tail) (fits : Fits tail bytes)
    (notUndersized : ¬messageFormat.Undersized (tail ++ bytes)) :
    ((OFReadBuffer.ofTail tail).read bytes).buffer =
      OFReadBuffer.ofTail (tail ++ bytes) := by
  rcases unfinished.short_or_within with short | ⟨long, within⟩
  · rw [read_header short fits]
    by_cases full : (tail ++ bytes).length = ofHeaderLength
    · have sized : ofHeaderLength ≤ lengthField (tail ++ bytes) := by
        simp only [FrameFormat.Undersized, messageFormat] at notUndersized
        omega
      have split : List.replicate (lengthField (tail ++ bytes)) (0 : UInt8) =
          [] ++ List.replicate (lengthField (tail ++ bytes)) 0 := rfl
      simp only [full, if_true]
      rw [OFReadBuffer.ofTail, if_neg (by omega), split,
        ← List.length_nil (α := UInt8), stored_append, List.drop_replicate,
        List.take_of_length_le (Nat.le_of_eq full), full]
      · rfl
      · rw [List.length_replicate]
        omega
    · simp only [full, if_false]
  · rw [read_message long within fits]

theorem length_le_of_fits {tail bytes : List UInt8}
    (unfinished : Unfinished tail) (fits : Fits tail bytes)
    (notUndersized : ¬messageFormat.Undersized (tail ++ bytes)) :
    (tail ++ bytes).length < ofHeaderLength ∨
      ofHeaderLength ≤ (tail ++ bytes).length ∧
        (tail ++ bytes).length ≤ lengthField (tail ++ bytes) := by
  simp only [FrameFormat.Undersized, messageFormat] at notUndersized
  rw [Fits] at fits
  rw [List.length_append] at *
  rcases unfinished.short_or_within with short | ⟨long, within⟩
  · rw [if_pos short] at fits
    omega
  · rw [if_neg (Nat.not_lt.mpr long)] at fits
    rw [lengthField_append tail bytes long]
    omega

theorem message_ofTail {tail : List UInt8}
    (room : tail.length < ofHeaderLength ∨
      ofHeaderLength ≤ tail.length ∧ tail.length ≤ lengthField tail) :
    (OFReadBuffer.ofTail tail).message =
      if messageFormat.Complete tail then some tail else none := by
  rcases room with short | ⟨long, within⟩
  · have notComplete : ¬messageFormat.Complete tail := by
      intro complete
      exact absurd complete.2.1 (Nat.not_le.mpr short)
    rw [if_neg notComplete, OFReadBuffer.ofTail, if_pos short]
    rfl
  · rw [OFReadBuffer.ofTail, if_neg (Nat.not_lt.mpr long)]
    by_cases complete : messageFormat.Complete tail
    · have full : lengthField tail = tail.length :=
        Nat.le_antisymm complete.2.2 within
      have positive : tail.length ≠ 0 := by
        simp only [ofHeaderLength] at long
        omega
      simp [OFReadBuffer.message, OFReadBuffer.isReady, full, positive,
        complete]
    · have unequal : tail.length ≠ lengthField tail := by
        intro equal
        apply complete
        refine ⟨?_, long, Nat.le_of_eq equal.symm⟩
        exact Nat.le_trans long within
      simp [OFReadBuffer.message, OFReadBuffer.isReady, unequal, complete]

theorem read_ofTail_safe {tail bytes : List UInt8}
    (unfinished : Unfinished tail) (fits : Fits tail bytes)
    (notUndersized : ¬messageFormat.Undersized (tail ++ bytes)) :
    ((OFReadBuffer.ofTail tail).read bytes).Safe := by
  have buffer := read_ofTail_buffer unfinished fits notUndersized
  have room := length_le_of_fits unfinished fits notUndersized
  refine ⟨?_, ?_, ?_⟩
  · intro write member
    rcases unfinished.short_or_within with short | ⟨long, within⟩
    · rw [read_header short fits] at member
      have headerFits := fits
      rw [Fits, if_pos short] at headerFits
      simp only [putBytes_header short headerFits, List.mem_cons] at member
      rcases member with rfl | copied
      · simp only [Write.Inside]
        omega
      · split at copied
        · rename_i full
          rw [List.mem_singleton.mp copied]
          simp only [Write.Inside]
          omega
        · exact absurd copied List.not_mem_nil
    · rw [read_message long within fits] at member
      rw [List.mem_singleton.mp member]
      rw [Fits, if_neg (Nat.not_lt.mpr long)] at fits
      simp only [Write.Inside]
      omega
  · rw [buffer, OFReadBuffer.ofTail]
    split
    · exact Nat.le_refl 0
    · simp only
      omega
  · intro init
    rw [buffer, OFReadBuffer.ofTail] at *
    split at init
    · exact absurd init Bool.false_ne_true
    · have small := lengthField_lt (tail ++ bytes)
      rw [if_neg ‹_›]
      simp only [OFReadBuffer.getReadLen, uint16Sub, if_true]
      omega

theorem read_undersized {tail bytes : List UInt8}
    (unfinished : Unfinished tail) (fits : Fits tail bytes)
    (undersized : messageFormat.Undersized (tail ++ bytes)) :
    ¬((OFReadBuffer.ofTail tail).read bytes).Safe := by
  intro safe
  have long : ofHeaderLength ≤ (tail ++ bytes).length := undersized.1
  have small : lengthField (tail ++ bytes) < ofHeaderLength := undersized.2
  rcases unfinished.short_or_within with short | ⟨longTail, within⟩
  · have full : (tail ++ bytes).length = ofHeaderLength := by
      rw [Fits, if_pos short] at fits
      rw [List.length_append] at *
      omega
    have pos := safe.pos_le
    rw [read_header short fits] at pos
    simp only [full, if_true] at pos
    omega
  · rw [lengthField_append tail bytes longTail] at small
    omega

/-- What a read does with the unfinished bytes: an undersized header shows, a
message is completed and handed over, or the bytes remain unfinished. -/
theorem read_cases {tail bytes : List UInt8} (unfinished : Unfinished tail)
    (fits : Fits tail bytes) :
    let reading := (OFReadBuffer.ofTail tail).read bytes
    messageFormat.Undersized (tail ++ bytes) ∧ ¬reading.Safe ∨
      messageFormat.Frame (tail ++ bytes) ∧ reading.Safe ∧
        reading.message = some (tail ++ bytes) ∧
        reading.next = OFReadBuffer.ofTail [] ∨
      Unfinished (tail ++ bytes) ∧ reading.Safe ∧ reading.message = none ∧
        reading.next = OFReadBuffer.ofTail (tail ++ bytes) := by
  intro reading
  by_cases undersized : messageFormat.Undersized (tail ++ bytes)
  · exact .inl ⟨undersized, read_undersized unfinished fits undersized⟩
  · have safe := read_ofTail_safe unfinished fits undersized
    have buffer := read_ofTail_buffer unfinished fits undersized
    have room := length_le_of_fits unfinished fits undersized
    have message : reading.message =
        if messageFormat.Complete (tail ++ bytes) then some (tail ++ bytes)
        else none := by
      rw [← message_ofTail room, ← buffer]
      rfl
    refine .inr ?_
    by_cases complete : messageFormat.Complete (tail ++ bytes)
    · rw [if_pos complete] at message
      refine .inl ⟨⟨complete.2.1, ?_⟩, safe, message, ?_⟩
      · rcases room with short | ⟨_, within⟩
        · exact absurd complete.2.1 (Nat.not_le.mpr short)
        · exact Nat.le_antisymm complete.2.2 within
      · rw [Reading.next, message, Option.isSome_some, if_pos rfl, ofTail_nil]
    · rw [if_neg complete] at message
      refine .inr ⟨⟨complete, undersized⟩, safe, message, ?_⟩
      rw [Reading.next, message]
      exact buffer

end Perfbench
