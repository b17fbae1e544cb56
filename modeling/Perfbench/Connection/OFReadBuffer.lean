import Mathlib.Algebra.Ring.Nat
import Mathlib.Data.List.Basic

/-!
# Reading messages from a connection

`OFReadBuffer` collects a message: first its header, then, once the header
says how long the message is, the bytes of an array of that length.
`read_cb` reads from the connection into the buffer and hands over every
message that is complete.  A write names the array it goes to by its length,
so that one past the end shows.
-/

namespace Perfbench

/-- `OF_HEADER_LENGTH`. -/
def ofHeaderLength : Nat := 8

/-- The value a `uint16_t` keeps of a natural number. -/
def uint16 (value : Nat) : Nat := value % 2 ^ 16

/-- A difference in `uint16_t`. -/
def uint16Sub (left right : Nat) : Nat := (2 ^ 16 + left - right) % 2 ^ 16

/-- The length field of a header: its second 16 bits, in network order. -/
def lengthField (header : List UInt8) : Nat :=
  256 * (header.getD 2 0).toNat + (header.getD 3 0).toNat

/-- Bytes written to consecutive places of an array. -/
structure Write where
  arrayLength : Nat
  start : Nat
  count : Nat
deriving DecidableEq, Repr

def Write.Inside (write : Write) : Prop :=
  write.start + write.count ≤ write.arrayLength

instance (write : Write) : Decidable write.Inside :=
  inferInstanceAs (Decidable (_ ≤ _))

/-- The array after a write; what is written past its end is not in it. -/
def stored (array : List UInt8) (start : Nat) (bytes : List UInt8) :
    List UInt8 :=
  (array.take start ++ bytes ++ array.drop (start + bytes.length)).take
    array.length

/-- `data` is the allocated array, without elements while it is NULL. -/
structure OFReadBuffer where
  data : List UInt8
  init : Bool
  header : List UInt8
  headerPos : Nat
  pos : Nat
  len : Nat
deriving DecidableEq, Repr

namespace OFReadBuffer

def clear : OFReadBuffer where
  data := []
  init := false
  header := List.replicate ofHeaderLength 0
  headerPos := 0
  pos := 0
  len := 0

def getReadLen (buffer : OFReadBuffer) : Nat :=
  if buffer.init then uint16Sub buffer.len buffer.pos
  else uint16Sub ofHeaderLength buffer.headerPos

/-- `bufferevent_read` puts the bytes at `get_read_pos`. -/
def putBytes (buffer : OFReadBuffer) (bytes : List UInt8) :
    OFReadBuffer × Write :=
  if buffer.init then
    ({ buffer with data := stored buffer.data buffer.pos bytes },
      ⟨buffer.data.length, buffer.pos, bytes.length⟩)
  else
    ({ buffer with header := stored buffer.header buffer.headerPos bytes },
      ⟨buffer.header.length, buffer.headerPos, bytes.length⟩)

/-- The array for the message is allocated with a complete header, which is
then copied into it.  Its other bytes are not initialized; they are 0 here. -/
def readNotify (buffer : OFReadBuffer) (read : Nat) :
    OFReadBuffer × List Write :=
  if buffer.init then ({ buffer with pos := uint16 (buffer.pos + read) }, [])
  else
    let headerPos := uint16 (buffer.headerPos + read)
    if headerPos = ofHeaderLength then
      let len := lengthField buffer.header
      ({ buffer with
          headerPos
          len
          data := stored (List.replicate len 0) 0 buffer.header
          pos := uint16 (buffer.pos + ofHeaderLength)
          init := true },
        [⟨len, 0, ofHeaderLength⟩])
    else ({ buffer with headerPos }, [])

def isReady (buffer : OFReadBuffer) : Bool :=
  buffer.len ≠ 0 && buffer.pos == buffer.len

/-- The bytes of the unfinished message that the buffer holds. -/
def held (buffer : OFReadBuffer) : List UInt8 :=
  if buffer.init then buffer.data.take buffer.pos
  else buffer.header.take buffer.headerPos

end OFReadBuffer

/-- A round of the loop of `read_cb`: what was written, the buffer after
`read_notify`, and the message handed to `base_message_callback`. -/
structure Reading where
  writes : List Write
  buffer : OFReadBuffer
  message : Option (List UInt8)
deriving DecidableEq, Repr

/-- The buffer after the round: a message that is handed over leaves it
cleared. -/
def Reading.next (reading : Reading) : OFReadBuffer :=
  if reading.message.isSome then .clear else reading.buffer

/-- The message of a buffer that `is_ready`. -/
def OFReadBuffer.message (buffer : OFReadBuffer) : Option (List UInt8) :=
  if buffer.isReady then some buffer.data else none

/-- A round in which `bufferevent_read` returns the given bytes. -/
def OFReadBuffer.read (buffer : OFReadBuffer) (bytes : List UInt8) : Reading :=
  let put := buffer.putBytes bytes
  let notified := put.1.readNotify bytes.length
  { writes := put.2 :: notified.2
    buffer := notified.1
    message := notified.1.message }

/-- What `bufferevent_read` takes from the input. -/
def OFReadBuffer.request (buffer : OFReadBuffer) (input : List UInt8) :
    List UInt8 :=
  input.take buffer.getReadLen

/-- The rounds of `read_cb`, and what is left in the buffer and the input. -/
def readCb (buffer : OFReadBuffer) (input : List UInt8) :
    List Reading × OFReadBuffer × List UInt8 :=
  if buffer.request input = [] then ([], buffer, input)
  else
    let reading := buffer.read (buffer.request input)
    let rest := readCb reading.next (input.drop buffer.getReadLen)
    (reading :: rest.1, rest.2)
termination_by input.length
decreasing_by
  rename_i some
  rw [List.length_drop]
  have bytes := List.length_pos_of_ne_nil some
  simp only [OFReadBuffer.request, List.length_take] at bytes
  omega

/-- Bytes arrive in parts; after each of them `read_cb` runs. -/
def receive (buffer : OFReadBuffer) (input : List UInt8) :
    List (List UInt8) → List Reading × OFReadBuffer × List UInt8
  | [] => ([], buffer, input)
  | arrival :: arrivals =>
      let run := readCb buffer (input ++ arrival)
      let rest := receive run.2.1 run.2.2 arrivals
      (run.1 ++ rest.1, rest.2)

/-- The messages handed to `base_message_callback`. -/
def messagesOf (readings : List Reading) : List (List UInt8) :=
  readings.filterMap Reading.message

/-- The writes stay inside their arrays, `pos` and the next read inside the
message. -/
structure Reading.Safe (reading : Reading) : Prop where
  inside : ∀ write ∈ reading.writes, write.Inside
  pos_le : reading.buffer.pos ≤ reading.buffer.len
  getReadLen_le : reading.buffer.init = true →
    reading.buffer.pos + reading.buffer.getReadLen ≤ reading.buffer.len

end Perfbench
