import Perfbench.Counter.Run
import Perfbench.Library.DecimalText

/-!
# The dataplane packets of the PacketIn testcase

A dataplane packet carries the number of requests so far as eight decimal
digits; the controller reads it back from the PacketIn that the switch makes
of the packet.
-/

namespace Perfbench

/-- What `process_packet_in` looks at; a packet without UDP layer has no
destination port. -/
structure PacketInMsg where
  totalLen : Nat
  dstPort : Option Nat
  payload : List Char
  length : Nat
  msgType : Nat

namespace PacketIn

/-- The UDP port of a tenant's packets. -/
def tenantPort (tenantId : Nat) : Nat := 50000 + tenantId * 100

/-- The payload of the next packet: `%08d` of the requests so far. -/
def setPacketPayload (counter : Counter) : List Char :=
  DecimalText.padded 8
    (Counter.accumulate (counter.conns.map ConnTables.requests))

/-- The number in a payload as the xid; none where `std::stoi` throws. -/
def payloadXid (payload : List Char) : Option Nat :=
  match DecimalText.parse (DecimalText.dropZeros payload) with
  | none => none
  | some value =>
      if -2 ^ 31 ≤ value ∧ value < 2 ^ 31 then some (uint32OfInt value)
      else none

/-- The arguments for `count_response`, if the message is one of the tenant's
packets and has a number as payload. -/
def processPacketIn (tenantId : Nat) (time : ℚ) (msg : PacketInMsg) :
    Option Message :=
  if msg.totalLen ≠ 60 then none
  else if msg.dstPort ≠ some (tenantPort tenantId) then none
  else (payloadXid msg.payload).map (fun xid =>
    { xid
      time
      bytes := msg.length
      msgType := msg.msgType })

/-- Every `int` is read back from its text. -/
theorem payloadXid_padded {value : Int} (lower : -2 ^ 31 ≤ value)
    (upper : value < 2 ^ 31) :
    payloadXid (DecimalText.padded 8 value) = some (uint32OfInt value) := by
  rw [payloadXid, DecimalText.parse_dropZeros_padded]
  exact if_pos ⟨lower, upper⟩

theorem payloadXid_setPacketPayload (counter : Counter) :
    payloadXid (setPacketPayload counter) =
      some (uint32OfInt
        (Counter.accumulate (counter.conns.map ConnTables.requests))) := by
  obtain ⟨lower, upper⟩ := Counter.accumulate_bounds
    (counter.conns.map ConnTables.requests)
  exact payloadXid_padded lower upper

end PacketIn

end Perfbench
