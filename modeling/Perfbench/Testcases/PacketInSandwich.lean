import Perfbench.SendLoop
import Perfbench.Testcases.PacketIn

/-!
# PacketIns that carry their connection

A switch of the PacketInSandwich testcases sends PacketIns whose payload is
the list index of its connection, as eight decimal digits.  The index is
passed to `pre_packet_send` as a `uint8_t`, so it comes back only below 256.
`PacketInSandwichSingle` has the same functions, but for the MAC addresses.
-/

namespace Perfbench

/-- The value a `uint8_t` keeps of a natural number. -/
def uint8 (value : Nat) : Nat := value % 2 ^ 8

/-- A UDP packet as it is put together and taken apart. -/
structure UdpFrame where
  dstMac : String
  srcMac : String
  srcIp : String
  dstIp : String
  srcPort : Nat
  dstPort : Nat
  payload : List Char
deriving DecidableEq

/-- What the testcases read and set of a PacketIn. -/
structure SandwichMsg where
  xid : Nat
  frame : UdpFrame
deriving DecidableEq

/-- The two testcases. -/
inductive SandwichTestcase where
  | packetInSandwich
  | packetInSandwichSingle
deriving DecidableEq, Repr

namespace SandwichTestcase

def hex (value : Nat) : String := String.ofList (Nat.toDigits 16 value)

/-- Destination and source; those of `PacketInSandwichSingle` do not depend on
the connection. -/
def macs (tenantId identifier2 : Nat) : SandwichTestcase → String × String
  | packetInSandwich =>
      ("00:00:00:" ++ hex tenantId ++ ":" ++ hex (identifier2 + 1) ++ ":02",
        "00:00:00:" ++ hex tenantId ++ ":" ++ hex (identifier2 + 1) ++ ":01")
  | packetInSandwichSingle =>
      ("00:00:00:00:" ++ hex tenantId ++ ":02",
        "00:00:00:00:" ++ hex tenantId ++ ":01")

/-- The second identifier is at most 255, and its text fits into the nine
characters of the buffer. -/
def prePacketSend (testcase : SandwichTestcase) (tenantId : Nat)
    (connIds : List Int) (xid identifier2 : Nat) : Option SandwichMsg :=
  connIds[identifier2]?.map (fun connId =>
    let addresses := testcase.macs tenantId identifier2
    let port := ((50000 + tenantId * 100 + connId) % 2 ^ 16).toNat
    { xid
      frame :=
        { dstMac := addresses.1
          srcMac := addresses.2
          srcIp := "10.0." ++ toString tenantId ++ ".1"
          dstIp := "10.0." ++ toString tenantId ++ ".2"
          srcPort := port
          dstPort := port
          payload := DecimalText.padded 8 identifier2 } })

/-- Xid and connection index handed to `count_response`. -/
def processPacketIn (msg : SandwichMsg) : Option (Nat × Int) :=
  (DecimalText.parse (DecimalText.dropZeros msg.frame.payload)).bind
    (fun connIndex =>
      if -2 ^ 31 ≤ connIndex ∧ connIndex < 2 ^ 31 then
        some (msg.xid, connIndex)
      else none)

/-- The message that the send loop sends on a switch connection and counts
under its list index. -/
def switchSend (testcase : SandwichTestcase) (tenantId : Nat)
    (counter : Counter) (listIndex : Nat) : Option SandwichMsg :=
  (SendLoop.nextXid listIndex counter).bind (fun xid =>
    testcase.prePacketSend tenantId (counter.conns.map ConnTables.connId) xid
      (uint8 listIndex))

/-- The connection index that comes back with the message. -/
def returnedIndex (testcase : SandwichTestcase) (tenantId : Nat)
    (counter : Counter) (listIndex : Nat) : Option Int :=
  (testcase.switchSend tenantId counter listIndex).bind (fun msg =>
    (processPacketIn msg).map Prod.snd)

/-- It comes back as the `uint8_t` it was passed as. -/
theorem returnedIndex_eq {counter : Counter} {listIndex : Nat}
    (testcase : SandwichTestcase) (tenantId : Nat)
    (established : listIndex < counter.conns.length) :
    testcase.returnedIndex tenantId counter listIndex =
      some (uint8 listIndex : Int) := by
  have small : uint8 listIndex < 2 ^ 8 := Nat.mod_lt _ (by decide)
  have index : uint8 listIndex < counter.conns.length :=
    Nat.lt_of_le_of_lt (Nat.mod_le _ _) established
  have range : -2 ^ 31 ≤ (uint8 listIndex : Int) ∧
      (uint8 listIndex : Int) < 2 ^ 31 := by omega
  rw [returnedIndex, switchSend, SendLoop.nextXid,
    List.getElem?_eq_getElem established, Option.map_some, Option.bind_some,
    prePacketSend, List.getElem?_map, List.getElem?_eq_getElem index,
    Option.map_some, Option.map_some, Option.bind_some, processPacketIn,
    DecimalText.parse_dropZeros_padded, Option.bind_some, if_pos range,
    Option.map_some]

/-- In every run of the counter the packet sent on a switch connection brings
back its list index exactly when that is below 256. -/
theorem returnedIndex_iff {events : List Event} {listIndex : Nat}
    (testcase : SandwichTestcase) (tenantId : Nat)
    (established : listIndex < connections events) :
    testcase.returnedIndex tenantId (Counter.initial.run events) listIndex =
        some (listIndex : Int) ↔
      listIndex < 256 := by
  rw [← Counter.initial_conns_length] at established
  rw [returnedIndex_eq testcase tenantId established, Option.some.injEq]
  simp only [uint8]
  omega

theorem returnedIndex_iff_second :
    packetInSandwich.returnedIndex 1
        (Counter.initial.run [.established 7, .established 8]) 1 =
        some ((1 : Nat) : Int) ↔
      1 < 256 :=
  returnedIndex_iff packetInSandwich 1 (by decide)

/-- A switch that goes on to connect until it has the given list index. -/
def reconnecting (listIndex : Nat) : List Event :=
  List.replicate (listIndex + 1) (.established 7)

/-- The packets of the 257th connection are taken for those of the first. -/
theorem returnedIndex_reconnecting :
    256 < connections (reconnecting 256) ∧
      ∀ testcase : SandwichTestcase,
        testcase.returnedIndex 1 (Counter.initial.run (reconnecting 256)) 256 ≠
          some ((256 : Nat) : Int) := by
  have established : 256 < connections (reconnecting 256) := by
    rw [connections, reconnecting, List.countP_replicate]
    decide
  refine ⟨established, ?_⟩
  intro testcase
  rw [← Counter.initial_conns_length] at established
  rw [returnedIndex_eq testcase 1 established]
  decide

end SandwichTestcase

end Perfbench
