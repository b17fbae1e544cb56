import Mathlib.Data.BitVec
import Perfbench.Library.ReadLog

/-!
# Extracting the fields of a packet

`Flow::extract_flow_fields` goes through the headers of a captured packet and
fills in the fields of a match.  Each header is checked against the captured
length before it is read; a packet that is too short keeps the fields set so
far.
-/

namespace Perfbench

abbrev EthAddress := Vector UInt8 6

/-- The fields that a packet is matched on; an address of the network layer
is kept as it lies in memory. -/
structure MatchFields where
  inPort : Nat
  dlSrc : EthAddress
  dlDst : EthAddress
  dlVlan : Nat
  dlVlanPcp : Nat
  dlType : Nat
  nwTos : Nat
  nwProto : Nat
  nwSrc : BitVec 32
  nwDst : BitVec 32
  tpSrc : Nat
  tpDst : Nat
deriving DecidableEq, Inhabited, Repr

/-- The memory at and behind the packet, and the captured length. -/
structure Packet where
  data : Nat → UInt8
  len : Nat

namespace Packet

def ofBytes (bytes : List UInt8) : Packet where
  data := fun offset => bytes.getD offset 0
  len := bytes.length

def byte (pkt : Packet) (offset : Nat) : Nat := (pkt.data offset).toNat

/-- `ntoh16` of the 16 bits at an offset. -/
def half (pkt : Packet) (offset : Nat) : Nat :=
  256 * pkt.byte offset + pkt.byte (offset + 1)

/-- The 32 bits at an offset, the first byte the highest. -/
def word (pkt : Packet) (offset : Nat) : BitVec 32 :=
  BitVec.ofNat 32 (2 ^ 16 * pkt.half offset + pkt.half (offset + 2))

def ethAddress (pkt : Packet) (offset : Nat) : EthAddress :=
  Vector.ofFn (fun index : Fin 6 => pkt.data (offset + index))

end Packet

def ethTypeIIStart : Nat := 0x0600
def ethTypeIp : Nat := 0x0800
def ethTypeArp : Nat := 0x0806
def ethTypeVlan : Nat := 0x8100

def ipTypeIcmp : Nat := 1
def ipTypeTcp : Nat := 6
def ipTypeUdp : Nat := 17

/-- The sizes of the headers. -/
def ethHeaderLen : Nat := 14
def llcHeaderLen : Nat := 3
def snapHeaderLen : Nat := 5
def vlanHeaderLen : Nat := 4
def arpEthHeaderLen : Nat := 28
def ipHeaderLen : Nat := 20
def icmpHeaderLen : Nat := 4
def tcpHeaderLen : Nat := 20
def udpHeaderLen : Nat := 8

/-- `proto->eth->eth_type`. -/
def Packet.ethType (pkt : Packet) : Nat := pkt.half 12

namespace Flow

abbrev Extraction := Traced MatchFields

def loadIcmp (pkt : Packet) (offset : Nat) (match_ : Extraction) :
    Extraction :=
  let match_ := match_.load offset 1 (fun fields =>
    { fields with tpSrc := pkt.byte offset })
  match_.load (offset + 1) 1 (fun fields =>
    { fields with tpDst := pkt.byte (offset + 1) })

/-- The ports lie at the same place in TCP and UDP headers. -/
def loadPorts (pkt : Packet) (offset : Nat) (match_ : Extraction) :
    Extraction :=
  let match_ := match_.load offset 2 (fun fields =>
    { fields with tpSrc := pkt.half offset })
  match_.load (offset + 2) 2 (fun fields =>
    { fields with tpDst := pkt.half (offset + 2) })

/-- ICMP, TCP and UDP. -/
def extractTransport (pkt : Packet) (offset nextProto : Nat)
    (match_ : Extraction) : Extraction :=
  if nextProto = ipTypeIcmp then
    if pkt.len < offset + icmpHeaderLen then match_
    else loadIcmp pkt offset match_
  else if nextProto = ipTypeTcp then
    if pkt.len < offset + tcpHeaderLen then match_
    else loadPorts pkt offset match_
  else if nextProto = ipTypeUdp then
    if pkt.len < offset + udpHeaderLen then match_
    else loadPorts pkt offset match_
  else match_

/-- The fields of the IP header, and whether it is a fragment. -/
def loadIp (pkt : Packet) (offset : Nat) (match_ : Extraction) : Extraction :=
  let match_ := match_.load (offset + 12) 4 (fun fields =>
    { fields with nwSrc := pkt.word (offset + 12) })
  let match_ := match_.load (offset + 16) 4 (fun fields =>
    { fields with nwDst := pkt.word (offset + 16) })
  let match_ := match_.load (offset + 9) 1 (fun fields =>
    { fields with nwProto := pkt.byte (offset + 9) })
  let match_ := match_.load (offset + 1) 1 (fun fields =>
    { fields with nwTos := pkt.byte (offset + 1) >>> 2 })
  match_.read (offset + 6) 2

/-- `IP_IS_FRAGMENT`. -/
def ipIsFragment (pkt : Packet) (offset : Nat) : Prop :=
  pkt.half (offset + 6) &&& (0x2000 ||| 0x1fff) ≠ 0

instance (pkt : Packet) (offset : Nat) : Decidable (ipIsFragment pkt offset) :=
  inferInstanceAs (Decidable (_ ≠ _))

/-- The transport header is taken to follow the first 20 bytes of the IP
header. -/
def extractIp (pkt : Packet) (offset : Nat) (match_ : Extraction) :
    Extraction :=
  let match_ := match_.read 12 2
  if pkt.ethType = ethTypeIp then
    if pkt.len < offset + ipHeaderLen then match_
    else
      let match_ := loadIp pkt offset match_
      if ipIsFragment pkt offset then match_
      else
        extractTransport pkt (offset + ipHeaderLen) (pkt.byte (offset + 9))
          (match_.read (offset + 9) 1)
  else extractTransport pkt offset 0 match_

def loadArp (pkt : Packet) (offset : Nat) (match_ : Extraction) :
    Extraction :=
  let match_ := match_.load (offset + 14) 4 (fun fields =>
    { fields with nwSrc := pkt.word (offset + 14) })
  let match_ := match_.load (offset + 24) 4 (fun fields =>
    { fields with nwDst := pkt.word (offset + 24) })
  match_.load (offset + 6) 2 (fun fields =>
    { fields with nwProto := pkt.half (offset + 6) % 256 })

def extractNetwork (pkt : Packet) (offset : Nat) (match_ : Extraction) :
    Extraction :=
  let match_ := match_.read 12 2
  if pkt.ethType = ethTypeArp then
    if pkt.len < offset + arpEthHeaderLen then match_
    else loadArp pkt offset match_
  else extractIp pkt offset match_

/-- The loop over the rest of the VLAN tags, which tests the type in the
Ethernet header and sets the type in the first tag; none when the fuel runs
out. -/
def skipVlanTags (pkt : Packet) (vlan : Nat) :
    (fuel : Nat) → (offset : Nat) → Extraction → Option Extraction
  | 0, _, _ => none
  | fuel + 1, offset, match_ =>
      let match_ := match_.read 12 2
      if pkt.ethType = ethTypeVlan then
        if pkt.len < offset + vlanHeaderLen then some match_
        else
          skipVlanTags pkt vlan fuel (offset + vlanHeaderLen)
            (match_.load (vlan + 2) 2 (fun fields =>
              { fields with dlType := pkt.half (vlan + 2) }))
      else some (extractNetwork pkt offset match_)

/-- The fields of the first tag. -/
def loadVlan (pkt : Packet) (offset : Nat) (match_ : Extraction) :
    Extraction :=
  let match_ := match_.load offset 2 (fun fields =>
    { fields with
      dlVlan := (pkt.half offset &&& 0x0fff) >>> 0
      dlVlanPcp := (pkt.half offset &&& 0xe000) >>> 13 })
  match_.load (offset + 2) 2 (fun fields =>
    { fields with dlType := pkt.half (offset + 2) })

/-- Without a tag `proto->vlan` is not set, and not read either. -/
def extractVlan (fuel : Nat) (pkt : Packet) (offset : Nat)
    (match_ : Extraction) : Option Extraction :=
  let match_ := match_.read 12 2
  if pkt.ethType = ethTypeVlan then
    if pkt.len < offset + vlanHeaderLen then some match_
    else
      skipVlanTags pkt offset fuel (offset + vlanHeaderLen)
        (loadVlan pkt offset match_)
  else
    skipVlanTags pkt 0 fuel offset
      (match_.set (fun fields => { fields with dlVlan := 0xffff }))

/-- The source address is set twice, the second time to the destination. -/
def loadSnap (pkt : Packet) (match_ : Extraction) : Extraction :=
  let match_ := match_.load 6 6 (fun fields =>
    { fields with dlSrc := pkt.ethAddress 6 })
  let match_ := match_.load 0 6 (fun fields =>
    { fields with dlSrc := pkt.ethAddress 0 })
  match_.load 12 2 (fun fields => { fields with dlType := pkt.ethType })

/-- An 802.3 frame goes on only with LLC and SNAP headers. -/
def extractSnap (fuel : Nat) (pkt : Packet) (offset : Nat)
    (match_ : Extraction) : Option Extraction :=
  if pkt.len < offset + llcHeaderLen then some match_
  else
    let match_ := match_.read offset 3
    if ¬(pkt.byte offset = 0xaa ∧ pkt.byte (offset + 1) = 0xaa ∧
        pkt.byte (offset + 2) = 3) then some match_
    else
      let offset := offset + llcHeaderLen
      if pkt.len < offset + snapHeaderLen then some match_
      else
        let match_ := match_.read offset 3
        if ¬(pkt.byte offset = 0 ∧ pkt.byte (offset + 1) = 0 ∧
            pkt.byte (offset + 2) = 0) then some match_
        else
          extractVlan fuel pkt (offset + snapHeaderLen)
            (loadSnap pkt match_)

def loadEthernet (pkt : Packet) (match_ : Extraction) : Extraction :=
  let match_ := match_.load 6 6 (fun fields =>
    { fields with dlSrc := pkt.ethAddress 6 })
  let match_ := match_.load 0 6 (fun fields =>
    { fields with dlDst := pkt.ethAddress 0 })
  match_.load 12 2 (fun fields => { fields with dlType := pkt.ethType })

def extractFlowFields (fuel : Nat) (pkt : Packet) (fields : MatchFields) :
    Option Extraction :=
  let match_ : Extraction := ⟨fields, []⟩
  if pkt.len < ethHeaderLen then some match_
  else
    let match_ := match_.read 12 2
    if ethTypeIIStart ≤ pkt.ethType then
      extractVlan fuel pkt ethHeaderLen (loadEthernet pkt match_)
    else extractSnap fuel pkt ethHeaderLen match_

end Flow

end Perfbench
