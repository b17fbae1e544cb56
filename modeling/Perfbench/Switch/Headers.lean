import Perfbench.Switch.FlowFields

/-!
# The headers of a packet and the extracted fields

The headers of a frame lie behind its VLAN tags, and the transport header
behind all options of the IP header.  Extraction finds them in untagged
frames, and in IP packets only where the bytes behind the fixed part of the
IP header are those of the transport header.
-/

namespace Perfbench

namespace Packet

/-- The network header follows the Ethernet header and the tags. -/
def network (tags : Nat) : Nat := 14 + 4 * tags

/-- The type after the last tag. -/
def lastType (pkt : Packet) (tags : Nat) : Nat := pkt.half (12 + 4 * tags)

/-- The sender's and the target's protocol address in an ARP packet, by the
lengths of addresses it gives. -/
def arpSpa (pkt : Packet) (network : Nat) : Nat :=
  network + 8 + pkt.byte (network + 4)

def arpTpa (pkt : Packet) (network : Nat) : Nat :=
  pkt.arpSpa network + pkt.byte (network + 5) + pkt.byte (network + 4)

/-- The transport header follows the IP header with its options. -/
def transport (pkt : Packet) (network : Nat) : Nat :=
  network + 4 * (pkt.byte network % 16)

/-- ARP for IPv4 addresses on Ethernet. -/
structure Arp (pkt : Packet) (network : Nat) : Prop where
  long : network + 28 ≤ pkt.len
  hardwareLength : pkt.byte (network + 4) = 6
  protocolLength : pkt.byte (network + 5) = 4

/-- Unfragmented IPv4 with any options, and ICMP, TCP or UDP. -/
structure Ipv4 (pkt : Packet) (network : Nat) : Prop where
  version : pkt.byte network / 16 = 4
  ihl : 5 ≤ pkt.byte network % 16
  unfragmented : pkt.half (network + 6) % 2 ^ 14 = 0
  transport :
    pkt.byte (network + 9) = 1 ∧ pkt.transport network + 4 ≤ pkt.len ∨
      pkt.byte (network + 9) = 6 ∧ pkt.transport network + 20 ≤ pkt.len ∨
      pkt.byte (network + 9) = 17 ∧ pkt.transport network + 8 ≤ pkt.len

/-- An Ethernet II frame with the given number of VLAN tags. -/
structure WellFormed (pkt : Packet) (tags : Nat) : Prop where
  tagged : ∀ tag < tags, pkt.half (12 + 4 * tag) = 0x8100
  payload : pkt.lastType tags = 0x0806 ∧ pkt.Arp (network tags) ∨
    pkt.lastType tags = 0x0800 ∧ pkt.Ipv4 (network tags)

/-- Source and destination, the first tag, and the type after the last. -/
def linkFields (pkt : Packet) (tags : Nat) (before : MatchFields) :
    MatchFields :=
  { before with
    dlDst := pkt.ethAddress 0
    dlSrc := pkt.ethAddress 6
    dlVlan := if tags = 0 then 0xffff else pkt.half 14 % 2 ^ 12
    dlVlanPcp := if tags = 0 then before.dlVlanPcp else pkt.half 14 / 2 ^ 13
    dlType := pkt.lastType tags }

def arpFields (pkt : Packet) (network : Nat) (before : MatchFields) :
    MatchFields :=
  { before with
    nwSrc := pkt.word (pkt.arpSpa network)
    nwDst := pkt.word (pkt.arpTpa network)
    nwProto := pkt.half (network + 6) % 256 }

def ipFields (pkt : Packet) (network : Nat) (before : MatchFields) :
    MatchFields :=
  { before with
    nwSrc := pkt.word (network + 12)
    nwDst := pkt.word (network + 16)
    nwProto := pkt.byte (network + 9)
    nwTos := pkt.byte (network + 1) / 4 }

/-- Type and code for ICMP, the ports for TCP and UDP. -/
def transportFields (pkt : Packet) (protocol transport : Nat)
    (before : MatchFields) : MatchFields :=
  if protocol = 1 then
    { before with
      tpSrc := pkt.byte transport
      tpDst := pkt.byte (transport + 1) }
  else
    { before with
      tpSrc := pkt.half transport
      tpDst := pkt.half (transport + 2) }

/-- The fields at the true offsets of the headers. -/
def trueFields (pkt : Packet) (tags : Nat) (before : MatchFields) :
    MatchFields :=
  let link := pkt.linkFields tags before
  if pkt.lastType tags = 0x0806 then pkt.arpFields (network tags) link
  else
    pkt.transportFields (pkt.byte (network tags + 9))
      (pkt.transport (network tags)) (pkt.ipFields (network tags) link)

/-- The bytes of type and code, or of the ports, are also found right behind
the fixed part of the IP header. -/
def TransportInPlace (pkt : Packet) (network : Nat) : Prop :=
  ∀ index < if pkt.byte (network + 9) = 1 then 2 else 4,
    pkt.data (network + 20 + index) = pkt.data (pkt.transport network + index)

theorem byte_lt (pkt : Packet) (offset : Nat) : pkt.byte offset < 256 :=
  (pkt.data offset).toNat_lt

theorem data_eq_iff (pkt : Packet) (left right : Nat) :
    pkt.data left = pkt.data right ↔ pkt.byte left = pkt.byte right :=
  UInt8.toNat_inj.symm

theorem half_eq_iff (pkt : Packet) (left right : Nat) :
    pkt.half left = pkt.half right ↔
      pkt.byte left = pkt.byte right ∧
        pkt.byte (left + 1) = pkt.byte (right + 1) := by
  have leftLow := pkt.byte_lt (left + 1)
  have rightLow := pkt.byte_lt (right + 1)
  simp only [half]
  omega

end Packet

namespace Flow

/-- The call returns with these fields. -/
def Extracts (pkt : Packet) (before after : MatchFields) : Prop :=
  ∃ fuel result, extractFlowFields fuel pkt before = some result ∧
    result.state = after

theorem skipVlanTags_nwProto {pkt : Packet} {vlan fuel offset : Nat}
    {match_ result : Extraction} (tagged : pkt.ethType = ethTypeVlan)
    (ended : skipVlanTags pkt vlan fuel offset match_ = some result) :
    result.state.nwProto = match_.state.nwProto := by
  induction fuel generalizing offset match_ with
  | zero => exact absurd ended (by simp [skipVlanTags])
  | succ fuel induction =>
      rw [skipVlanTags, if_pos tagged] at ended
      split at ended
      · rw [Option.some.injEq] at ended
        rw [← ended]
        rfl
      · have later := induction ended
        exact later

theorem extractFlowFields_tagged {pkt : Packet} {before after : MatchFields}
    (tagged : pkt.ethType = ethTypeVlan)
    (extracts : Extracts pkt before after) :
    after.nwProto = before.nwProto := by
  obtain ⟨fuel, result, ended, rfl⟩ := extracts
  have typeII : ethTypeIIStart ≤ pkt.ethType := by
    rw [tagged]
    decide
  by_cases short : pkt.len < ethHeaderLen
  · rw [extractFlowFields, if_pos short, Option.some.injEq] at ended
    rw [← ended]
  · rw [extractFlowFields, if_neg short, if_pos typeII, extractVlan,
      if_pos tagged] at ended
    split at ended
    · rw [Option.some.injEq] at ended
      rw [← ended]
      rfl
    · rw [skipVlanTags_nwProto tagged ended]
      rfl

theorem extracts_untagged_iff {pkt : Packet} {before after fields : MatchFields}
    (long : ethHeaderLen ≤ pkt.len) (typeII : ethTypeIIStart ≤ pkt.ethType)
    (untagged : pkt.ethType ≠ ethTypeVlan)
    (network : ∀ match_ : Extraction, match_.state = pkt.linkFields 0 before →
      (extractNetwork pkt ethHeaderLen match_).state = fields) :
    Extracts pkt before after ↔ fields = after := by
  have ended : ∀ fuel, ∃ result, extractFlowFields (fuel + 1) pkt before =
      some result ∧ result.state = fields := by
    intro fuel
    rw [extractFlowFields, if_neg (Nat.not_lt.mpr long), if_pos typeII,
      extractVlan, if_neg untagged, skipVlanTags, if_neg untagged]
    exact ⟨_, rfl, network _ rfl⟩
  constructor
  · rintro ⟨fuel, result, extracted, rfl⟩
    cases fuel with
    | zero =>
        rw [extractFlowFields, if_neg (Nat.not_lt.mpr long), if_pos typeII,
          extractVlan, if_neg untagged, skipVlanTags] at extracted
        exact absurd extracted (by simp)
    | succ fuel =>
        obtain ⟨other, same, state⟩ := ended fuel
        rw [extracted, Option.some.injEq] at same
        rw [same, state]
  · rintro rfl
    obtain ⟨result, extracted, state⟩ := ended 0
    exact ⟨1, result, extracted, state⟩

theorem extractNetwork_arp {pkt : Packet} {offset : Nat} {match_ : Extraction}
    (typeArp : pkt.ethType = ethTypeArp) (arp : pkt.Arp offset) :
    (extractNetwork pkt offset match_).state =
      pkt.arpFields offset match_.state := by
  have long : ¬pkt.len < offset + arpEthHeaderLen := by
    have inside := arp.long
    simp only [arpEthHeaderLen]
    omega
  rw [extractNetwork, if_pos typeArp, if_neg long, Packet.arpFields,
    Packet.arpTpa, Packet.arpSpa, arp.hardwareLength, arp.protocolLength]
  rfl

theorem extractTransport_state {pkt : Packet} {network : Nat}
    {match_ : Extraction} (ip : pkt.Ipv4 network) :
    (extractTransport pkt (network + ipHeaderLen) (pkt.byte (network + 9))
        match_).state =
      pkt.transportFields (pkt.byte (network + 9)) (network + 20)
        match_.state := by
  have ihl := ip.ihl
  have transport := ip.transport
  simp only [Packet.transport] at transport
  rcases transport with ⟨icmp, long⟩ | ⟨tcp, long⟩ | ⟨udp, long⟩
  · have inside : ¬pkt.len < network + ipHeaderLen + icmpHeaderLen := by
      simp only [ipHeaderLen, icmpHeaderLen]
      omega
    rw [icmp, extractTransport, if_pos (by decide), if_neg inside]
    rfl
  · have inside : ¬pkt.len < network + ipHeaderLen + tcpHeaderLen := by
      simp only [ipHeaderLen, tcpHeaderLen]
      omega
    rw [tcp, extractTransport, if_neg (by decide), if_pos (by decide),
      if_neg inside]
    rfl
  · have inside : ¬pkt.len < network + ipHeaderLen + udpHeaderLen := by
      simp only [ipHeaderLen, udpHeaderLen]
      omega
    rw [udp, extractTransport, if_neg (by decide), if_neg (by decide),
      if_pos (by decide), if_neg inside]
    rfl

theorem extractNetwork_ip {pkt : Packet} {offset : Nat} {match_ : Extraction}
    (typeIp : pkt.ethType = ethTypeIp) (ip : pkt.Ipv4 offset) :
    (extractNetwork pkt offset match_).state =
      pkt.transportFields (pkt.byte (offset + 9)) (offset + 20)
        (pkt.ipFields offset match_.state) := by
  have notArp : pkt.ethType ≠ ethTypeArp := by
    rw [typeIp]
    decide
  have long : ¬pkt.len < offset + ipHeaderLen := by
    have ihl := ip.ihl
    have inside := ip.transport
    simp only [Packet.transport] at inside
    simp only [ipHeaderLen]
    omega
  have whole : ¬ipIsFragment pkt offset := by
    have mask : pkt.half (offset + 6) &&& (0x2000 ||| 0x1fff) =
        pkt.half (offset + 6) % 2 ^ 14 := Nat.and_two_pow_sub_one_eq_mod _ 14
    rw [ipIsFragment, mask, ip.unfragmented]
    exact not_not.mpr rfl
  rw [extractNetwork, if_neg notArp, extractIp, if_pos typeIp, if_neg long,
    if_neg whole, extractTransport_state ip]
  simp only [loadIp, Traced.read_state, Traced.load_state, Packet.ipFields,
    Nat.shiftRight_eq_div_pow]

/-- The transport fields found behind the fixed part of the IP header are the
true ones exactly when the bytes are. -/
theorem transportFields_eq_iff (pkt : Packet) (network : Nat)
    (before : MatchFields) :
    pkt.transportFields (pkt.byte (network + 9)) (network + 20) before =
        pkt.transportFields (pkt.byte (network + 9)) (pkt.transport network)
          before ↔
      pkt.TransportInPlace network := by
  by_cases icmp : pkt.byte (network + 9) = 1
  · simp only [Packet.transportFields, Packet.TransportInPlace, if_pos icmp,
      MatchFields.mk.injEq, true_and, Packet.data_eq_iff]
    constructor
    · rintro ⟨type, code⟩ index small
      have cases : index = 0 ∨ index = 1 := by omega
      rcases cases with rfl | rfl
      · exact type
      · exact code
    · intro inPlace
      exact ⟨inPlace 0 (by decide), inPlace 1 (by decide)⟩
  · simp only [Packet.transportFields, Packet.TransportInPlace, if_neg icmp,
      MatchFields.mk.injEq, true_and, Packet.data_eq_iff, Packet.half_eq_iff]
    constructor
    · rintro ⟨⟨srcHigh, srcLow⟩, dstHigh, dstLow⟩ index small
      have cases : index = 0 ∨ index = 1 ∨ index = 2 ∨ index = 3 := by omega
      rcases cases with rfl | rfl | rfl | rfl
      · exact srcHigh
      · exact srcLow
      · exact dstHigh
      · exact dstLow
    · intro inPlace
      exact ⟨⟨inPlace 0 (by decide), inPlace 1 (by decide)⟩,
        inPlace 2 (by decide), inPlace 3 (by decide)⟩

theorem trueFields_nwProto_lt (pkt : Packet) (tags : Nat)
    (before : MatchFields) : (pkt.trueFields tags before).nwProto < 256 := by
  have protocol := pkt.byte_lt (Packet.network tags + 9)
  rw [Packet.trueFields]
  split
  · exact Nat.mod_lt _ (by decide)
  · rw [Packet.transportFields]
    split
    · exact protocol
    · exact protocol

theorem trueFields_nwProto (pkt : Packet) (tags : Nat)
    (before other : MatchFields) :
    (pkt.trueFields tags before).nwProto =
      (pkt.trueFields tags other).nwProto := by
  rw [Packet.trueFields, Packet.trueFields]
  split
  · rfl
  · rw [Packet.transportFields, Packet.transportFields]
    split
    · rfl
    · rfl

/-- In a tagged frame the protocol stays what it was, which may be another
one. -/
theorem not_extracts_tagged {pkt : Packet} {tags : Nat}
    (tagged : pkt.ethType = ethTypeVlan) :
    ¬∀ before, Extracts pkt before (pkt.trueFields tags before) := by
  intro extracts
  have small := trueFields_nwProto_lt pkt tags default
  have unchanged := extractFlowFields_tagged tagged
    (extracts
      { (default : MatchFields) with
        nwProto := ((pkt.trueFields tags default).nwProto + 1) % 256 })
  have same := trueFields_nwProto pkt tags default
    { (default : MatchFields) with
      nwProto := ((pkt.trueFields tags default).nwProto + 1) % 256 }
  rw [unchanged] at same
  simp only at same
  omega

theorem extracts_arp {pkt : Packet} (typeArp : pkt.ethType = ethTypeArp)
    (arp : pkt.Arp ethHeaderLen) (before : MatchFields) :
    Extracts pkt before (pkt.trueFields 0 before) := by
  have long : ethHeaderLen ≤ pkt.len :=
    Nat.le_trans (Nat.le_add_right _ _) arp.long
  have lastType : pkt.lastType 0 = 0x0806 := typeArp
  apply (extracts_untagged_iff long (by rw [typeArp]; decide)
    (by rw [typeArp]; decide) ?_).mpr rfl
  intro match_ link
  rw [Packet.trueFields, if_pos lastType, ← link]
  exact extractNetwork_arp typeArp arp

theorem extracts_ip_iff {pkt : Packet} (typeIp : pkt.ethType = ethTypeIp)
    (ip : pkt.Ipv4 ethHeaderLen) (before : MatchFields) :
    Extracts pkt before (pkt.trueFields 0 before) ↔
      pkt.TransportInPlace ethHeaderLen := by
  have isIp : pkt.lastType 0 = 0x0800 := typeIp
  have notArp : pkt.lastType 0 ≠ 0x0806 := by
    rw [isIp]
    decide
  have long : ethHeaderLen ≤ pkt.len := by
    have inside := ip.transport
    simp only [Packet.transport] at inside
    omega
  have network : ∀ match_ : Extraction,
      match_.state = pkt.linkFields 0 before →
        (extractNetwork pkt ethHeaderLen match_).state =
          pkt.transportFields (pkt.byte (ethHeaderLen + 9)) (ethHeaderLen + 20)
            (pkt.ipFields ethHeaderLen (pkt.linkFields 0 before)) := by
    intro match_ link
    rw [extractNetwork_ip typeIp ip, link]
  rw [extracts_untagged_iff long (by rw [typeIp]; decide)
    (by rw [typeIp]; decide) network, Packet.trueFields, if_neg notArp]
  exact transportFields_eq_iff pkt ethHeaderLen _

/-- In every well-formed frame, whatever was in the match before, the fields
are those of the headers exactly when there is no VLAN tag and the transport
header is found behind the fixed part of the IP header. -/
theorem extracts_trueFields_iff {pkt : Packet} {tags : Nat}
    (wellFormed : pkt.WellFormed tags) :
    (∀ before, Extracts pkt before (pkt.trueFields tags before)) ↔
      tags = 0 ∧
        (pkt.ethType = ethTypeIp → pkt.TransportInPlace ethHeaderLen) := by
  cases tags with
  | succ tags =>
      have tagged : pkt.ethType = ethTypeVlan :=
        wellFormed.tagged 0 (Nat.succ_pos tags)
      constructor
      · intro extracts
        exact absurd extracts (not_extracts_tagged tagged)
      · intro untagged
        exact absurd untagged.1 (Nat.succ_ne_zero tags)
  | zero =>
      rcases wellFormed.payload with ⟨isArp, arp⟩ | ⟨isIp, ip⟩
      · have typeArp : pkt.ethType = ethTypeArp := isArp
        refine ⟨fun _ => ⟨rfl, ?_⟩, fun _ => extracts_arp typeArp arp⟩
        intro typeIp
        rw [typeArp] at typeIp
        exact absurd typeIp (by decide)
      · have typeIp : pkt.ethType = ethTypeIp := isIp
        have header : pkt.Ipv4 ethHeaderLen := ip
        constructor
        · intro extracts
          refine ⟨rfl, fun _ => ?_⟩
          exact (extracts_ip_iff typeIp header default).mp (extracts default)
        · intro inPlace before
          exact (extracts_ip_iff typeIp header before).mpr (inPlace.2 typeIp)

/-- A UDP packet from port 53 to port 1024, without options. -/
def udpPacket : Packet :=
  .ofBytes ([2, 0, 0, 0, 0, 1, 2, 0, 0, 0, 0, 2, 8, 0] ++
    [0x45, 0, 0, 28, 0, 0, 0, 0, 64, 17, 0, 0, 10, 0, 0, 1, 10, 0, 0, 2] ++
    [0, 53, 4, 0, 0, 8, 0, 0])

theorem udpPacket_wellFormed : udpPacket.WellFormed 0 where
  tagged := by decide
  payload := .inr ⟨by decide,
    { version := by decide
      ihl := by decide
      unfragmented := by decide
      transport := by decide }⟩

theorem extracts_trueFields_iff_udpPacket :
    (∀ before, Extracts udpPacket before (udpPacket.trueFields 0 before)) ↔
      0 = 0 ∧ (udpPacket.ethType = ethTypeIp →
        udpPacket.TransportInPlace ethHeaderLen) :=
  extracts_trueFields_iff udpPacket_wellFormed

/-- The same packet with one VLAN tag. -/
def taggedPacket : Packet :=
  .ofBytes ([2, 0, 0, 0, 0, 1, 2, 0, 0, 0, 0, 2, 0x81, 0, 0, 5, 8, 0] ++
    [0x45, 0, 0, 28, 0, 0, 0, 0, 64, 17, 0, 0, 10, 0, 0, 1, 10, 0, 0, 2] ++
    [0, 53, 4, 0, 0, 8, 0, 0])

/-- The tag hides the network and transport headers. -/
theorem extracts_taggedPacket : taggedPacket.WellFormed 1 ∧
    ¬Extracts taggedPacket default (taggedPacket.trueFields 1 default) := by
  refine ⟨⟨by decide, .inr ⟨by decide, ?_⟩⟩, ?_⟩
  · exact
      { version := by decide
        ihl := by decide
        unfragmented := by decide
        transport := by decide }
  · intro extracts
    exact absurd (extractFlowFields_tagged (by decide) extracts) (by decide)

end Flow

end Perfbench
