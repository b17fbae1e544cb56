import Perfbench.Switch.FlowFields

/-!
# Extraction reads the captured bytes only

The type in the Ethernet header is read again and again, but every header is
read behind a check of the captured length.  The loop over the VLAN tags ends
because the offset grows, whatever the tags are.
-/

namespace Perfbench

namespace Flow

variable {pkt : Packet} {offset : Nat} {match_ : Extraction}

theorem loadIcmp_within (within : match_.Within pkt.len)
    (inside : offset + icmpHeaderLen ≤ pkt.len) :
    (loadIcmp pkt offset match_).Within pkt.len := by
  simp only [icmpHeaderLen] at inside
  exact (within.load _ (by omega)).load _ (by omega)

theorem loadPorts_within (within : match_.Within pkt.len)
    (inside : offset + 4 ≤ pkt.len) :
    (loadPorts pkt offset match_).Within pkt.len :=
  (within.load _ (by omega)).load _ (by omega)

theorem extractTransport_within (within : match_.Within pkt.len)
    (nextProto : Nat) :
    (extractTransport pkt offset nextProto match_).Within pkt.len := by
  unfold extractTransport
  split
  · split
    · exact within
    · exact loadIcmp_within within (by omega)
  · split
    · split
      · exact within
      · rename_i long
        simp only [tcpHeaderLen] at long
        exact loadPorts_within within (by omega)
    · split
      · split
        · exact within
        · rename_i long
          simp only [udpHeaderLen] at long
          exact loadPorts_within within (by omega)
      · exact within

theorem loadIp_within (within : match_.Within pkt.len)
    (inside : offset + ipHeaderLen ≤ pkt.len) :
    (loadIp pkt offset match_).Within pkt.len := by
  simp only [ipHeaderLen] at inside
  have addresses := (within.load (fun fields =>
    { fields with nwSrc := pkt.word (offset + 12) })
      (by omega : offset + 12 + 4 ≤ pkt.len)).load (fun fields =>
    { fields with nwDst := pkt.word (offset + 16) })
      (by omega : offset + 16 + 4 ≤ pkt.len)
  exact ((addresses.load _ (by omega)).load _ (by omega)).read (by omega)

theorem extractIp_within (within : match_.Within pkt.len)
    (ethernet : ethHeaderLen ≤ pkt.len) :
    (extractIp pkt offset match_).Within pkt.len := by
  simp only [ethHeaderLen] at ethernet
  have typed := within.read (by omega : 12 + 2 ≤ pkt.len)
  unfold extractIp
  simp only
  split
  · split
    · exact typed
    · rename_i long
      have header := loadIp_within typed (Nat.not_lt.mp long)
      simp only [ipHeaderLen] at long
      split
      · exact header
      · exact extractTransport_within (header.read (by omega)) _
  · exact extractTransport_within typed 0

theorem loadArp_within (within : match_.Within pkt.len)
    (inside : offset + arpEthHeaderLen ≤ pkt.len) :
    (loadArp pkt offset match_).Within pkt.len := by
  simp only [arpEthHeaderLen] at inside
  exact ((within.load _ (by omega)).load _ (by omega)).load _ (by omega)

theorem extractNetwork_within (within : match_.Within pkt.len)
    (ethernet : ethHeaderLen ≤ pkt.len) :
    (extractNetwork pkt offset match_).Within pkt.len := by
  have typed := within.read (by simpa [ethHeaderLen] using ethernet :
    12 + 2 ≤ pkt.len)
  unfold extractNetwork
  simp only
  split
  · split
    · exact typed
    · exact loadArp_within typed (by omega)
  · exact extractIp_within typed ethernet

/-- A round of the loop ends it, or goes one tag on inside the captured
bytes.  The first tag is read only where there is one. -/
theorem skipVlanTags_round {vlan : Nat} (within : match_.Within pkt.len)
    (ethernet : ethHeaderLen ≤ pkt.len)
    (tag : pkt.ethType = ethTypeVlan → vlan + vlanHeaderLen ≤ pkt.len) :
    (∃ result : Extraction, result.Within pkt.len ∧ ∀ fuel,
        skipVlanTags pkt vlan (fuel + 1) offset match_ = some result) ∨
      offset + vlanHeaderLen ≤ pkt.len ∧
        ∃ next : Extraction, next.Within pkt.len ∧ ∀ fuel,
          skipVlanTags pkt vlan (fuel + 1) offset match_ =
            skipVlanTags pkt vlan fuel (offset + vlanHeaderLen) next := by
  have typed := within.read (by simpa [ethHeaderLen] using ethernet :
    12 + 2 ≤ pkt.len)
  by_cases tagged : pkt.ethType = ethTypeVlan
  · by_cases short : pkt.len < offset + vlanHeaderLen
    · refine .inl ⟨_, typed, ?_⟩
      intro fuel
      rw [skipVlanTags, if_pos tagged, if_pos short]
    · have inside := tag tagged
      simp only [vlanHeaderLen] at inside
      have loaded := typed.load (fun fields =>
        { fields with dlType := pkt.half (vlan + 2) })
          (by omega : vlan + 2 + 2 ≤ pkt.len)
      refine .inr ⟨Nat.not_lt.mp short, _, loaded, ?_⟩
      intro fuel
      rw [skipVlanTags, if_pos tagged, if_neg short]
  · refine .inl ⟨_, @extractNetwork_within _ offset _ typed ethernet, ?_⟩
    intro fuel
    rw [skipVlanTags, if_neg tagged]

theorem skipVlanTags_within {vlan steps : Nat}
    (within : match_.Within pkt.len) (ethernet : ethHeaderLen ≤ pkt.len)
    (tag : pkt.ethType = ethTypeVlan → vlan + vlanHeaderLen ≤ pkt.len)
    (enough : pkt.len < offset + vlanHeaderLen * (steps + 1)) :
    ∃ result : Extraction, result.Within pkt.len ∧
      ∀ fuel, steps < fuel →
        skipVlanTags pkt vlan fuel offset match_ = some result := by
  induction steps generalizing offset match_ with
  | zero =>
      rcases skipVlanTags_round within ethernet tag with
        ⟨result, inside, ended⟩ | ⟨longer, _⟩
      · refine ⟨result, inside, ?_⟩
        intro fuel more
        rw [← Nat.sub_add_cancel more]
        exact ended _
      · exact absurd enough (by omega)
  | succ steps induction =>
      rcases skipVlanTags_round within ethernet tag with
        ⟨result, inside, ended⟩ | ⟨longer, next, nextWithin, goesOn⟩
      · refine ⟨result, inside, ?_⟩
        intro fuel more
        rw [← Nat.sub_add_cancel (Nat.zero_lt_of_lt more)]
        exact ended _
      · have rest :
            pkt.len < offset + vlanHeaderLen + vlanHeaderLen * (steps + 1) := by
          simp only [vlanHeaderLen] at enough ⊢
          omega
        obtain ⟨result, inside, ended⟩ := induction nextWithin rest
        refine ⟨result, inside, ?_⟩
        intro fuel more
        rw [← Nat.sub_add_cancel (Nat.zero_lt_of_lt more), goesOn]
        exact ended _ (by omega)

theorem loadVlan_within (within : match_.Within pkt.len)
    (inside : offset + vlanHeaderLen ≤ pkt.len) :
    (loadVlan pkt offset match_).Within pkt.len := by
  simp only [vlanHeaderLen] at inside
  exact (within.load _ (by omega)).load _ (by omega)

theorem extractVlan_within (within : match_.Within pkt.len)
    (ethernet : ethHeaderLen ≤ pkt.len) :
    ∃ result : Extraction, result.Within pkt.len ∧
      ∀ fuel, pkt.len < fuel →
        extractVlan fuel pkt offset match_ = some result := by
  have typed := within.read (by simpa [ethHeaderLen] using ethernet :
    12 + 2 ≤ pkt.len)
  by_cases tagged : pkt.ethType = ethTypeVlan
  · by_cases short : pkt.len < offset + vlanHeaderLen
    · refine ⟨_, typed, ?_⟩
      intro fuel _
      rw [extractVlan, if_pos tagged, if_pos short]
    · have inside := Nat.not_lt.mp short
      obtain ⟨result, resultWithin, ended⟩ := @skipVlanTags_within pkt
        (offset + vlanHeaderLen) _ offset pkt.len
        (loadVlan_within typed inside) ethernet (fun _ => inside)
        (by simp only [vlanHeaderLen]; omega)
      refine ⟨result, resultWithin, ?_⟩
      intro fuel more
      rw [extractVlan, if_pos tagged, if_neg short]
      exact ended fuel more
  · obtain ⟨result, resultWithin, ended⟩ := @skipVlanTags_within pkt offset _ 0
      pkt.len (typed.set (fun fields => { fields with dlVlan := 0xffff }))
      ethernet (fun vlan => absurd vlan tagged)
      (by simp only [vlanHeaderLen]; omega)
    refine ⟨result, resultWithin, ?_⟩
    intro fuel more
    rw [extractVlan, if_neg tagged]
    exact ended fuel more

theorem extractSnap_within (within : match_.Within pkt.len)
    (ethernet : ethHeaderLen ≤ pkt.len) :
    ∃ result : Extraction, result.Within pkt.len ∧
      ∀ fuel, pkt.len < fuel →
        extractSnap fuel pkt offset match_ = some result := by
  by_cases shortLlc : pkt.len < offset + llcHeaderLen
  · refine ⟨match_, within, ?_⟩
    intro fuel _
    rw [extractSnap, if_pos shortLlc]
  · have llc := within.read (by simpa [llcHeaderLen] using shortLlc :
      offset + 3 ≤ pkt.len)
    by_cases isSnap : pkt.byte offset = 0xaa ∧ pkt.byte (offset + 1) = 0xaa ∧
        pkt.byte (offset + 2) = 3
    · by_cases shortSnap : pkt.len < offset + llcHeaderLen + snapHeaderLen
      · refine ⟨_, llc, ?_⟩
        intro fuel _
        rw [extractSnap, if_neg shortLlc, if_neg (not_not.mpr isSnap),
          if_pos shortSnap]
      · have snap := llc.read (by
          simp only [snapHeaderLen] at shortSnap
          omega : offset + llcHeaderLen + 3 ≤ pkt.len)
        by_cases ethernetOrg : pkt.byte (offset + llcHeaderLen) = 0 ∧
            pkt.byte (offset + llcHeaderLen + 1) = 0 ∧
            pkt.byte (offset + llcHeaderLen + 2) = 0
        · simp only [ethHeaderLen] at ethernet
          have loaded : (loadSnap pkt ((match_.read offset 3).read
              (offset + llcHeaderLen) 3)).Within pkt.len :=
            ((snap.load _ (by omega)).load _ (by omega)).load _ (by omega)
          obtain ⟨result, resultWithin, ended⟩ := @extractVlan_within pkt
            (offset + llcHeaderLen + snapHeaderLen) _ loaded ethernet
          refine ⟨result, resultWithin, ?_⟩
          intro fuel more
          rw [extractSnap, if_neg shortLlc, if_neg (not_not.mpr isSnap),
            if_neg shortSnap, if_neg (not_not.mpr ethernetOrg)]
          exact ended fuel more
        · refine ⟨_, snap, ?_⟩
          intro fuel _
          rw [extractSnap, if_neg shortLlc, if_neg (not_not.mpr isSnap),
            if_neg shortSnap, if_pos ethernetOrg]
    · refine ⟨_, llc, ?_⟩
      intro fuel _
      rw [extractSnap, if_neg shortLlc, if_pos isSnap]

/-- For every packet the extraction ends, in at most as many rounds of the
loop as there are bytes, and reads only captured ones. -/
theorem extractFlowFields_within (pkt : Packet) (fields : MatchFields) :
    ∃ result : Extraction,
      (∀ fuel, pkt.len < fuel →
        extractFlowFields fuel pkt fields = some result) ∧
      ∀ offset ∈ result.reads, offset < pkt.len := by
  have nothing : (⟨fields, []⟩ : Extraction).Within pkt.len := by
    intro offset member
    exact absurd member List.not_mem_nil
  by_cases short : pkt.len < ethHeaderLen
  · refine ⟨_, ?_, nothing⟩
    intro fuel _
    rw [extractFlowFields, if_pos short]
  · have ethernet := Nat.not_lt.mp short
    have typed := nothing.read (by simpa [ethHeaderLen] using ethernet :
      12 + 2 ≤ pkt.len)
    by_cases typeII : ethTypeIIStart ≤ pkt.ethType
    · have header : (loadEthernet pkt
          (Traced.read ⟨fields, []⟩ 12 2)).Within pkt.len := by
        simp only [ethHeaderLen] at ethernet
        exact ((typed.load _ (by omega)).load _ (by omega)).load _ (by omega)
      obtain ⟨result, within, ended⟩ := @extractVlan_within pkt ethHeaderLen _
        header ethernet
      refine ⟨result, ?_, within⟩
      intro fuel more
      rw [extractFlowFields, if_neg short, if_pos typeII]
      exact ended fuel more
    · obtain ⟨result, within, ended⟩ := @extractSnap_within pkt ethHeaderLen _
        typed ethernet
      refine ⟨result, ?_, within⟩
      intro fuel more
      rw [extractFlowFields, if_neg short, if_neg typeII]
      exact ended fuel more

end Flow

end Perfbench
