import Perfbench.MachineInteger

/-!
# FlowMods that carry their xid

A hypervisor between controller and switch may rewrite the xid of a FlowMod.
The sandwich testcases therefore write it into the match as well, as source
address or as metadata, and recover xid and connection from there.
`FlowModSandwichSingle` has the same two functions.
-/

namespace Perfbench

/-- The fields of a FlowMod that the testcases use, with the match fields
`nw_src` of OpenFlow 1.0 and `metadata` of OpenFlow 1.3. -/
structure FlowMod where
  version : Nat
  xid : Nat
  priority : Nat
  nwSrc : Nat
  metadata : Nat
  length : Nat
  msgType : Nat
  deriving DecidableEq

namespace FlowModSandwich

/-- The tenant's mark in the 16 bits of the priority. -/
def createPacket (tenantId : Nat) (template : FlowMod) : FlowMod :=
  { template with priority := (1233 + tenantId) % 2 ^ 16 }

def prePacketSend (msg : FlowMod) : FlowMod :=
  if msg.version = 1 then { msg with nwSrc := msg.xid }
  else if msg.version = 4 then { msg with metadata := msg.xid }
  else msg

/-- Xid and connection index handed to `count_response`. -/
def counted (msg : FlowMod) : Option (Nat × Nat) :=
  if msg.version = 1 then some (msg.nwSrc, msg.nwSrc / 10000000)
  else if msg.version = 4 then
    some (uint32 msg.metadata, uint32 msg.metadata / 10000000)
  else none

def processFlowMod (tenantId : Nat) (msg : FlowMod) : Option (Nat × Nat) :=
  if msg.priority ≠ 1233 + tenantId then none else counted msg

/-- The switch recovers the xid that was sent, whatever the hypervisor makes
of the xid field. -/
theorem counted_prePacketSend {msg : FlowMod} (rewritten : Nat)
    (version : msg.version = 1 ∨ msg.version = 4) (fits : msg.xid < 2 ^ 32) :
    counted { prePacketSend msg with xid := rewritten } =
      some (msg.xid, msg.xid / 10000000) := by
  rcases version with first | fourth
  · simp [counted, prePacketSend, first]
  · simp [counted, prePacketSend, fourth, uint32_of_lt fits]

theorem prePacketSend_priority (msg : FlowMod) :
    (prePacketSend msg).priority = msg.priority := by
  unfold prePacketSend
  split
  · rfl
  · split <;> rfl

/-- A tenant handles its own FlowMods, and no other tenant's, while the tenant
ids fit into the priority. -/
theorem processFlowMod_createPacket {sender receiver : Nat}
    (template : FlowMod) (xid : Nat) (senderFits : 1233 + sender < 2 ^ 16) :
    processFlowMod receiver
        (prePacketSend { createPacket sender template with xid }) =
      if receiver = sender then
        counted (prePacketSend { createPacket sender template with xid })
      else none := by
  have mark : (1233 + sender) % 2 ^ 16 = 1233 + sender :=
    Nat.mod_eq_of_lt senderFits
  rw [processFlowMod, prePacketSend_priority]
  simp only [createPacket, mark]
  by_cases own : receiver = sender
  · simp [own]
  · have different : 1233 + sender ≠ 1233 + receiver := by omega
    rw [if_pos different, if_neg own]

end FlowModSandwich

end Perfbench
