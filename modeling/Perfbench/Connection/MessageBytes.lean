import Perfbench.Connection.OFClient
import Perfbench.Connection.OFServer
import Perfbench.Connection.Reassembly
import Perfbench.Library.WireFormat

/-!
# The bytes of messages

The ends of a connection put most of their messages together byte by byte.
The body of a FEATURES_REPLY is packed and unpacked by the message library.
-/

namespace Perfbench

/-- What the message library packs into a FEATURES_REPLY behind the header,
with the ports 1 and 2, and the ports that it unpacks from such a message. -/
structure FluidMsg where
  featuresBody : (datapathId : Nat) → List UInt8
  ports : List UInt8 → List Nat
  featuresBody_length : ∀ datapathId, (featuresBody datapathId).length = 120
  ports_featuresBody : ∀ header datapathId, header.length = 8 →
    ports (header ++ featuresBody datapathId) = [1, 2]

namespace OFMessage

def headerBytes (msg : OFMessage) : List UInt8 :=
  [UInt8.ofNat msg.version, UInt8.ofNat msg.ofType] ++
    networkOrder 2 msg.length ++ networkOrder 4 msg.xid

/-- What is written for a message; no HELLO has elements. -/
def toBytes (fluid : FluidMsg) (datapathId : Nat) (msg : OFMessage) :
    List UInt8 :=
  msg.headerBytes ++
    if msg.ofType = 1 then
      networkOrder 2 msg.error.1 ++ networkOrder 2 msg.error.2
    else if msg.ofType = 6 then fluid.featuresBody datapathId
    else []

/-- Big-endian bytes in the middle of the data. -/
def field (data : List UInt8) (start count : Nat) : Nat :=
  ofNetworkOrder ((data.drop start).take count)

/-- What is read of the data of a message; of the other types of messages only
the header. -/
def ofBytes (fluid : FluidMsg) (data : List UInt8) : OFMessage :=
  let ofType := field data 1 1
  { version := field data 0 1
    ofType
    length := lengthField data
    xid := field data 4 4
    element :=
      if ofType = 0 ∧ lengthField data > 8 then
        { elemType := field data 8 2
          length := field data 10 2
          bitmap := field data 12 4 }
      else { elemType := 0, length := 0, bitmap := 0 }
    error := if ofType = 1 then (field data 8 2, field data 10 2) else (0, 0)
    mpartType := 0
    ports := if ofType = 6 then fluid.ports data else [] }

/-- The messages of a handshake of OpenFlow 1.0 and of echo requests. -/
inductive OnWire : OFMessage → Prop where
  | header {version ofType xid} (versionFits : version < 2 ^ 8)
      (kind : ofType = 0 ∨ ofType = 2 ∨ ofType = 3 ∨ ofType = 5)
      (xidFits : xid < 2 ^ 32) : OnWire (.header version ofType 8 xid)
  | helloFailed {version xid} (versionFits : version < 2 ^ 8)
      (xidFits : xid < 2 ^ 32) :
      OnWire { OFMessage.header version 1 12 xid with error := (0, 0) }
  | featuresReply {xid} (xidFits : xid < 2 ^ 32) :
      OnWire { OFMessage.header 1 6 128 xid with ports := [1, 2] }

theorem headerBytes_length (msg : OFMessage) : msg.headerBytes.length = 8 := by
  simp [headerBytes, networkOrder_length]

section Reading

variable (msg : OFMessage) (body : List UInt8)

theorem field_append {front : List UInt8} (fieldBytes rest : List UInt8) :
    field (front ++ fieldBytes ++ rest) front.length fieldBytes.length =
      ofNetworkOrder fieldBytes := by
  rw [field, List.append_assoc, List.drop_left, List.take_left]

theorem field_version (fits : msg.version < 2 ^ 8) :
    field (msg.headerBytes ++ body) 0 1 = msg.version := by
  have byte : (UInt8.ofNat msg.version).toNat = msg.version :=
    UInt8.toNat_ofNat_of_lt fits
  simp [field, headerBytes, ofNetworkOrder, byte]

theorem field_ofType (fits : msg.ofType < 2 ^ 8) :
    field (msg.headerBytes ++ body) 1 1 = msg.ofType := by
  have byte : (UInt8.ofNat msg.ofType).toNat = msg.ofType :=
    UInt8.toNat_ofNat_of_lt fits
  simp [field, headerBytes, ofNetworkOrder, byte]

theorem lengthField_header (fits : msg.length < 2 ^ 16) :
    lengthField (msg.headerBytes ++ body) = msg.length := by
  simp [lengthField, headerBytes, networkOrder]
  omega

theorem field_xid (fits : msg.xid < 2 ^ 32) :
    field (msg.headerBytes ++ body) 4 4 = msg.xid := by
  have front : ([UInt8.ofNat msg.version, UInt8.ofNat msg.ofType] ++
      networkOrder 2 msg.length).length = 4 := by
    simp [networkOrder_length]
  have read := @field_append ([UInt8.ofNat msg.version,
    UInt8.ofNat msg.ofType] ++ networkOrder 2 msg.length)
    (networkOrder 4 msg.xid) body
  rw [front, networkOrder_length, ofNetworkOrder_networkOrder] at read
  rw [headerBytes, read]
  exact Nat.mod_eq_of_lt fits

end Reading

section RoundTrip

variable {fluid : FluidMsg} {datapathId : Nat} {msg : OFMessage}

/-- Small enough for the fields of the header. -/
structure Fits (msg : OFMessage) : Prop where
  version : msg.version < 2 ^ 8
  ofType : msg.ofType < 2 ^ 8
  length : msg.length < 2 ^ 16
  xid : msg.xid < 2 ^ 32

theorem OnWire.fits (onWire : OnWire msg) : msg.Fits := by
  cases onWire with
  | header versionFits kind xidFits =>
      rename_i ofType xid
      have small : ofType < 2 ^ 8 := by omega
      exact ⟨versionFits, small, show 8 < 2 ^ 16 by decide, xidFits⟩
  | helloFailed versionFits xidFits =>
      exact ⟨versionFits, show 1 < 2 ^ 8 by decide,
        show 12 < 2 ^ 16 by decide, xidFits⟩
  | featuresReply xidFits =>
      exact ⟨show 1 < 2 ^ 8 by decide, show 6 < 2 ^ 8 by decide,
        show 128 < 2 ^ 16 by decide, xidFits⟩

theorem frame_of_length {body : List UInt8} (fits : msg.Fits)
    (length : msg.length = 8 + body.length) :
    messageFormat.Frame (msg.headerBytes ++ body) := by
  have whole : (msg.headerBytes ++ body).length = msg.length := by
    rw [List.length_append, headerBytes_length, length]
  refine ⟨?_, ?_⟩
  · rw [whole, length]
    exact Nat.le_add_right 8 _
  · rw [whole]
    exact lengthField_header msg body fits.length

theorem OnWire.frame (onWire : OnWire msg) :
    messageFormat.Frame (msg.toBytes fluid datapathId) := by
  apply frame_of_length onWire.fits
  cases onWire with
  | header versionFits kind xidFits =>
      rename_i ofType xid
      have notError : ofType ≠ 1 := by omega
      have notReply : ofType ≠ 6 := by omega
      simp [OFMessage.header, notError, notReply]
  | helloFailed versionFits xidFits => simp [OFMessage.header, networkOrder_length]
  | featuresReply xidFits => simp [OFMessage.header, fluid.featuresBody_length]

theorem ofBytes_eq {body : List UInt8} (fits : msg.Fits) :
    ofBytes fluid (msg.headerBytes ++ body) =
      { version := msg.version
        ofType := msg.ofType
        length := msg.length
        xid := msg.xid
        element :=
          if msg.ofType = 0 ∧ msg.length > 8 then
            { elemType := field (msg.headerBytes ++ body) 8 2
              length := field (msg.headerBytes ++ body) 10 2
              bitmap := field (msg.headerBytes ++ body) 12 4 }
          else { elemType := 0, length := 0, bitmap := 0 }
        error :=
          if msg.ofType = 1 then
            (field (msg.headerBytes ++ body) 8 2,
              field (msg.headerBytes ++ body) 10 2)
          else (0, 0)
        mpartType := 0
        ports :=
          if msg.ofType = 6 then fluid.ports (msg.headerBytes ++ body)
          else [] } := by
  rw [ofBytes, field_version msg body fits.version,
    field_ofType msg body fits.ofType, lengthField_header msg body fits.length,
    field_xid msg body fits.xid]

theorem OnWire.ofBytes_toBytes (onWire : OnWire msg) :
    ofBytes fluid (msg.toBytes fluid datapathId) = msg := by
  rw [toBytes, ofBytes_eq onWire.fits]
  cases onWire with
  | header versionFits kind xidFits =>
      rename_i ofType xid
      have notError : ofType ≠ 1 := by omega
      have notReply : ofType ≠ 6 := by omega
      simp [OFMessage.header, notError, notReply]
  | helloFailed versionFits xidFits =>
      simp [OFMessage.header, networkOrder, field, headerBytes,
        ofNetworkOrder]
  | featuresReply xidFits =>
      rename_i xid
      have ports := fluid.ports_featuresBody
        (headerBytes
          { OFMessage.header 1 6 128 xid with ports := [1, 2] })
        datapathId (headerBytes_length _)
      simp only [OFMessage.header] at ports ⊢
      simp [ports]

end RoundTrip

/-- The messages of a connection as bytes. -/
def wireFormat (fluid : FluidMsg) (datapathId : Nat) :
    WireFormat OFMessage UInt8 where
  format := messageFormat
  encode := toBytes fluid datapathId
  decode := ofBytes fluid
  Sendable := OnWire
  frame := fun _ onWire => onWire.frame
  decode_encode := fun _ onWire => onWire.ofBytes_toBytes

end OFMessage

end Perfbench
