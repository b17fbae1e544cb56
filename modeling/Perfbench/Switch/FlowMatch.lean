import Perfbench.Switch.FlowFields

/-!
# Matching packets and flows

A flow matches a packet when every field that is not wildcarded has the
packet's value.  `strict_match` and `non_strict_match` compare two flows.  The
addresses of the network layer are compared under masks of their own.
-/

namespace Perfbench

/-- `of10::Match`: the fields and the word of the wildcards. -/
structure Match extends MatchFields where
  wildcards : BitVec 32
deriving DecidableEq, Inhabited, Repr

/-- The wildcard bits of OpenFlow 1.0; `OFPFW_NW_SRC_SHIFT` and
`OFPFW_NW_DST_SHIFT` are the places of two numbers of six bits. -/
def ofpfwInPort : BitVec 32 := 1 <<< 0
def ofpfwDlVlan : BitVec 32 := 1 <<< 1
def ofpfwDlSrc : BitVec 32 := 1 <<< 2
def ofpfwDlDst : BitVec 32 := 1 <<< 3
def ofpfwDlType : BitVec 32 := 1 <<< 4
def ofpfwNwProto : BitVec 32 := 1 <<< 5
def ofpfwTpSrc : BitVec 32 := 1 <<< 6
def ofpfwTpDst : BitVec 32 := 1 <<< 7
def ofpfwNwSrcShift : Nat := 8
def ofpfwNwDstShift : Nat := 14
def ofpfwDlVlanPcp : BitVec 32 := 1 <<< 20
def ofpfwNwTos : BitVec 32 := 1 <<< 21

/-- The two words that an address is compared in. -/
def EthAddress.word32 (address : EthAddress) : List UInt8 :=
  address.toList.take 4

def EthAddress.word16 (address : EthAddress) : List UInt8 :=
  address.toList.drop 4

/-- Whether the given field is set in the wildcards. -/
def wc (wildcards field : BitVec 32) : Bool := wildcards &&& field != 0

/-- `~` of a `bool`, which is promoted to `int` before. -/
def complement (flag : Bool) : Int := -(flag.toNat : Int) - 1

theorem complement_ne_zero (flag : Bool) : (complement flag != 0) = true := by
  cases flag with
  | false => rfl
  | true => rfl

section Fields

variable {α : Type} [DecidableEq α]

/-- `strict_wild8`, `strict_wild16` and `strict_wild32`. -/
def strictWild (a b : α) (aw bw f : BitVec 32) : Bool :=
  wc aw f && wc bw f ||
    complement (wc aw f) != 0 && complement (wc bw f) != 0 && a == b

/-- `nonstrict_wild8`, `nonstrict_wild16` and `nonstrict_wild32`. -/
def nonstrictWild (a b : α) (aw bw f : BitVec 32) : Bool :=
  wc bw f && wc aw f || complement (wc bw f) != 0 && (wc aw f || a == b)

/-- `pkt_wild8`, `pkt_wild16` and `pkt_wild32`. -/
def pktWild (a b : α) (aw f : BitVec 32) : Bool := wc aw f || a == b

end Fields

def strictNw (a b am bm : BitVec 32) : Bool :=
  am == bm && (a ^^^ b) &&& ~~~am == 0

def nonstrictNw (a b am bm : BitVec 32) : Bool :=
  ~~~am &&& (~~~a ||| ~~~b ||| bm) &&& (a ||| b ||| bm) == 0

def pktNw (a b am : BitVec 32) : Bool := ~~~am &&& (a ^^^ b) == 0

def strictDladdr (a b : EthAddress) (aw bw f : BitVec 32) : Bool :=
  strictWild a.word32 b.word32 aw bw f && strictWild a.word16 b.word16 aw bw f

def nonstrictDladdr (a b : EthAddress) (aw bw f : BitVec 32) : Bool :=
  nonstrictWild a.word32 b.word32 aw bw f &&
    nonstrictWild a.word16 b.word16 aw bw f

def pktDladdr (a b : EthAddress) (am f : BitVec 32) : Bool :=
  pktWild a.word32 b.word32 am f && pktWild a.word16 b.word16 am f

def matchStdStrict (a b : Match) (nwSrcMaskA nwSrcMaskB nwDstMaskA
    nwDstMaskB : BitVec 32) : Bool :=
  strictWild a.inPort b.inPort a.wildcards b.wildcards ofpfwInPort &&
  strictDladdr a.dlSrc b.dlSrc a.wildcards b.wildcards ofpfwDlSrc &&
  strictDladdr a.dlDst b.dlDst a.wildcards b.wildcards ofpfwDlDst &&
  strictWild a.dlVlan b.dlVlan a.wildcards b.wildcards ofpfwDlVlan &&
  strictWild a.dlVlanPcp b.dlVlanPcp a.wildcards b.wildcards
    ofpfwDlVlanPcp &&
  strictWild a.dlType b.dlType a.wildcards b.wildcards ofpfwDlType &&
  strictWild a.nwTos b.nwTos a.wildcards b.wildcards ofpfwNwTos &&
  strictWild a.nwProto b.nwProto a.wildcards b.wildcards ofpfwNwProto &&
  strictNw a.nwSrc b.nwSrc nwSrcMaskA nwSrcMaskB &&
  strictNw a.nwDst b.nwDst nwDstMaskA nwDstMaskB &&
  strictWild a.tpSrc b.tpSrc a.wildcards b.wildcards ofpfwTpSrc &&
  strictWild a.tpDst b.tpDst a.wildcards b.wildcards ofpfwTpDst

def matchStdNonstrict (a b : Match) (nwSrcMaskA nwSrcMaskB nwDstMaskA
    nwDstMaskB : BitVec 32) : Bool :=
  nonstrictWild a.inPort b.inPort a.wildcards b.wildcards ofpfwInPort &&
  nonstrictDladdr a.dlSrc b.dlSrc a.wildcards b.wildcards ofpfwDlSrc &&
  nonstrictDladdr a.dlDst b.dlDst a.wildcards b.wildcards ofpfwDlDst &&
  nonstrictWild a.dlVlan b.dlVlan a.wildcards b.wildcards ofpfwDlVlan &&
  nonstrictWild a.dlVlanPcp b.dlVlanPcp a.wildcards b.wildcards
    ofpfwDlVlanPcp &&
  nonstrictWild a.dlType b.dlType a.wildcards b.wildcards ofpfwDlType &&
  nonstrictWild a.nwTos b.nwTos a.wildcards b.wildcards ofpfwNwTos &&
  nonstrictWild a.nwProto b.nwProto a.wildcards b.wildcards ofpfwNwProto &&
  nonstrictNw a.nwSrc b.nwSrc nwSrcMaskA nwSrcMaskB &&
  nonstrictNw a.nwDst b.nwDst nwDstMaskA nwDstMaskB &&
  nonstrictWild a.tpSrc b.tpSrc a.wildcards b.wildcards ofpfwTpSrc &&
  nonstrictWild a.tpDst b.tpDst a.wildcards b.wildcards ofpfwTpDst

def matchStdPkt (a : Match) (b : MatchFields) (nwSrcMask
    nwDstMask : BitVec 32) : Bool :=
  pktWild a.inPort b.inPort a.wildcards ofpfwInPort &&
  pktDladdr a.dlSrc b.dlSrc a.wildcards ofpfwDlSrc &&
  pktDladdr a.dlDst b.dlDst a.wildcards ofpfwDlDst &&
  pktWild a.dlVlan b.dlVlan a.wildcards ofpfwDlVlan &&
  pktWild a.dlVlanPcp b.dlVlanPcp a.wildcards ofpfwDlVlanPcp &&
  pktWild a.dlType b.dlType a.wildcards ofpfwDlType &&
  pktWild a.nwTos b.nwTos a.wildcards ofpfwNwTos &&
  pktWild a.nwProto b.nwProto a.wildcards ofpfwNwProto &&
  pktNw a.nwSrc b.nwSrc nwSrcMask &&
  pktNw a.nwDst b.nwDst nwDstMask &&
  pktWild a.tpSrc b.tpSrc a.wildcards ofpfwTpSrc &&
  pktWild a.tpDst b.tpDst a.wildcards ofpfwTpDst

/-- The type of the actions is left open. -/
structure Flow (α : Type) where
  priority : Nat
  match_ : Match
  nwDstMask : BitVec 32
  nwSrcMask : BitVec 32
  actions : List α
deriving DecidableEq, Repr

namespace Flow

variable {α : Type}

def pktMatch (flow : Flow α) (pkt : MatchFields) : Bool :=
  matchStdPkt flow.match_ pkt flow.nwSrcMask flow.nwDstMask

def strictMatch (flowA flowB : Flow α) : Bool :=
  flowA.priority == flowB.priority &&
    matchStdStrict flowA.match_ flowB.match_ flowA.nwSrcMask flowB.nwSrcMask
      flowA.nwDstMask flowB.nwDstMask

def nonStrictMatch (flowA flowB : Flow α) : Bool :=
  matchStdNonstrict flowA.match_ flowB.match_ flowA.nwSrcMask flowB.nwSrcMask
    flowA.nwDstMask flowB.nwDstMask

end Flow

end Perfbench
