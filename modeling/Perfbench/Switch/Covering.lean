import Perfbench.Library.FieldTests
import Perfbench.Switch.Datapath

/-!
# Flows that cover other flows

A flow covers another one when it matches every packet that the other one
matches.  `non_strict_match` compares the fields of the flows instead, and
compares a field that only the second flow wildcards with the value that is
stored there.
-/

namespace Perfbench

/-- The fields that are compared as a whole, unless they are wildcarded. -/
inductive ExactField where
  | inPort
  | dlSrc
  | dlDst
  | dlVlan
  | dlVlanPcp
  | dlType
  | nwTos
  | nwProto
  | tpSrc
  | tpDst
deriving DecidableEq, Repr

/-- The fields of a match; the addresses of the network layer are compared
under masks. -/
inductive MatchField where
  | exact (field : ExactField)
  | nwSrc
  | nwDst
deriving DecidableEq, Repr

namespace ExactField

def Value : ExactField → Type
  | .dlSrc => EthAddress
  | .dlDst => EthAddress
  | _ => Nat

/-- The numbers that fit into so many bits. -/
def bits (width : Nat) : Set Nat := {value | value < 2 ^ width}

/-- The values of the field's type in `of10::Match`. -/
def domain : (field : ExactField) → Set field.Value
  | .inPort => bits 16
  | .dlSrc => Set.univ
  | .dlDst => Set.univ
  | .dlVlan => bits 16
  | .dlVlanPcp => bits 8
  | .dlType => bits 16
  | .nwTos => bits 8
  | .nwProto => bits 8
  | .tpSrc => bits 16
  | .tpDst => bits 16

/-- The wildcard bit of the field. -/
def wildcard : ExactField → BitVec 32
  | .inPort => ofpfwInPort
  | .dlSrc => ofpfwDlSrc
  | .dlDst => ofpfwDlDst
  | .dlVlan => ofpfwDlVlan
  | .dlVlanPcp => ofpfwDlVlanPcp
  | .dlType => ofpfwDlType
  | .nwTos => ofpfwNwTos
  | .nwProto => ofpfwNwProto
  | .tpSrc => ofpfwTpSrc
  | .tpDst => ofpfwTpDst

def get (fields : MatchFields) : (field : ExactField) → field.Value
  | .inPort => fields.inPort
  | .dlSrc => fields.dlSrc
  | .dlDst => fields.dlDst
  | .dlVlan => fields.dlVlan
  | .dlVlanPcp => fields.dlVlanPcp
  | .dlType => fields.dlType
  | .nwTos => fields.nwTos
  | .nwProto => fields.nwProto
  | .tpSrc => fields.tpSrc
  | .tpDst => fields.tpDst

theorem inOrder_iff (holds : ExactField → Prop) (nwSrc nwDst : Prop) :
    (((((((((((holds .inPort ∧ holds .dlSrc) ∧ holds .dlDst) ∧
      holds .dlVlan) ∧ holds .dlVlanPcp) ∧ holds .dlType) ∧ holds .nwTos) ∧
      holds .nwProto) ∧ nwSrc) ∧ nwDst) ∧ holds .tpSrc) ∧ holds .tpDst) ↔
      (∀ field, holds field) ∧ nwSrc ∧ nwDst := by
  constructor
  · intro tests
    obtain ⟨⟨⟨⟨⟨⟨⟨⟨⟨⟨⟨inPort, dlSrc⟩, dlDst⟩, dlVlan⟩, dlVlanPcp⟩, dlType⟩,
      nwTos⟩, nwProto⟩, nwSrc⟩, nwDst⟩, tpSrc⟩, tpDst⟩ := tests
    refine ⟨?_, nwSrc, nwDst⟩
    intro field
    cases field <;> assumption
  · intro all
    obtain ⟨fields, nwSrc, nwDst⟩ := all
    exact ⟨⟨⟨⟨⟨⟨⟨⟨⟨⟨⟨fields _, fields _⟩, fields _⟩, fields _⟩, fields _⟩,
      fields _⟩, fields _⟩, fields _⟩, nwSrc⟩, nwDst⟩, fields _⟩, fields _⟩

theorem bits_nontrivial {width : Nat} (positive : 0 < width) :
    (bits width).Nontrivial := by
  refine ⟨0, Nat.two_pow_pos width, 1, ?_, by decide⟩
  exact Nat.one_lt_two_pow (Nat.ne_of_gt positive)

theorem domain_nontrivial (field : ExactField) : field.domain.Nontrivial := by
  have addresses : (Set.univ : Set EthAddress).Nontrivial := by
    refine ⟨.replicate 6 0, trivial, .replicate 6 1, trivial, ?_⟩
    decide
  cases field with
  | dlSrc => exact addresses
  | dlDst => exact addresses
  | inPort => exact bits_nontrivial (by decide)
  | dlVlan => exact bits_nontrivial (by decide)
  | dlVlanPcp => exact bits_nontrivial (by decide)
  | dlType => exact bits_nontrivial (by decide)
  | nwTos => exact bits_nontrivial (by decide)
  | nwProto => exact bits_nontrivial (by decide)
  | tpSrc => exact bits_nontrivial (by decide)
  | tpDst => exact bits_nontrivial (by decide)

end ExactField

namespace MatchField

def Value : MatchField → Type
  | .exact field => field.Value
  | .nwSrc => BitVec 32
  | .nwDst => BitVec 32

def domain : (field : MatchField) → Set field.Value
  | .exact field => field.domain
  | .nwSrc => Set.univ
  | .nwDst => Set.univ

def get (fields : MatchFields) : (field : MatchField) → field.Value
  | .exact field => field.get fields
  | .nwSrc => fields.nwSrc
  | .nwDst => fields.nwDst

/-- The packet with the given values. -/
def ofValues (value : (field : MatchField) → field.Value) : MatchFields where
  inPort := value (.exact .inPort)
  dlSrc := value (.exact .dlSrc)
  dlDst := value (.exact .dlDst)
  dlVlan := value (.exact .dlVlan)
  dlVlanPcp := value (.exact .dlVlanPcp)
  dlType := value (.exact .dlType)
  nwTos := value (.exact .nwTos)
  nwProto := value (.exact .nwProto)
  nwSrc := value .nwSrc
  nwDst := value .nwDst
  tpSrc := value (.exact .tpSrc)
  tpDst := value (.exact .tpDst)

theorem get_ofValues (value : (field : MatchField) → field.Value)
    (field : MatchField) : field.get (ofValues value) = value field := by
  cases field with
  | exact field =>
      cases field <;> rfl
  | nwSrc => rfl
  | nwDst => rfl

theorem forall_iff {holds : MatchField → Prop} :
    (∀ field, holds field) ↔
      (∀ field, holds (.exact field)) ∧ holds .nwSrc ∧ holds .nwDst := by
  constructor
  · intro all
    exact ⟨fun field => all (.exact field), all .nwSrc, all .nwDst⟩
  · intro tests field
    obtain ⟨fields, nwSrc, nwDst⟩ := tests
    cases field with
    | exact field => exact fields field
    | nwSrc => exact nwSrc
    | nwDst => exact nwDst

end MatchField

/-- Every field has a value of its type. -/
def MatchFields.InRange (fields : MatchFields) : Prop :=
  ∀ field : MatchField, field.get fields ∈ field.domain

theorem MatchFields.inRange_iff {fields : MatchFields} :
    fields.InRange ↔
      fields.inPort < 2 ^ 16 ∧ fields.dlVlan < 2 ^ 16 ∧
        fields.dlVlanPcp < 2 ^ 8 ∧ fields.dlType < 2 ^ 16 ∧
        fields.nwTos < 2 ^ 8 ∧ fields.nwProto < 2 ^ 8 ∧
        fields.tpSrc < 2 ^ 16 ∧ fields.tpDst < 2 ^ 16 := by
  constructor
  · intro inRange
    exact ⟨inRange (.exact .inPort), inRange (.exact .dlVlan),
      inRange (.exact .dlVlanPcp), inRange (.exact .dlType),
      inRange (.exact .nwTos), inRange (.exact .nwProto),
      inRange (.exact .tpSrc), inRange (.exact .tpDst)⟩
  · intro bounds field
    obtain ⟨inPort, dlVlan, dlVlanPcp, dlType, nwTos, nwProto, tpSrc, tpDst⟩ :=
      bounds
    cases field with
    | exact field =>
        cases field <;> trivial
    | nwSrc => trivial
    | nwDst => trivial

instance (fields : MatchFields) : Decidable fields.InRange :=
  decidable_of_iff' _ MatchFields.inRange_iff

theorem EthAddress.words_eq_iff {left right : EthAddress} :
    left.word32 = right.word32 ∧ left.word16 = right.word16 ↔
      left = right := by
  constructor
  · intro words
    obtain ⟨high, low⟩ := words
    have lists : left.toList = right.toList := by
      rw [← List.take_append_drop 4 left.toList,
        ← List.take_append_drop 4 right.toList]
      exact congrArg₂ List.append high low
    exact Vector.toList_inj.mp lists
  · intro same
    rw [same]
    exact ⟨rfl, rfl⟩

section Fields

variable {β : Type} [DecidableEq β]

theorem pktWild_iff {a b : β} {aw f : BitVec 32} :
    pktWild a b aw f = true ↔ b ∈ FieldTests.exactly (wc aw f) a := by
  rw [pktWild, Bool.or_eq_true, beq_iff_eq]
  rfl

theorem nonstrictWild_iff {a b : β} {aw bw f : BitVec 32} :
    nonstrictWild a b aw bw f = true ↔ wc aw f = true ∨ a = b := by
  rw [nonstrictWild, complement_ne_zero, Bool.true_and, Bool.or_eq_true,
    Bool.and_eq_true, Bool.or_eq_true, beq_iff_eq]
  constructor
  · intro tests
    rcases tests with ⟨_, wild⟩ | compared
    · exact Or.inl wild
    · exact compared
  · exact Or.inr

end Fields

theorem pktDladdr_iff {a b : EthAddress} {am f : BitVec 32} :
    pktDladdr a b am f = true ↔ b ∈ FieldTests.exactly (wc am f) a := by
  rw [pktDladdr, Bool.and_eq_true, pktWild_iff, pktWild_iff]
  exact or_and_left.symm.trans (or_congr_right EthAddress.words_eq_iff)

theorem nonstrictDladdr_iff {a b : EthAddress} {aw bw f : BitVec 32} :
    nonstrictDladdr a b aw bw f = true ↔ wc aw f = true ∨ a = b := by
  rw [nonstrictDladdr, Bool.and_eq_true, nonstrictWild_iff, nonstrictWild_iff]
  exact or_and_left.symm.trans (or_congr_right EthAddress.words_eq_iff)

theorem pktNw_iff {a b am : BitVec 32} :
    pktNw a b am = true ↔ b ∈ FieldTests.masked am a := by
  rw [pktNw, beq_iff_eq]
  rfl

theorem nonstrictNw_iff {a b am bm : BitVec 32} :
    nonstrictNw a b am bm = true ↔
      FieldTests.masked bm b ⊆ FieldTests.masked am a := by
  rw [nonstrictNw, beq_iff_eq, FieldTests.masked_subset_iff_formula]

namespace Flow

variable {α : Type} {flowA flowB : Flow α}

/-- The values of a field that the flow matches. -/
def accepted (flow : Flow α) : (field : MatchField) → Set field.Value
  | .exact field =>
      FieldTests.exactly (wc flow.match_.wildcards field.wildcard)
        (field.get flow.match_.toMatchFields)
  | .nwSrc => FieldTests.masked flow.nwSrcMask flow.match_.nwSrc
  | .nwDst => FieldTests.masked flow.nwDstMask flow.match_.nwDst

theorem pktMatch_iff {flow : Flow α} {pkt : MatchFields} :
    flow.pktMatch pkt = true ↔
      ∀ field : MatchField, field.get pkt ∈ flow.accepted field := by
  rw [MatchField.forall_iff, ← ExactField.inOrder_iff]
  simp only [pktMatch, matchStdPkt, Bool.and_eq_true, pktWild_iff,
    pktDladdr_iff, pktNw_iff]
  rfl

/-- The addresses that one flow matches are among those of the other. -/
def AddressesWithin (flowA flowB : Flow α) : Prop :=
  flowB.accepted .nwSrc ⊆ flowA.accepted .nwSrc ∧
    flowB.accepted .nwDst ⊆ flowA.accepted .nwDst

theorem nonStrictMatch_iff :
    flowA.nonStrictMatch flowB = true ↔
      (∀ field : ExactField,
        wc flowA.match_.wildcards field.wildcard = true ∨
          field.get flowA.match_.toMatchFields =
            field.get flowB.match_.toMatchFields) ∧
      AddressesWithin flowA flowB := by
  rw [AddressesWithin, ← ExactField.inOrder_iff]
  simp only [nonStrictMatch, matchStdNonstrict, Bool.and_eq_true,
    nonstrictWild_iff, nonstrictDladdr_iff, nonstrictNw_iff]
  rfl

/-- Every packet match that the second flow accepts, the first one accepts
too. -/
def Covers (flowA flowB : Flow α) : Prop :=
  ∀ pkt : MatchFields, pkt.InRange → flowB.pktMatch pkt = true →
    flowA.pktMatch pkt = true

theorem covers_iff_subset
    (inRange : flowB.match_.toMatchFields.InRange) :
    Covers flowA flowB ↔ ∀ field : MatchField,
      field.domain ∩ flowB.accepted field ⊆
        field.domain ∩ flowA.accepted field := by
  have nonempty : ∀ field : MatchField,
      (field.domain ∩ flowB.accepted field).Nonempty := by
    intro field
    refine ⟨field.get flowB.match_.toMatchFields, inRange field, ?_⟩
    cases field with
    | exact field => exact Or.inr rfl
    | nwSrc => exact FieldTests.self_mem_masked _ _
    | nwDst => exact FieldTests.self_mem_masked _ _
  have products := @Set.univ_pi_subset_univ_pi_iff MatchField MatchField.Value
    (fun field => field.domain ∩ flowB.accepted field)
    (fun field => field.domain ∩ flowA.accepted field)
  have noneEmpty : ¬∃ field : MatchField,
      field.domain ∩ flowB.accepted field = ∅ := by
    intro empty
    obtain ⟨field, isEmpty⟩ := empty
    exact (nonempty field).ne_empty isEmpty
  rw [or_iff_left noneEmpty] at products
  rw [← products]
  constructor
  · intro covers value accepted
    rw [Set.mem_univ_pi] at accepted ⊢
    have matched := covers (MatchField.ofValues value)
    simp only [MatchFields.InRange, pktMatch_iff, MatchField.get_ofValues]
      at matched
    have inDomain := fun field => (accepted field).1
    have acceptedB := fun field => (accepted field).2
    intro field
    exact ⟨inDomain field, matched inDomain acceptedB field⟩
  · intro within pkt pktInRange matched
    rw [pktMatch_iff] at matched ⊢
    have member : (fun field : MatchField => field.get pkt) ∈
        Set.univ.pi (fun field => field.domain ∩ flowB.accepted field) :=
      fun field _ => ⟨pktInRange field, matched field⟩
    intro field
    exact (within member field trivial).2

/-- A flow covers another one exactly when it compares nothing but what the
other one compares with the same value. -/
theorem covers_iff (inRange : flowB.match_.toMatchFields.InRange) :
    Covers flowA flowB ↔
      (∀ field : ExactField,
        wc flowA.match_.wildcards field.wildcard = true ∨
          wc flowB.match_.wildcards field.wildcard = false ∧
            field.get flowA.match_.toMatchFields =
              field.get flowB.match_.toMatchFields) ∧
      AddressesWithin flowA flowB := by
  rw [covers_iff_subset inRange, MatchField.forall_iff]
  apply and_congr
  · apply forall_congr'
    intro field
    exact FieldTests.exactly_subset_iff field.domain_nontrivial
      (inRange (.exact field))
  · simp only [MatchField.domain, Set.univ_inter]
    rfl

/-- The fields that the second flow wildcards, the first one does too. -/
def WildcardsWithin (flowA flowB : Flow α) : Prop :=
  ∀ field : ExactField, wc flowB.match_.wildcards field.wildcard = true →
    wc flowA.match_.wildcards field.wildcard = true

/-- A field that the first flow compares has another value in the second. -/
def FieldDiffers (flowA flowB : Flow α) : Prop :=
  ∃ field : ExactField, wc flowA.match_.wildcards field.wildcard = false ∧
    field.get flowA.match_.toMatchFields ≠ field.get flowB.match_.toMatchFields

/-- A bit of an address that is compared under the first mask is masked in
the second word, or has another value there. -/
def BitDiffers (maskA maskB wordA wordB : BitVec 32) : Prop :=
  ∃ index, index < 32 ∧ maskA.getLsbD index = false ∧
    (maskB.getLsbD index = true ∨
      wordA.getLsbD index ≠ wordB.getLsbD index)

/-- Either no field is wildcarded in the second flow only, or some other
difference shows that it is not covered. -/
def Decided (flowA flowB : Flow α) : Prop :=
  WildcardsWithin flowA flowB ∨ FieldDiffers flowA flowB ∨
    BitDiffers flowA.nwSrcMask flowB.nwSrcMask flowA.match_.nwSrc
      flowB.match_.nwSrc ∨
    BitDiffers flowA.nwDstMask flowB.nwDstMask flowA.match_.nwDst
      flowB.match_.nwDst

theorem bitDiffers_iff {maskA maskB wordA wordB : BitVec 32} :
    BitDiffers maskA maskB wordA wordB ↔
      ¬FieldTests.masked maskB wordB ⊆ FieldTests.masked maskA wordA := by
  rw [FieldTests.masked_subset_iff]
  constructor
  · intro differs within
    obtain ⟨index, inside, compared, bit⟩ := differs
    obtain ⟨unmasked, same⟩ := within index inside compared
    rcases bit with mask | different
    · simp [unmasked] at mask
    · exact different same
  · intro outside
    push Not at outside
    obtain ⟨index, inside, compared, differs⟩ := outside
    refine ⟨index, inside, compared, ?_⟩
    cases mask : maskB.getLsbD index with
    | true => exact Or.inl rfl
    | false => exact Or.inr (differs mask)

theorem nonStrictMatch_iff_same :
    flowA.nonStrictMatch flowB = true ↔
      ¬FieldDiffers flowA flowB ∧ AddressesWithin flowA flowB := by
  rw [nonStrictMatch_iff]
  apply and_congr_left
  intro _
  constructor
  · intro compared differs
    obtain ⟨field, compares, different⟩ := differs
    rcases compared field with wild | same
    · simp [compares] at wild
    · exact different same
  · intro same field
    by_contra neither
    push Not at neither
    obtain ⟨notWild, different⟩ := neither
    exact same ⟨field, by simpa using notWild, different⟩

/-- The comparison misses that a field is wildcarded in the second flow
only, and nothing else. -/
theorem covers_iff_nonStrictMatch
    (inRange : flowB.match_.toMatchFields.InRange) :
    Covers flowA flowB ↔
      flowA.nonStrictMatch flowB = true ∧ WildcardsWithin flowA flowB := by
  rw [covers_iff inRange, nonStrictMatch_iff]
  constructor
  · intro covers
    obtain ⟨fields, addresses⟩ := covers
    refine ⟨⟨?_, addresses⟩, ?_⟩
    · intro field
      rcases fields field with wild | ⟨_, same⟩
      · exact Or.inl wild
      · exact Or.inr same
    · intro field wildB
      rcases fields field with wild | ⟨compares, _⟩
      · exact wild
      · simp [wildB] at compares
  · intro matched
    obtain ⟨⟨fields, addresses⟩, within⟩ := matched
    refine ⟨?_, addresses⟩
    intro field
    cases wildB : wc flowB.match_.wildcards field.wildcard with
    | true => exact Or.inl (within field wildB)
    | false =>
        rcases fields field with wild | same
        · exact Or.inl wild
        · exact Or.inr ⟨rfl, same⟩

theorem decided_iff :
    Decided flowA flowB ↔
      (flowA.nonStrictMatch flowB = true → WildcardsWithin flowA flowB) := by
  rw [Decided, bitDiffers_iff, bitDiffers_iff, nonStrictMatch_iff_same,
    imp_iff_or_not, not_and_or, not_not, AddressesWithin, not_and_or]
  rfl

/-- The comparison tells whether the second flow is covered exactly where
this is decided by the fields that it compares rightly. -/
theorem nonStrictMatch_covers_iff
    (inRange : flowB.match_.toMatchFields.InRange) :
    (flowA.nonStrictMatch flowB = true ↔ Covers flowA flowB) ↔
      Decided flowA flowB := by
  rw [covers_iff_nonStrictMatch inRange, decided_iff]
  exact iff_self_and

end Flow

namespace Datapath

variable {α : Type}

open Classical in
/-- The flows that are not covered by the given one. -/
noncomputable def uncovered (flow : Flow α) (flowTable : List (Flow α)) :
    List (Flow α) :=
  flowTable.filter (fun other => ¬flow.Covers other)

/-- Two conditions leave the same items exactly when they agree on all. -/
theorem filter_eq_filter_iff {Item : Type} {items : List Item}
    {left right : Item → Bool} :
    items.filter left = items.filter right ↔
      ∀ item ∈ items, left item = right item := by
  constructor
  · intro equality item member
    have members : item ∈ items.filter left ↔ item ∈ items.filter right := by
      rw [equality]
    rw [List.mem_filter, List.mem_filter, and_congr_right_iff] at members
    exact Bool.eq_iff_iff.mpr (members member)
  · exact List.filter_congr

/-- A DELETE leaves the flows that are not covered exactly when the fields
decide it for every flow of the table. -/
theorem handleFlowMod_delete_iff {flowTable : List (Flow α)}
    (tableInRange : ∀ flow ∈ flowTable,
      flow.match_.toMatchFields.InRange)
    {fm : SwFlowMod α} (delete : fm.command = .delete)
    (buffered : Option CapturedPacket) :
    (handleFlowMod flowTable fm buffered).1 =
        uncovered (newFlow fm) flowTable ↔
      ∀ flow ∈ flowTable, (newFlow fm).Decided flow := by
  have left : (handleFlowMod flowTable fm buffered).1 =
      flowTable.filter (fun other => !(newFlow fm).nonStrictMatch other) := by
    rw [handleFlowMod, delete]
    rfl
  rw [left, uncovered, filter_eq_filter_iff]
  apply forall₂_congr
  intro flow member
  rw [← Flow.nonStrictMatch_covers_iff (tableInRange flow member),
    Bool.eq_iff_iff, Bool.not_eq_true', ← Bool.not_eq_true]
  simp only [decide_eq_true_eq, not_iff_not]

/-- `non_strict_match` tells whether a flow is covered, and a DELETE removes
exactly the covered flows, where and only where the fields decide it. -/
theorem covered_iff (flowA flowB : Flow α)
    (inRange : flowB.match_.toMatchFields.InRange)
    (flowTable : List (Flow α))
    (tableInRange : ∀ flow ∈ flowTable,
      flow.match_.toMatchFields.InRange)
    (fm : SwFlowMod α) (delete : fm.command = .delete)
    (buffered : Option CapturedPacket) :
    ((flowA.nonStrictMatch flowB = true ↔ flowA.Covers flowB) ↔
        flowA.Decided flowB) ∧
      ((handleFlowMod flowTable fm buffered).1 =
          uncovered (newFlow fm) flowTable ↔
        ∀ flow ∈ flowTable, (newFlow fm).Decided flow) :=
  ⟨Flow.nonStrictMatch_covers_iff inRange,
    handleFlowMod_delete_iff tableInRange delete buffered⟩

/-- The flow of an ADD that matches everything. -/
def allFlow : Flow Nat := newFlow (addOf 1 matchAll [10]).1

/-- A DELETE of the flows whose `nw_tos` is 0. -/
def deleteTos : SwFlowMod Nat where
  command := .delete
  priority := 0
  match_ := { matchAll with wildcards := 0x1fffff }
  actions := []
  bufferId := 0xffffffff

theorem covered_iff_deleteTos :
    (((newFlow deleteTos).nonStrictMatch allFlow = true ↔
        (newFlow deleteTos).Covers allFlow) ↔
        (newFlow deleteTos).Decided allFlow) ∧
      ((handleFlowMod [allFlow] deleteTos none).1 =
          uncovered (newFlow deleteTos) [allFlow] ↔
        ∀ flow ∈ [allFlow], (newFlow deleteTos).Decided flow) :=
  covered_iff (newFlow deleteTos) allFlow (by decide) [allFlow] (by decide)
    deleteTos rfl none

/-- The flow that matches everything is removed with them. -/
theorem deleteTos_uncovered :
    ¬((newFlow deleteTos).nonStrictMatch allFlow = true ↔
        (newFlow deleteTos).Covers allFlow) ∧
      (handleFlowMod [allFlow] deleteTos none).1 ≠
        uncovered (newFlow deleteTos) [allFlow] := by
  have outside : ¬(newFlow deleteTos).Covers allFlow := by
    intro covers
    have matched := covers { (default : MatchFields) with nwTos := 1 }
      (by decide) (by decide)
    exact absurd matched (by decide)
  constructor
  · intro agree
    exact outside (agree.mp (by decide))
  · have removed : (handleFlowMod [allFlow] deleteTos none).1 = [] := by decide
    rw [removed]
    simp [uncovered, outside]

end Datapath

end Perfbench
