import Mathlib.Data.List.Find
import Perfbench.Library.History
import Perfbench.Library.LatestByKey
import Perfbench.Switch.Covering

/-!
# Adding flows

By OpenFlow 1.0 a flow is identified by its priority and its match, that is
the wildcards and the values of the fields that are not wildcarded.  An ADD
erases a flow for other reasons: it does not look at the addresses, and not at
which of the two flows wildcards a field.  The table keeps the latest flow of
each identity as long as what is erased has the new one's.
-/

namespace Perfbench

/-- The bits of an address that are not wildcarded; 32 and more wildcard
all. -/
def nwMask (wildcards : BitVec 32) (shift : Nat) : BitVec 32 :=
  BitVec.allOnes 32 <<< (wildcards.toNat >>> shift % 64)

/-- The wildcards, and the values that they leave. -/
def Match.significant (match_ : Match) : Match where
  wildcards := match_.wildcards
  inPort := if wc match_.wildcards ofpfwInPort then 0 else match_.inPort
  dlSrc := if wc match_.wildcards ofpfwDlSrc then default else match_.dlSrc
  dlDst := if wc match_.wildcards ofpfwDlDst then default else match_.dlDst
  dlVlan := if wc match_.wildcards ofpfwDlVlan then 0 else match_.dlVlan
  dlVlanPcp :=
    if wc match_.wildcards ofpfwDlVlanPcp then 0 else match_.dlVlanPcp
  dlType := if wc match_.wildcards ofpfwDlType then 0 else match_.dlType
  nwTos := if wc match_.wildcards ofpfwNwTos then 0 else match_.nwTos
  nwProto := if wc match_.wildcards ofpfwNwProto then 0 else match_.nwProto
  nwSrc := match_.nwSrc &&& nwMask match_.wildcards ofpfwNwSrcShift
  nwDst := match_.nwDst &&& nwMask match_.wildcards ofpfwNwDstShift
  tpSrc := if wc match_.wildcards ofpfwTpSrc then 0 else match_.tpSrc
  tpDst := if wc match_.wildcards ofpfwTpDst then 0 else match_.tpDst

/-- What identifies a flow. -/
def Flow.key {α : Type} (flow : Flow α) : Nat × Match :=
  (flow.priority, flow.match_.significant)

namespace ExactField

instance decidableEqValue : (field : ExactField) → DecidableEq field.Value
  | .dlSrc => inferInstanceAs (DecidableEq EthAddress)
  | .dlDst => inferInstanceAs (DecidableEq EthAddress)
  | .inPort => inferInstanceAs (DecidableEq Nat)
  | .dlVlan => inferInstanceAs (DecidableEq Nat)
  | .dlVlanPcp => inferInstanceAs (DecidableEq Nat)
  | .dlType => inferInstanceAs (DecidableEq Nat)
  | .nwTos => inferInstanceAs (DecidableEq Nat)
  | .nwProto => inferInstanceAs (DecidableEq Nat)
  | .tpSrc => inferInstanceAs (DecidableEq Nat)
  | .tpDst => inferInstanceAs (DecidableEq Nat)

instance (holds : ExactField → Prop) [∀ field, Decidable (holds field)] :
    Decidable (∀ field, holds field) :=
  decidable_of_iff _ ((inOrder_iff holds True True).trans (by simp))

end ExactField

/-- Each field but the addresses is wildcarded in both matches, or the same
value is stored there. -/
def Match.Agrees (left right : Match) : Prop :=
  ∀ field : ExactField,
    (wc left.wildcards field.wildcard = true ∧
      wc right.wildcards field.wildcard = true) ∨
    field.get left.toMatchFields = field.get right.toMatchFields

instance (left right : Match) : Decidable (left.Agrees right) :=
  inferInstanceAs (Decidable (∀ _, _))

/-- Fields that are wildcarded in both, or have the same value, match
strictly, as `~` of a `bool` is never 0. -/
theorem strictWild_iff {β : Type} [DecidableEq β] {a b : β}
    {aw bw f : BitVec 32} :
    strictWild a b aw bw f = true ↔
      (wc aw f = true ∧ wc bw f = true) ∨ a = b := by
  rw [strictWild, complement_ne_zero, complement_ne_zero, Bool.true_and,
    Bool.true_and, Bool.or_eq_true, Bool.and_eq_true, beq_iff_eq]

theorem strictDladdr_iff {a b : EthAddress} {aw bw f : BitVec 32} :
    strictDladdr a b aw bw f = true ↔
      (wc aw f = true ∧ wc bw f = true) ∨ a = b := by
  rw [strictDladdr, Bool.and_eq_true, strictWild_iff, strictWild_iff]
  exact or_and_left.symm.trans (or_congr_right EthAddress.words_eq_iff)

theorem strictNw_masked (a b : BitVec 32) :
    strictNw a b 0xffffffff 0xffffffff = true := by
  have nothing : ~~~(0xffffffff : BitVec 32) = 0#32 := by decide
  rw [strictNw, nothing, BitVec.and_zero]
  rfl

/-- A field of the same significance is wildcarded, or its value is the
same. -/
theorem agrees_of_significant {β : Type} {a b zero : β} {w f : BitVec 32}
    (same : (if wc w f then zero else a) = if wc w f then zero else b) :
    (wc w f = true ∧ wc w f = true) ∨ a = b := by
  cases wild : wc w f with
  | true => exact .inl ⟨rfl, rfl⟩
  | false =>
      rw [wild] at same
      exact .inr same

theorem Match.Agrees.of_significant {left right : Match}
    (same : left.significant = right.significant) : left.Agrees right := by
  obtain ⟨fields, wildcards⟩ := Match.mk.inj same
  obtain ⟨inPort, dlSrc, dlDst, dlVlan, dlVlanPcp, dlType, nwTos, nwProto, -,
    -, tpSrc, tpDst⟩ := MatchFields.mk.inj fields
  rw [← wildcards] at inPort dlSrc dlDst dlVlan dlVlanPcp dlType
  rw [← wildcards] at nwTos nwProto tpSrc tpDst
  intro field
  rw [← wildcards]
  cases field with
  | inPort => exact agrees_of_significant inPort
  | dlSrc => exact agrees_of_significant dlSrc
  | dlDst => exact agrees_of_significant dlDst
  | dlVlan => exact agrees_of_significant dlVlan
  | dlVlanPcp => exact agrees_of_significant dlVlanPcp
  | dlType => exact agrees_of_significant dlType
  | nwTos => exact agrees_of_significant nwTos
  | nwProto => exact agrees_of_significant nwProto
  | tpSrc => exact agrees_of_significant tpSrc
  | tpDst => exact agrees_of_significant tpDst

namespace Datapath

variable {α : Type}

/-- Added flows match strictly by their priorities and all fields but the
addresses. -/
theorem strictMatch_newFlow {left right : SwFlowMod α} :
    (newFlow left).strictMatch (newFlow right) = true ↔
      left.priority = right.priority ∧ left.match_.Agrees right.match_ := by
  rw [Flow.strictMatch, Bool.and_eq_true, beq_iff_eq]
  apply and_congr_right
  intro _
  have inOrder := ExactField.inOrder_iff
    (fun field =>
      (wc left.match_.wildcards field.wildcard = true ∧
        wc right.match_.wildcards field.wildcard = true) ∨
      field.get left.match_.toMatchFields =
        field.get right.match_.toMatchFields) True True
  simp only [and_true] at inOrder
  apply Iff.trans _ inOrder
  simp only [newFlow, matchStdStrict, Bool.and_eq_true, strictWild_iff,
    strictDladdr_iff, strictNw_masked, and_true]
  rfl

theorem strictMatch_of_key {left right : SwFlowMod α}
    (same : (newFlow left).key = (newFlow right).key) :
    (newFlow left).strictMatch (newFlow right) = true := by
  obtain ⟨priority, significant⟩ := Prod.mk.inj same
  exact strictMatch_newFlow.mpr ⟨priority, .of_significant significant⟩

/-- The flows of a sequence of ADDs. -/
def added (flowMods : List (SwFlowMod α × Option CapturedPacket)) :
    List (Flow α) :=
  flowMods.map (fun fm => newFlow fm.1)

/-- The latest flow of each identity, the newest first. -/
def latestFlows (flowMods : List (SwFlowMod α × Option CapturedPacket)) :
    List (Flow α) :=
  LatestByKey.latest Flow.key (added flowMods)

/-- The newest of them that an ADD takes for its own flow. -/
def taken (past : List (SwFlowMod α × Option CapturedPacket))
    (fm : SwFlowMod α) : Option (Flow α) :=
  (latestFlows past).find? (fun other => other.strictMatch (newFlow fm))

/-- An ADD removes no flow of another identity. -/
def KeepsOthers (past : List (SwFlowMod α × Option CapturedPacket))
    (fm : SwFlowMod α × Option CapturedPacket) : Prop :=
  ∀ flow ∈ tableAfter past, flow.key ≠ (newFlow fm.1).key →
    flow ∈ tableAfter (past ++ [fm])

/-- The table holds one flow for each identity that was added, with the
actions of the last ADD, and no ADD has removed a flow of another identity. -/
structure ActsAsMap (flowMods : List (SwFlowMod α × Option CapturedPacket)) :
    Prop where
  lastActions : ∀ key,
    ((tableAfter flowMods).filter (fun flow => flow.key = key)).map
        Flow.actions =
      (((added flowMods).reverse.find? (fun flow => flow.key = key)).map
        Flow.actions).toList
  keeps : History.Admissible KeepsOthers flowMods

/-- Of the latest flows of its priority that agree with its match, the
newest. -/
def newestAgreeing (past : List (SwFlowMod α × Option CapturedPacket))
    (fm : SwFlowMod α) : Option (Flow α) :=
  (latestFlows past).find? (fun other =>
    other.priority = fm.priority ∧ other.match_.Agrees fm.match_)

/-- The newest flow that agrees with an ADD, if there is one, has its
identity. -/
def NewestHasKey (past : List (SwFlowMod α × Option CapturedPacket))
    (fm : SwFlowMod α × Option CapturedPacket) : Prop :=
  ∀ flow, newestAgreeing past fm.1 = some flow →
    flow.key = (newFlow fm.1).key

/-- What an ADD takes for its own flow has its identity. -/
def TakesOwnKey (past : List (SwFlowMod α × Option CapturedPacket))
    (fm : SwFlowMod α × Option CapturedPacket) : Prop :=
  ∀ flow, taken past fm.1 = some flow → flow.key = (newFlow fm.1).key

/-- The flow that an ADD erases is found without the addresses, and by the
values of the fields that only one of the two wildcards. -/
theorem taken_eq (past : List (SwFlowMod α × Option CapturedPacket))
    (fm : SwFlowMod α) : taken past fm = newestAgreeing past fm := by
  apply List.find?_congr
  intro flow member
  obtain ⟨other, _, rfl⟩ :=
    List.mem_map.mp (LatestByKey.mem_of_mem_latest member)
  rw [Bool.eq_iff_iff, decide_eq_true_iff]
  exact strictMatch_newFlow

theorem takesOwnKey_iff {past : List (SwFlowMod α × Option CapturedPacket)}
    {fm : SwFlowMod α × Option CapturedPacket} :
    TakesOwnKey past fm ↔ NewestHasKey past fm := by
  rw [TakesOwnKey, taken_eq]
  exact Iff.rfl

theorem latestFlows_snoc
    (past : List (SwFlowMod α × Option CapturedPacket))
    (fm : SwFlowMod α × Option CapturedPacket) :
    latestFlows (past ++ [fm]) =
      newFlow fm.1 :: (latestFlows past).filter
        (fun flow => flow.key ≠ (newFlow fm.1).key) := by
  rw [latestFlows, added, List.map_append, List.map_singleton,
    LatestByKey.latest_snoc]
  rfl

theorem latestFlows_distinct
    (flowMods : List (SwFlowMod α × Option CapturedPacket)) :
    (latestFlows flowMods).Pairwise
      (fun left right => left.key ≠ right.key) :=
  LatestByKey.latest_distinct (added flowMods)

theorem strictMatch_ofRank (flow : Flow α) :
    RankedList.OfRank Flow.priority flow.priority
      (fun other => other.strictMatch flow) := by
  intro other matches_
  have priorities := (Bool.and_eq_true_iff.mp matches_).1
  exact eq_of_beq priorities

/-- An ADD on a table that keeps the latest flows, whatever it takes. -/
theorem addFlow_sorted (flow : Flow α) (flows : List (Flow α)) :
    addFlow flow (flows.insertionSort (RankLE Flow.priority)) =
      (flow :: flows.eraseP (fun other => other.strictMatch flow)).insertionSort
        (RankLE Flow.priority) := by
  rw [addFlow, RankedList.eraseP_insertionSort (strictMatch_ofRank flow),
    insertFlow, List.insertionSort_cons]

/-- What an ADD takes for its own flow gives its place to the new one, and
nothing else does. -/
theorem eraseP_latestFlows
    {past : List (SwFlowMod α × Option CapturedPacket)}
    {fm : SwFlowMod α × Option CapturedPacket} (ownKey : TakesOwnKey past fm) :
    (latestFlows past).eraseP (fun other => other.strictMatch (newFlow fm.1)) =
      (latestFlows past).filter
        (fun flow => flow.key ≠ (newFlow fm.1).key) := by
  apply LatestByKey.eraseP_eq_filter (latestFlows_distinct past)
  · intro flow member same
    obtain ⟨other, _, rfl⟩ :=
      List.mem_map.mp (LatestByKey.mem_of_mem_latest member)
    exact strictMatch_of_key same
  · exact ownKey

theorem tableAfter_add {past : List (SwFlowMod α × Option CapturedPacket)}
    {fm : SwFlowMod α × Option CapturedPacket} (add : fm.1.command = .add)
    (sorted : tableAfter past =
      (latestFlows past).insertionSort (RankLE Flow.priority)) :
    tableAfter (past ++ [fm]) =
      (newFlow fm.1 :: (latestFlows past).eraseP
        (fun other => other.strictMatch (newFlow fm.1))).insertionSort
          (RankLE Flow.priority) := by
  rw [tableAfter_snoc, handleFlowMod, add, sorted]
  exact addFlow_sorted (newFlow fm.1) (latestFlows past)

/-- The table is the latest flows in the order of their priorities, the newer
ones first. -/
theorem tableAfter_latestFlows
    {flowMods : List (SwFlowMod α × Option CapturedPacket)}
    (adds : ∀ fm ∈ flowMods, fm.1.command = .add)
    (ownKeys : History.Admissible TakesOwnKey flowMods) :
    tableAfter flowMods =
      (latestFlows flowMods).insertionSort (RankLE Flow.priority) := by
  induction flowMods using List.reverseRecOn with
  | nil => rfl
  | append_singleton past fm induction =>
      obtain ⟨pastKeys, ownKey⟩ := (History.admissible_snoc past fm).mp ownKeys
      have sorted := induction
        (fun other member => adds other (List.mem_append_left _ member))
        pastKeys
      rw [tableAfter_add (adds fm (by simp)) sorted, latestFlows_snoc,
        eraseP_latestFlows ownKey]

theorem keepsOthers_iff {past : List (SwFlowMod α × Option CapturedPacket)}
    {fm : SwFlowMod α × Option CapturedPacket} (add : fm.1.command = .add)
    (sorted : tableAfter past =
      (latestFlows past).insertionSort (RankLE Flow.priority)) :
    KeepsOthers past fm ↔ TakesOwnKey past fm := by
  have after := tableAfter_add add sorted
  constructor
  · intro keeps flow takes
    by_contra differs
    have member : flow ∈ tableAfter past := by
      rw [sorted, List.mem_insertionSort]
      exact List.mem_of_find?_eq_some takes
    have kept := keeps flow member differs
    rw [after, List.mem_insertionSort] at kept
    rcases List.mem_cons.mp kept with rfl | remains
    · exact differs rfl
    · exact LatestByKey.not_mem_eraseP (latestFlows_distinct past) takes remains
  · intro ownKey flow member differs
    rw [sorted, List.mem_insertionSort] at member
    rw [after, List.mem_insertionSort, eraseP_latestFlows ownKey]
    apply List.mem_cons_of_mem
    exact List.mem_filter.mpr ⟨member, decide_eq_true differs⟩

/-- Over a run both hold of every ADD, or both fail first at the same one. -/
theorem admissible_keepsOthers_iff
    {flowMods : List (SwFlowMod α × Option CapturedPacket)}
    (adds : ∀ fm ∈ flowMods, fm.1.command = .add) :
    History.Admissible KeepsOthers flowMods ↔
      History.Admissible TakesOwnKey flowMods := by
  induction flowMods using List.reverseRecOn with
  | nil => exact Iff.rfl
  | append_singleton past fm induction =>
      have pastAdds : ∀ other ∈ past, other.1.command = .add :=
        fun other member => adds other (List.mem_append_left _ member)
      rw [History.admissible_snoc, History.admissible_snoc,
        induction pastAdds]
      apply and_congr_right
      intro pastKeys
      exact keepsOthers_iff (adds fm (by simp))
        (tableAfter_latestFlows pastAdds pastKeys)

theorem filter_insertionSort {flows : List (Flow α)}
    {condition : Flow α → Bool} {one : Option (Flow α)}
    (filtered : flows.filter condition = one.toList) :
    (flows.insertionSort (RankLE Flow.priority)).filter condition =
      one.toList := by
  have same := (List.perm_insertionSort (RankLE Flow.priority) flows).filter
    condition
  rw [filtered] at same
  cases one with
  | none => exact List.perm_nil.mp same
  | some flow => exact List.perm_singleton.mp same

/-- A sequence of ADDs acts as insertions into a map exactly when, at each of
them, the newest flow of its priority that agrees with it in all fields but
the addresses has its identity, if there is such a flow. -/
theorem actsAsMap_iff
    {flowMods : List (SwFlowMod α × Option CapturedPacket)}
    (adds : ∀ fm ∈ flowMods, fm.1.command = .add) :
    ActsAsMap flowMods ↔ History.Admissible NewestHasKey flowMods := by
  have conditions : History.Admissible NewestHasKey flowMods ↔
      History.Admissible TakesOwnKey flowMods :=
    History.admissible_congr (fun _ _ => takesOwnKey_iff.symm)
  rw [conditions]
  constructor
  · intro asMap
    exact (admissible_keepsOthers_iff adds).mp asMap.keeps
  · intro ownKeys
    refine ⟨?_, (admissible_keepsOthers_iff adds).mpr ownKeys⟩
    intro key
    have latest : (latestFlows flowMods).filter (fun flow => flow.key = key) =
        ((added flowMods).reverse.find? (fun flow => flow.key = key)).toList :=
      LatestByKey.filter_latest (added flowMods) key
    rw [tableAfter_latestFlows adds ownKeys, filter_insertionSort latest,
      Option.toList_map]

/-- The second ADD of a match replaces the first one. -/
theorem actsAsMap_iff_twice :
    ActsAsMap [addOf 7 matchAll [10], addOf 7 matchAll [20]] ↔
      History.Admissible NewestHasKey
        [addOf 7 matchAll [10], addOf 7 matchAll [20]] :=
  actsAsMap_iff (by decide)

/-- Packets from the given address. -/
def matchNwSrc (nwSrc : BitVec 32) : Match :=
  { (default : Match) with nwSrc, wildcards := 0x3fc0ff }

/-- The second of two flows for different addresses removes the first. -/
theorem actsAsMap_nwSrc :
    (∀ fm ∈ [addOf 7 (matchNwSrc 0x0a000001) [10],
      addOf 7 (matchNwSrc 0x0a000002) [20]], fm.1.command = .add) ∧
      ¬ActsAsMap [addOf 7 (matchNwSrc 0x0a000001) [10],
        addOf 7 (matchNwSrc 0x0a000002) [20]] := by
  refine ⟨by decide, ?_⟩
  intro asMap
  have removed := (History.admissible_snoc
    [addOf 7 (matchNwSrc 0x0a000001) [10]] _).mp asMap.keeps
  have kept := removed.2 (newFlow (addOf 7 (matchNwSrc 0x0a000001) [10]).1)
    (by decide) (by decide)
  exact absurd kept (by decide)

end Datapath

end Perfbench
