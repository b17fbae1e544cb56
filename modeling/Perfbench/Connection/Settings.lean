import Mathlib.Data.Nat.Bitwise
import Perfbench.Connection.Versions

/-!
# The settings of an end of a connection

The setters of `OFServerSettings` may be called in any order.  The versions
are kept in a bitmap, the largest of them is found by a loop over the bits, and
the first version that is set takes the place of the default.
-/

namespace Perfbench

open Negotiation (Supports)

/-- The setters of `OFServerSettings`. -/
inductive Setting where
  | supportedVersion (version : Nat)
  | echoInterval (interval : Nat)
  | livenessCheck (check : Bool)
  | handshake (handshake : Bool)
  | dispatchAllMessages (dispatch : Bool)
  | useHelloElements (use : Bool)

namespace OFServerSettings

def set (ofsc : OFServerSettings) : Setting → OFServerSettings
  | .supportedVersion version => ofsc.supportedVersion version
  | .echoInterval interval => { ofsc with echoInterval := interval }
  | .livenessCheck check => { ofsc with livenessCheck := check }
  | .handshake handshake => { ofsc with handshake }
  | .dispatchAllMessages dispatch =>
      { ofsc with dispatchAllMessages := dispatch }
  | .useHelloElements use => { ofsc with useHelloElements := use }

/-- The settings after a chain of setters. -/
def build (settings : List Setting) : OFServerSettings :=
  settings.foldl set default

theorem build_snoc (settings : List Setting) (setting : Setting) :
    build (settings ++ [setting]) = (build settings).set setting := by
  rw [build, List.foldl_append]
  rfl

end OFServerSettings

def Setting.version : Setting → Option Nat
  | .supportedVersion version => some version
  | _ => none

/-- The versions set by hand. -/
def versionsOf (settings : List Setting) : List Nat :=
  settings.filterMap Setting.version

/-- The versions supported: OpenFlow 1.0 unless others are set. -/
def declared (settings : List Setting) : List Nat :=
  if versionsOf settings = [] then [1] else versionsOf settings

theorem bitLength_spec {fuel x : Nat} (fits : x < 2 ^ fuel) :
    x < 2 ^ bitLength fuel x ∧
      (0 < x → 0 < bitLength fuel x ∧ 2 ^ (bitLength fuel x - 1) ≤ x) := by
  induction fuel generalizing x with
  | zero =>
      have zero : x = 0 := by simpa using fits
      subst zero
      exact ⟨by decide, fun positive => absurd positive (by decide)⟩
  | succ fuel induction =>
      rw [bitLength]
      by_cases positive : x > 0
      · have halved : x >>> 1 = x / 2 := by
          rw [Nat.shiftRight_eq_div_pow, Nat.pow_one]
        rw [if_pos positive, halved]
        have smaller : x / 2 < 2 ^ fuel := by
          rw [Nat.pow_succ] at fits
          omega
        obtain ⟨upper, lower⟩ := induction smaller
        refine ⟨?_, fun _ => ⟨Nat.succ_pos _, ?_⟩⟩
        · rw [Nat.pow_succ]
          omega
        · rw [Nat.add_sub_cancel]
          rcases Nat.eq_zero_or_pos (x / 2) with last | more
          · have none : bitLength fuel (x / 2) = 0 := by
              rw [last]
              cases fuel with
              | zero => rfl
              | succ fuel => rfl
            rw [none]
            exact positive
          · obtain ⟨some, low⟩ := lower more
            have doubled : 2 ^ bitLength fuel (x / 2) =
                2 ^ (bitLength fuel (x / 2) - 1) * 2 := by
              rw [← Nat.pow_succ]
              congr 1
              omega
            omega
      · have zero : x = 0 := by omega
        subst zero
        rw [if_neg positive]
        exact ⟨by decide, fun absurdly => absurd absurdly (by decide)⟩

/-- The bitmap holds the versions of a list, and the largest is known. -/
structure Holds (versions : List Nat) (ofsc : OFServerSettings) : Prop where
  bits : ∀ version, ofsc.supportedVersions.testBit version = true ↔
    version ∈ versions
  fits : ofsc.supportedVersions < 2 ^ 32
  max : ofsc.maxSupportedVersion = bitLength 32 ofsc.supportedVersions - 1

theorem testBit_versionBit {version : Nat} (short : version < 32)
    (other : Nat) :
    (versionBit version).testBit other = true ↔ other = version := by
  rw [versionBit, Nat.mod_eq_of_lt short, Nat.one_shiftLeft,
    Nat.testBit_two_pow, decide_eq_true_eq, eq_comm]

theorem versionBit_lt (version : Nat) : versionBit version < 2 ^ 32 := by
  rw [versionBit, Nat.one_shiftLeft]
  exact Nat.pow_lt_pow_right (by decide) (Nat.mod_lt _ (by decide))

theorem holds_addVersion {versions : List Nat} {ofsc : OFServerSettings}
    {version : Nat} (short : version < 32)
    (bits : ∀ other, ofsc.supportedVersions.testBit other = true ↔
      other ∈ versions)
    (fits : ofsc.supportedVersions < 2 ^ 32) :
    Holds (versions ++ [version]) (ofsc.addVersion version) := by
  refine ⟨?_, Nat.or_lt_two_pow fits (versionBit_lt version), rfl⟩
  intro other
  rw [OFServerSettings.addVersion, Nat.testBit_or, Bool.or_eq_true, bits,
    testBit_versionBit short, List.mem_append, List.mem_singleton]

theorem Holds.congr {versions : List Nat} {ofsc other : OFServerSettings}
    (holds : Holds versions ofsc)
    (bits : other.supportedVersions = ofsc.supportedVersions)
    (max : other.maxSupportedVersion = ofsc.maxSupportedVersion) :
    Holds versions other := by
  refine ⟨?_, ?_, ?_⟩
  · rw [bits]
    exact holds.bits
  · rw [bits]
    exact holds.fits
  · rw [max, bits]
    exact holds.max

/-- What is true of the settings after some setters. -/
structure Built (settings : List Setting) (ofsc : OFServerSettings) :
    Prop where
  holds : Holds (declared settings) ofsc
  byHand : ofsc.versionSetByHand = true ↔ versionsOf settings ≠ []

theorem built_default : Built [] OFServerSettings.default := by
  refine ⟨?_, ?_⟩
  · have empty := @holds_addVersion []
      { supportedVersions := 0
        maxSupportedVersion := 0
        versionSetByHand := false
        echoInterval := 15
        livenessCheck := true
        handshake := true
        dispatchAllMessages := false
        useHelloElements := false } 1 (by decide) (by simp) (by decide)
    exact empty.congr rfl rfl
  · simp [OFServerSettings.default, versionsOf]

theorem versionsOf_snoc (settings : List Setting) (setting : Setting) :
    versionsOf (settings ++ [setting]) =
      versionsOf settings ++ setting.version.toList := by
  rw [versionsOf, List.filterMap_append]
  cases setting <;> rfl

theorem Built.set {settings : List Setting} {ofsc : OFServerSettings}
    (built : Built settings ofsc) (setting : Setting)
    (short : ∀ version ∈ setting.version, version < 32) :
    Built (settings ++ [setting]) (ofsc.set setting) := by
  have others : setting.version = none →
      (ofsc.set setting).supportedVersions = ofsc.supportedVersions →
      (ofsc.set setting).maxSupportedVersion = ofsc.maxSupportedVersion →
      (ofsc.set setting).versionSetByHand = ofsc.versionSetByHand →
      Built (settings ++ [setting]) (ofsc.set setting) := by
    intro unset bits max byHand
    have same : versionsOf (settings ++ [setting]) = versionsOf settings := by
      rw [versionsOf_snoc, unset]
      exact List.append_nil _
    refine ⟨?_, ?_⟩
    · rw [declared, same]
      exact built.holds.congr bits max
    · rw [byHand, same]
      exact built.byHand
  cases setting with
  | supportedVersion version =>
      have small := short version rfl
      have more : versionsOf (settings ++ [.supportedVersion version]) =
          versionsOf settings ++ [version] := versionsOf_snoc _ _
      rw [OFServerSettings.set, OFServerSettings.supportedVersion]
      by_cases first : versionsOf settings = []
      · have unset : ofsc.versionSetByHand = false := by
          rw [← Bool.not_eq_true]
          exact fun byHand => built.byHand.mp byHand first
        refine ⟨?_, ?_⟩
        · rw [declared, more, first, unset, if_neg (by simp),
            if_neg (by decide)]
          apply holds_addVersion small
          · intro other
            rw [Nat.zero_testBit]
            simp
          · exact Nat.two_pow_pos 32
        · rw [more, unset]
          simp [OFServerSettings.addVersion]
      · have set := built.byHand.mpr first
        refine ⟨?_, ?_⟩
        · have holds := built.holds
          rw [declared, if_neg first] at holds
          rw [declared, more, if_neg (by simp), if_pos set]
          exact holds_addVersion small holds.bits holds.fits
        · rw [more, if_pos set]
          simp [OFServerSettings.addVersion, set]
  | echoInterval interval => exact others rfl rfl rfl rfl
  | livenessCheck check => exact others rfl rfl rfl rfl
  | handshake handshake => exact others rfl rfl rfl rfl
  | dispatchAllMessages dispatch => exact others rfl rfl rfl rfl
  | useHelloElements use => exact others rfl rfl rfl rfl

theorem build_built {settings : List Setting}
    (short : ∀ version ∈ versionsOf settings, version < 32) :
    Built settings (OFServerSettings.build settings) := by
  induction settings using List.reverseRecOn with
  | nil => exact built_default
  | append_singleton settings setting induction =>
      rw [versionsOf_snoc] at short
      rw [OFServerSettings.build_snoc]
      apply (induction (fun version member =>
        short version (List.mem_append_left _ member))).set
      intro version member
      apply short version
      apply List.mem_append_right
      exact Option.mem_toList.mpr member

theorem supports_iff {versions : List Nat} {ofsc : OFServerSettings}
    (holds : Holds versions ofsc) {version : Nat} (short : version < 32) :
    Supports ofsc version ↔ version ∈ versions := by
  rw [Supports, versionBit, Nat.mod_eq_of_lt short, Nat.one_shiftLeft,
    Nat.and_two_pow, ← holds.bits]
  cases ofsc.supportedVersions.testBit version with
  | false => simp
  | true => simp

/-- The versions that a chain of setters leaves, and the largest of them, which
the HELLO offers. -/
structure Offers (versions : List Nat) (ofsc : OFServerSettings) : Prop where
  supports : ∀ version < 32, Supports ofsc version ↔ version ∈ versions
  offered : ofsc.maxSupportedVersion ∈ versions
  largest : ∀ version ∈ versions, version ≤ ofsc.maxSupportedVersion

theorem Holds.offers {versions : List Nat} {ofsc : OFServerSettings}
    (holds : Holds versions ofsc) (nonempty : versions ≠ []) :
    Offers versions ofsc := by
  have positive : 0 < ofsc.supportedVersions := by
    obtain ⟨version, rest, rfl⟩ := List.exists_cons_of_ne_nil nonempty
    have bit := (holds.bits version).mpr List.mem_cons_self
    rcases Nat.eq_zero_or_pos ofsc.supportedVersions with zero | positive
    · rw [zero, Nat.zero_testBit] at bit
      cases bit
    · exact positive
  obtain ⟨upper, lower⟩ := bitLength_spec holds.fits
  obtain ⟨counted, low⟩ := lower positive
  have length : bitLength 32 ofsc.supportedVersions =
      ofsc.maxSupportedVersion + 1 := by
    rw [holds.max]
    omega
  rw [length] at upper
  rw [length, Nat.add_sub_cancel] at low
  refine ⟨fun version short => supports_iff holds short, ?_, ?_⟩
  · apply (holds.bits _).mp
    exact Nat.testBit_of_two_pow_le_and_two_pow_add_one_gt low upper
  · intro version member
    have bit := (holds.bits version).mpr member
    have atLeast := Nat.ge_two_pow_of_testBit bit
    have below := Nat.lt_of_le_of_lt atLeast upper
    have shorter := (Nat.pow_lt_pow_iff_right (by decide)).mp below
    omega

theorem declared_short {settings : List Setting}
    (short : ∀ version ∈ versionsOf settings, version < 32) :
    ∀ version ∈ declared settings, version < 32 := by
  intro version member
  rw [declared] at member
  split at member
  · rw [List.mem_singleton.mp member]
    decide
  · exact short version member

/-- In whatever order and however often the setters are called, an end supports
the versions that were set, or 1.0 if none was, and offers the largest. -/
theorem build_offers {settings : List Setting}
    (short : ∀ version ∈ versionsOf settings, version < 32) :
    Offers (declared settings) (OFServerSettings.build settings) := by
  apply (build_built short).holds.offers
  rw [declared]
  split
  · simp
  · assumption

theorem build_offers_sample :
    Offers [4, 1]
      (OFServerSettings.build
        [.supportedVersion 4, .echoInterval 120, .supportedVersion 1]) :=
  @build_offers [.supportedVersion 4, .echoInterval 120, .supportedVersion 1]
    (by decide)

end Perfbench
