import Mathlib.Data.BitVec
import Mathlib.Data.Set.Prod
import Mathlib.Data.Set.Subsingleton

/-!
# Tests on fields

A field is compared with a value unless it is wildcarded, or it is a word
that is compared where a mask has zeros.  One test covers another when it
accepts every value that the other accepts; this is decided on the values and
the masks that the tests are made of.
-/

namespace FieldTests

variable {Value : Type*} {width : Nat}

/-- The values that a field may have. -/
def exactly (wildcarded : Bool) (value : Value) : Set Value :=
  {other | wildcarded = true ∨ value = other}

/-- The words that agree with a word but for the masked bits. -/
def masked (mask word : BitVec width) : Set (BitVec width) :=
  {other | ~~~mask &&& (word ^^^ other) = 0}

theorem exactly_subset_iff {domain : Set Value}
    (several : domain.Nontrivial) {generalWild specialWild : Bool}
    {general special : Value} (inDomain : special ∈ domain) :
    domain ∩ exactly specialWild special ⊆
        domain ∩ exactly generalWild general ↔
      generalWild = true ∨ specialWild = false ∧ general = special := by
  constructor
  · intro covers
    have own : special ∈ domain ∩ exactly specialWild special :=
      ⟨inDomain, Or.inr rfl⟩
    rcases (covers own).2 with wild | same
    · exact Or.inl wild
    cases wild : specialWild with
    | false => exact Or.inr ⟨rfl, same⟩
    | true =>
        obtain ⟨other, otherInDomain, different⟩ := several.exists_ne special
        have accepted : other ∈ domain ∩ exactly specialWild special :=
          ⟨otherInDomain, Or.inl wild⟩
        rcases (covers accepted).2 with generalWild | equality
        · exact Or.inl generalWild
        · exact absurd (equality.symm.trans same) different
  · intro tests other member
    obtain ⟨otherInDomain, accepted⟩ := member
    refine ⟨otherInDomain, ?_⟩
    rcases tests with wild | ⟨compared, same⟩
    · exact Or.inl wild
    · rcases accepted with wild | equality
      · simp [compared] at wild
      · exact Or.inr (same.trans equality)

theorem mem_masked_iff {mask word other : BitVec width} :
    other ∈ masked mask word ↔
      ∀ index, index < width → mask.getLsbD index = false →
        word.getLsbD index = other.getLsbD index := by
  rw [masked, Set.mem_ofPred_eq, BitVec.eq_of_getLsbD_eq_iff]
  apply forall_congr'
  intro index
  apply imp_congr_right
  intro inside
  simp [inside]

theorem self_mem_masked (mask word : BitVec width) : word ∈ masked mask word :=
  mem_masked_iff.mpr (fun _ _ _ => rfl)

/-- Every bit that one test compares, the other compares with the same
value. -/
theorem masked_subset_iff
    {generalMask specialMask general special : BitVec width} :
    masked specialMask special ⊆ masked generalMask general ↔
      ∀ index, index < width → generalMask.getLsbD index = false →
        specialMask.getLsbD index = false ∧
          general.getLsbD index = special.getLsbD index := by
  constructor
  · intro covers index inside compared
    have own := mem_masked_iff.mp (covers (self_mem_masked _ special)) index
      inside compared
    refine ⟨?_, own⟩
    cases bit : specialMask.getLsbD index with
    | false => rfl
    | true =>
        -- a word that differs in the masked bit only
        have flipped : special ^^^ BitVec.twoPow width index ∈
            masked specialMask special := by
          rw [mem_masked_iff]
          intro place _ unmasked
          have different : index ≠ place := by
            intro same
            rw [← same, bit] at unmasked
            exact Bool.noConfusion unmasked
          simp [BitVec.getLsbD_twoPow, different]
        have same := mem_masked_iff.mp (covers flipped) index inside compared
        rw [own, BitVec.getLsbD_xor, BitVec.getLsbD_twoPow] at same
        simp [inside] at same
  · intro bits other accepted
    rw [mem_masked_iff] at accepted ⊢
    intro index inside compared
    obtain ⟨specialCompared, same⟩ := bits index inside compared
    exact same.trans (accepted index inside specialCompared)

theorem masked_subset_iff_formula
    {generalMask specialMask general special : BitVec width} :
    masked specialMask special ⊆ masked generalMask general ↔
      ~~~generalMask &&& (~~~general ||| ~~~special ||| specialMask) &&&
        (general ||| special ||| specialMask) = 0 := by
  rw [masked_subset_iff, BitVec.eq_of_getLsbD_eq_iff]
  apply forall_congr'
  intro index
  apply imp_congr_right
  intro inside
  simp only [BitVec.getLsbD_and, BitVec.getLsbD_or, BitVec.getLsbD_not, inside]
  cases generalMask.getLsbD index <;> cases specialMask.getLsbD index <;>
    cases general.getLsbD index <;> cases special.getLsbD index <;> simp

end FieldTests
