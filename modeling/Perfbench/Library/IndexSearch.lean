import Mathlib.Data.List.Basic

/-!
# Linear searches with a machine index

Two loops over an index that wraps at `modulus`: `searchDown` tests an index,
moves one down and gives up at zero; `searchUp` tests an index, moves one up
and gives up beyond the last one, counting its moves.  Both take fuel; the
lemmas say how much is enough and what the search then returns.
-/

namespace IndexSearch

variable (modulus : Nat) (hit : Nat → Bool)

/-- The index below, wrapping below zero. -/
def below (index : Nat) : Nat := (index + (modulus - 1)) % modulus

/-- Test, move one down, and give up on reaching zero before testing it. -/
def searchDown : Nat → Nat → Option Nat
  | 0, _ => none
  | fuel + 1, index =>
      if hit index then some index
      else if below modulus index = 0 then none
      else searchDown fuel (below modulus index)

/-- The indices that `searchDown` tests, in order. -/
def testedDown : Nat → Nat → List Nat
  | 0, _ => []
  | fuel + 1, index =>
      if hit index then [index]
      else if below modulus index = 0 then [index]
      else index :: testedDown fuel (below modulus index)

/-- Test, move one up, and give up on passing `last` before testing there;
`moves` counts the moves with the same wrap as the index. -/
def searchUp (last : Nat) : Nat → Nat → Nat → Option (Nat × Nat)
  | 0, _, _ => none
  | fuel + 1, index, moves =>
      if hit index then some (index, moves)
      else if last < (index + 1) % modulus then none
      else searchUp last fuel ((index + 1) % modulus) ((moves + 1) % modulus)

/-- The indices that `searchUp` tests, in order. -/
def testedUp (last : Nat) : Nat → Nat → List Nat
  | 0, _ => []
  | fuel + 1, index =>
      if hit index then [index]
      else if last < (index + 1) % modulus then [index]
      else index :: testedUp last fuel ((index + 1) % modulus)

variable {modulus hit}

theorem below_of_pos {index : Nat} (positive : 0 < index)
    (small : index < modulus) : below modulus index = index - 1 := by
  have split : index + (modulus - 1) = (index - 1) + modulus := by omega
  rw [below, split, Nat.add_mod_right]
  exact Nat.mod_eq_of_lt (by omega)

theorem below_zero (positive : 0 < modulus) :
    below modulus 0 = modulus - 1 := by
  rw [below, Nat.zero_add]
  exact Nat.mod_eq_of_lt (by omega)

theorem searchDown_some {fuel index result : Nat}
    (success : searchDown modulus hit fuel index = some result) :
    hit result = true ∧ result ∈ testedDown modulus hit fuel index := by
  induction fuel generalizing index with
  | zero => simp [searchDown] at success
  | succ fuel induction =>
      by_cases found : hit index = true
      · simp only [searchDown, found, if_true, Option.some.injEq] at success
        subst result
        simp [testedDown, found]
      · by_cases bottom : below modulus index = 0
        · simp [searchDown, found, bottom] at success
        · simp only [searchDown, found, bottom, if_false,
            Bool.false_eq_true] at success
          obtain ⟨isHit, member⟩ := induction success
          exact ⟨isHit, by simp [testedDown, found, bottom, member]⟩

theorem start_mem_testedDown (fuel index : Nat) :
    index ∈ testedDown modulus hit (fuel + 1) index := by
  simp only [testedDown]
  split <;> [skip; split] <;> simp

/-- From a positive index nothing is tested at zero or above the start. -/
theorem testedDown_range {fuel index tested : Nat}
    (positive : 0 < index) (small : index < modulus)
    (member : tested ∈ testedDown modulus hit fuel index) :
    0 < tested ∧ tested ≤ index := by
  induction fuel generalizing index with
  | zero => simp [testedDown] at member
  | succ fuel induction =>
      have lower := below_of_pos positive small
      by_cases found : hit index = true
      · simp only [testedDown, found, if_true, List.mem_singleton] at member
        omega
      · by_cases bottom : below modulus index = 0
        · simp only [testedDown, found, bottom, if_false, if_true,
            Bool.false_eq_true, List.mem_singleton] at member
          omega
        · simp only [testedDown, found, bottom, if_false, Bool.false_eq_true,
            List.mem_cons] at member
          rcases member with here | further
          · omega
          · have bounds := induction (by omega) (by omega) further
            omega

/-- With fuel for every index, a search from a positive index fails exactly
when nothing from one up to the start is a hit. -/
theorem searchDown_eq_none_iff {fuel index : Nat}
    (positive : 0 < index) (small : index < modulus) (enough : index ≤ fuel) :
    searchDown modulus hit fuel index = none ↔
      ∀ candidate, 0 < candidate → candidate ≤ index →
        hit candidate = false := by
  induction fuel generalizing index with
  | zero => omega
  | succ fuel induction =>
      have lower := below_of_pos positive small
      by_cases found : hit index = true
      · simp only [searchDown, found, if_true, reduceCtorEq, false_iff]
        intro noHit
        simp [noHit index positive (Nat.le_refl index)] at found
      · have missed : hit index = false := by simpa using found
        by_cases bottom : index = 1
        · subst index
          simp only [searchDown, missed, lower, Bool.false_eq_true, if_false,
            if_true, true_iff]
          intro candidate candidatePositive candidateLe
          have : candidate = 1 := by omega
          simpa [this] using missed
        · have lowerPositive : below modulus index ≠ 0 := by omega
          simp only [searchDown, missed, lowerPositive, Bool.false_eq_true,
            if_false]
          rw [induction (by omega) (by omega) (by omega)]
          constructor
          · intro noHit candidate candidatePositive candidateLe
            by_cases top : candidate = index
            · simpa [top] using missed
            · exact noHit candidate candidatePositive (by omega)
          · intro noHit candidate candidatePositive candidateLe
            exact noHit candidate candidatePositive (by omega)

/-- A search from a positive index returns the highest hit at or below it. -/
theorem searchDown_eq_some {fuel index result : Nat}
    (resultPositive : 0 < result) (resultLe : result ≤ index)
    (small : index < modulus) (enough : index ≤ fuel)
    (isHit : hit result = true)
    (highest : ∀ candidate, result < candidate → candidate ≤ index →
      hit candidate = false) :
    searchDown modulus hit fuel index = some result := by
  induction fuel generalizing index with
  | zero => omega
  | succ fuel induction =>
      have lower := below_of_pos (by omega) small
      by_cases same : result = index
      · subst result
        simp [searchDown, isHit]
      · have missed := highest index (by omega) (Nat.le_refl index)
        have lowerPositive : below modulus index ≠ 0 := by omega
        simp only [searchDown, missed, lowerPositive, Bool.false_eq_true,
          if_false]
        exact induction (by omega) (by omega) (by omega)
          (fun candidate above candidateLe =>
            highest candidate above (by omega))

/-- A search that starts at zero tests zero and then wraps to the top. -/
theorem searchDown_from_zero {fuel : Nat} (large : 1 < modulus) :
    searchDown modulus hit (fuel + 1) 0 =
      if hit 0 then some 0 else searchDown modulus hit fuel (modulus - 1) := by
  have lower : below modulus 0 = modulus - 1 := below_zero (by omega)
  have top : modulus - 1 ≠ 0 := by omega
  simp [searchDown, lower, top]

theorem searchUp_eq_none_iff_tested (last fuel index moves : Nat) :
    searchUp modulus hit last fuel index moves = none ↔
      ∀ tested ∈ testedUp modulus hit last fuel index,
        hit tested = false := by
  induction fuel generalizing index moves with
  | zero => simp [searchUp, testedUp]
  | succ fuel induction =>
      by_cases found : hit index = true
      · simp [searchUp, testedUp, found]
      · by_cases passed : last < (index + 1) % modulus
        · simp [searchUp, testedUp, found, passed]
        · simp [searchUp, testedUp, found, passed, induction]

/-- The indices that the search looks at are those it reaches by indices of at
most `last`. -/
theorem searchUp_eq_none_iff {last fuel index moves : Nat}
    (small : index < modulus) :
    searchUp modulus hit last fuel index moves = none ↔
      ∀ k < fuel, (∀ j < k, (index + j + 1) % modulus ≤ last) →
        hit ((index + k) % modulus) = false := by
  induction fuel generalizing index moves with
  | zero => simp [searchUp]
  | succ fuel induction =>
      have next : (index + 1) % modulus < modulus :=
        Nat.mod_lt _ (Nat.zero_lt_of_lt small)
      have shifted : ∀ k, ((index + 1) % modulus + k) % modulus =
          (index + (k + 1)) % modulus := by
        intro k
        rw [Nat.mod_add_mod, Nat.add_assoc, Nat.add_comm 1 k]
      have shiftedNext : ∀ j, ((index + 1) % modulus + j + 1) % modulus =
          (index + (j + 1) + 1) % modulus := fun j => shifted (j + 1)
      have here : (index + 0) % modulus = index := Nat.mod_eq_of_lt small
      cases found : hit index with
      | true =>
          simp only [searchUp, found, if_true, reduceCtorEq, false_iff]
          intro none
          have missed := none 0 (Nat.zero_lt_succ fuel)
            (fun j below => absurd below (Nat.not_lt_zero j))
          rw [here, found] at missed
          contradiction
      | false =>
          simp only [searchUp, found, Bool.false_eq_true, if_false]
          split
          · rename_i passed
            refine iff_of_true rfl ?_
            intro k _ reached
            cases k with
            | zero => rwa [here]
            | succ k =>
                have first := reached 0 (Nat.zero_lt_succ k)
                rw [Nat.add_zero] at first
                omega
          · rename_i notPassed
            rw [induction next]
            constructor
            · intro none k below reached
              cases k with
              | zero => rwa [here]
              | succ k =>
                  rw [← shifted]
                  refine none k (Nat.lt_of_succ_lt_succ below) ?_
                  intro j lower
                  rw [shiftedNext]
                  exact reached (j + 1) (Nat.succ_lt_succ lower)
            · intro none k below reached
              rw [shifted]
              refine none (k + 1) (Nat.succ_lt_succ below) ?_
              intro j lower
              cases j with
              | zero =>
                  rw [Nat.add_zero]
                  omega
              | succ j =>
                  rw [← shiftedNext]
                  exact reached j (Nat.lt_of_succ_lt_succ lower)

theorem searchUp_some {last fuel index moves result moved : Nat}
    (success : searchUp modulus hit last fuel index moves =
      some (result, moved)) :
    hit result = true ∧ result ∈ testedUp modulus hit last fuel index := by
  induction fuel generalizing index moves with
  | zero => simp [searchUp] at success
  | succ fuel induction =>
      by_cases found : hit index = true
      · simp only [searchUp, found, if_true, Option.some.injEq,
          Prod.mk.injEq] at success
        obtain ⟨rfl, -⟩ := success
        simp [testedUp, found]
      · by_cases passed : last < (index + 1) % modulus
        · simp [searchUp, found, passed] at success
        · simp only [searchUp, found, passed, if_false,
            Bool.false_eq_true] at success
          obtain ⟨isHit, member⟩ := induction success
          exact ⟨isHit, by simp [testedUp, found, passed, member]⟩

/-- Beyond its start the search tests only indices up to the last one. -/
theorem testedUp_range {last fuel index tested : Nat}
    (member : tested ∈ testedUp modulus hit last fuel index) :
    tested = index ∨ tested ≤ last := by
  induction fuel generalizing index with
  | zero => simp [testedUp] at member
  | succ fuel induction =>
      by_cases found : hit index = true
      · simp only [testedUp, found, if_true, List.mem_singleton] at member
        exact .inl member
      · by_cases passed : last < (index + 1) % modulus
        · simp only [testedUp, found, passed, if_true, if_false,
            Bool.false_eq_true, List.mem_singleton] at member
          exact .inl member
        · simp only [testedUp, found, passed, if_false, Bool.false_eq_true,
            List.mem_cons] at member
          rcases member with here | further
          · exact .inl here
          · rcases induction further with next | within
            · exact .inr (by omega)
            · exact .inr within

/-- A search whose first hit lies within reach returns it with the number of
moves made. -/
theorem searchUp_eq_some {last fuel index moves result : Nat}
    (resultGe : index ≤ result) (resultLe : result ≤ last)
    (small : last < modulus) (enough : result - index < fuel)
    (movesSmall : moves + (result - index) < modulus)
    (isHit : hit result = true)
    (first : ∀ candidate, index ≤ candidate → candidate < result →
      hit candidate = false) :
    searchUp modulus hit last fuel index moves =
      some (result, moves + (result - index)) := by
  induction fuel generalizing index moves with
  | zero => omega
  | succ fuel induction =>
      by_cases same : result = index
      · subst result
        simp [searchUp, isHit]
      · have missed := first index (Nat.le_refl index) (by omega)
        have higher : (index + 1) % modulus = index + 1 :=
          Nat.mod_eq_of_lt (by omega)
        have moved : (moves + 1) % modulus = moves + 1 :=
          Nat.mod_eq_of_lt (by omega)
        have within : ¬last < index + 1 := by omega
        simp only [searchUp, missed, higher, moved, within,
          Bool.false_eq_true, if_false]
        rw [induction (by omega) (by omega) (by omega)
          (fun candidate candidateGe candidateLt =>
            first candidate (by omega) candidateLt)]
        have total : moves + 1 + (result - (index + 1)) =
            moves + (result - index) := by omega
        rw [total]

theorem testedUp_length_le {last fuel index : Nat} (low : last + 1 < modulus)
    (small : index + 1 < modulus) :
    (testedUp modulus hit last fuel index).length ≤ modulus - index := by
  induction fuel generalizing index with
  | zero => exact Nat.zero_le _
  | succ fuel induction =>
      have higher : (index + 1) % modulus = index + 1 :=
        Nat.mod_eq_of_lt small
      rw [testedUp, higher]
      split
      · rw [List.length_singleton]
        omega
      · split
        · rw [List.length_singleton]
          omega
        · have rest := induction (show index + 1 + 1 < modulus by omega)
          rw [List.length_cons]
          omega

/-- No index is above the top, so without a hit there is always a next one. -/
theorem testedUp_length_of_top {fuel index : Nat} (positive : 0 < modulus)
    (small : index < modulus)
    (missed : ∀ candidate < modulus, hit candidate = false) :
    (testedUp modulus hit (modulus - 1) fuel index).length = fuel := by
  induction fuel generalizing index with
  | zero => rfl
  | succ fuel induction =>
      have next : (index + 1) % modulus < modulus := Nat.mod_lt _ positive
      have within : ¬modulus - 1 < (index + 1) % modulus := by omega
      rw [testedUp, missed index small, if_neg Bool.false_ne_true,
        if_neg within, List.length_cons, induction next]

end IndexSearch
