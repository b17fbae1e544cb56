import Perfbench.Library.SearchTree

/-!
# Searching a list that was sorted by rank

A stable sort puts the elements of lowest rank first, and among those the ones
that came first.  So a search through the sorted list finds an element that a
look at the unsorted list can tell.
-/

namespace RankedList

variable {α : Type*} {rank : α → Nat} {condition : α → Bool}

/-- The first element of lowest rank among those that meet a condition. -/
def FirstLowest (rank : α → Nat) (condition : α → Bool) (list : List α)
    (found : α) : Prop :=
  ∃ before after, list = before ++ found :: after ∧
    condition found = true ∧
      (∀ other ∈ before, condition other = true → rank found < rank other) ∧
        ∀ other ∈ after, condition other = true → rank found ≤ rank other

theorem FirstLowest.lowest {list : List α} {found other : α}
    (first : FirstLowest rank condition list found) (member : other ∈ list)
    (meets : condition other = true) : rank found ≤ rank other := by
  obtain ⟨before, after, rfl, _, earlier, later⟩ := first
  rcases List.mem_append.mp member with inBefore | rest
  · exact Nat.le_of_lt (earlier other inBefore meets)
  · rcases List.mem_cons.mp rest with rfl | inAfter
    · exact Nat.le_refl _
    · exact later other inAfter meets

theorem find?_orderedInsert {element : α} {list : List α}
    (sorted : list.Pairwise (RankLE rank)) :
    (list.orderedInsert (RankLE rank) element).find? condition =
      match list.find? condition with
      | none => if condition element then some element else none
      | some other =>
          if condition element = true ∧ rank element ≤ rank other then
            some element
          else some other := by
  induction list with
  | nil =>
      cases meets : condition element with
      | false => simp [meets]
      | true => simp [meets]
  | cons first rest induction =>
      by_cases less : RankLE rank element first
      · rw [List.orderedInsert_cons_of_le _ rest less, List.find?_cons]
        cases meets : condition element with
        | false =>
            cases (first :: rest).find? condition with
            | none => rfl
            | some other => simp
        | true =>
            cases found : (first :: rest).find? condition with
            | none => rfl
            | some other =>
                have member := List.mem_of_find?_eq_some found
                have below : rank element ≤ rank other := by
                  rcases List.mem_cons.mp member with rfl | later
                  · exact less
                  · exact Nat.le_trans less
                      (List.rel_of_pairwise_cons sorted later)
                simp [below]
      · rw [List.orderedInsert_of_not_le _ rest less, List.find?_cons,
          List.find?_cons]
        cases meets : condition first with
        | false => exact induction sorted.of_cons
        | true =>
            have greater : ¬rank element ≤ rank first := less
            simp [greater]

theorem find?_insertionSort_eq_some_iff {list : List α} {found : α} :
    (list.insertionSort (RankLE rank)).find? condition = some found ↔
      FirstLowest rank condition list found := by
  induction list generalizing found with
  | nil => simp [FirstLowest]
  | cons first rest induction =>
      rw [List.insertionSort_cons,
        find?_orderedInsert (List.pairwise_insertionSort _ rest)]
      constructor
      · intro result
        cases search : (rest.insertionSort (RankLE rank)).find? condition with
        | none =>
            rw [search] at result
            simp only [Option.ite_none_right_eq_some, Option.some.injEq]
              at result
            obtain ⟨meets, rfl⟩ := result
            refine ⟨[], rest, rfl, meets, by simp, ?_⟩
            intro other member otherMeets
            have inSorted : other ∈ rest.insertionSort (RankLE rank) :=
              (List.mem_insertionSort _).mpr member
            exact absurd otherMeets (List.find?_eq_none.mp search other inSorted)
        | some other =>
            have lowest := induction.mp search
            rw [search] at result
            simp only at result
            split at result
            · rename_i taken
              cases result
              refine ⟨[], rest, rfl, taken.1, by simp, ?_⟩
              intro later member meets
              exact Nat.le_trans taken.2 (lowest.lowest member meets)
            · rename_i kept
              cases result
              obtain ⟨before, after, equal, meets, earlier, later⟩ := lowest
              refine ⟨first :: before, after, by rw [equal]; rfl, meets, ?_,
                later⟩
              intro earlierOther member earlierMeets
              rcases List.mem_cons.mp member with rfl | inBefore
              · exact Nat.lt_of_not_le (fun le => kept ⟨earlierMeets, le⟩)
              · exact earlier earlierOther inBefore earlierMeets
      · intro lowest
        obtain ⟨before, after, equal, meets, earlier, later⟩ := lowest
        cases before with
        | nil =>
            obtain ⟨rfl, rfl⟩ := List.cons.inj equal
            cases search : (rest.insertionSort (RankLE rank)).find?
                condition with
            | none => simp [meets]
            | some other =>
                obtain ⟨_, _, _, otherMeets, _, _⟩ := induction.mp search
                have member : other ∈ rest :=
                  (List.mem_insertionSort _).mp
                    (List.mem_of_find?_eq_some search)
                simp [meets, later other member otherMeets]
        | cons head before =>
            obtain ⟨rfl, rfl⟩ := List.cons.inj equal
            have search := induction.mpr ⟨before, after, rfl, meets,
              fun other member => earlier other (List.mem_cons_of_mem _ member),
              later⟩
            rw [search]
            simp only
            have notTaken : ¬(condition first = true ∧
                rank first ≤ rank found) := by
              intro taken
              have above := earlier first List.mem_cons_self taken.1
              omega
            rw [if_neg notTaken]

theorem filter_orderedInsert {element : α} {list : List α}
    (sorted : list.Pairwise (RankLE rank)) :
    (list.orderedInsert (RankLE rank) element).filter condition =
      if condition element then
        (list.filter condition).orderedInsert (RankLE rank) element
      else list.filter condition := by
  induction list with
  | nil =>
      cases meets : condition element with
      | false => simp [meets]
      | true => simp [meets]
  | cons first rest induction =>
      by_cases less : RankLE rank element first
      · rw [List.orderedInsert_cons_of_le _ rest less, List.filter_cons]
        cases meets : condition element with
        | false => rfl
        | true =>
            have front : ((first :: rest).filter condition).orderedInsert
                (RankLE rank) element =
                  element :: (first :: rest).filter condition := by
              cases kept : (first :: rest).filter condition with
              | nil => rfl
              | cons head tail =>
                  apply List.orderedInsert_cons_of_le
                  have member : head ∈ first :: rest := by
                    apply List.mem_of_mem_filter
                    rw [kept]
                    exact List.mem_cons_self
                  rcases List.mem_cons.mp member with rfl | later
                  · exact less
                  · exact Nat.le_trans less
                      (List.rel_of_pairwise_cons sorted later)
            simp [front]
      · rw [List.orderedInsert_of_not_le _ rest less, List.filter_cons,
          List.filter_cons, induction sorted.of_cons]
        cases condition first with
        | false => rfl
        | true =>
            cases condition element with
            | false => rfl
            | true =>
                simp only [if_true]
                rw [List.orderedInsert_of_not_le _ _ less]

theorem filter_insertionSort (list : List α) :
    (list.insertionSort (RankLE rank)).filter condition =
      (list.filter condition).insertionSort (RankLE rank) := by
  induction list with
  | nil => rfl
  | cons first rest induction =>
      rw [List.insertionSort_cons,
        filter_orderedInsert (List.pairwise_insertionSort _ rest), induction,
        List.filter_cons]
      cases condition first with
      | false => rfl
      | true => simp

end RankedList
