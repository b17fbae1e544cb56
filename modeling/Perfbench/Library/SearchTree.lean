import Mathlib.Data.List.Sort

/-!
# Sets kept in a search tree

A set in a search tree is seen through the sequence of its elements, which
rotations do not change.  An insertion descends from the root to a free place
and refuses the element if the one before that place is not less.  With the
order of a rank that counts equal ranks as less nothing is ever refused, and a
new element comes before those of its own rank.
-/

/-- The order of a rank. -/
def RankLE {α : Type*} (rank : α → Nat) (left right : α) : Prop :=
  rank left ≤ rank right

instance {α : Type*} (rank : α → Nat) : DecidableRel (RankLE rank) :=
  fun left right => Nat.decLe (rank left) (rank right)

instance {α : Type*} (rank : α → Nat) : Std.Total (RankLE rank) where
  total left right := Nat.le_total (rank left) (rank right)

instance {α : Type*} (rank : α → Nat) : IsTrans α (RankLE rank) where
  trans _ _ _ := Nat.le_trans

inductive SearchTree (α : Type*) where
  | leaf
  | node (left : SearchTree α) (value : α) (right : SearchTree α)

namespace SearchTree

variable {α : Type*}

/-- The elements in the order of an iteration. -/
def toList : SearchTree α → List α
  | leaf => []
  | node left value right => left.toList ++ value :: right.toList

/-- The elements before and after the place where the descent ends: to the
left of a node that the new element is less than, else to the right. -/
def descend (less : α → α → Bool) (element : α) :
    SearchTree α → List α × List α
  | leaf => ([], [])
  | node left value right =>
      if less element value then
        let place := left.descend less element
        (place.1, place.2 ++ value :: right.toList)
      else
        let place := right.descend less element
        (left.toList ++ value :: place.1, place.2)

/-- The elements after an insertion. -/
def insertUnique (less : α → α → Bool) (element : α) (tree : SearchTree α) :
    List α :=
  let place := tree.descend less element
  match place.1.getLast? with
  | none => element :: place.2
  | some last =>
      if less last element then place.1 ++ element :: place.2 else tree.toList

variable {rank : α → Nat}

/-- The order of a rank as a comparison. -/
def rankLess (rank : α → Nat) (left right : α) : Bool :=
  decide (RankLE rank left right)

theorem descend_append (less : α → α → Bool) (element : α)
    (tree : SearchTree α) :
    (tree.descend less element).1 ++ (tree.descend less element).2 =
      tree.toList := by
  induction tree with
  | leaf => rfl
  | node left value right leftInduction rightInduction =>
      rw [descend, toList]
      split
      · simp only
        rw [← List.append_assoc, leftInduction]
      · simp only
        rw [List.append_assoc, List.cons_append, rightInduction]

/-- In a sorted tree the descent ends before the first element whose rank is
not below that of the new one. -/
theorem descend_ranks {element : α} {tree : SearchTree α}
    (sorted : tree.toList.Pairwise (RankLE rank)) :
    (∀ before ∈ (tree.descend (rankLess rank) element).1,
        rank before < rank element) ∧
      ∀ after ∈ (tree.descend (rankLess rank) element).2,
        rank element ≤ rank after := by
  induction tree with
  | leaf => simp [descend]
  | node left value right leftInduction rightInduction =>
      rw [toList, List.pairwise_append, List.pairwise_cons] at sorted
      obtain ⟨leftSorted, ⟨valueLe, rightSorted⟩, across⟩ := sorted
      by_cases less : RankLE rank element value
      · obtain ⟨before, after⟩ := leftInduction leftSorted
        simp only [descend, rankLess, less, decide_true, if_true]
        refine ⟨before, ?_⟩
        intro other member
        rcases List.mem_append.mp member with inLeft | rest
        · exact after other inLeft
        · rcases List.mem_cons.mp rest with rfl | inRight
          · exact less
          · exact Nat.le_trans less (valueLe other inRight)
      · obtain ⟨before, after⟩ := rightInduction rightSorted
        simp only [descend, rankLess, less, decide_false,
          Bool.false_eq_true, if_false]
        refine ⟨?_, after⟩
        intro other member
        have below := Nat.lt_of_not_le less
        rcases List.mem_append.mp member with inLeft | rest
        · have valueLater := across other inLeft value List.mem_cons_self
          exact Nat.lt_of_le_of_lt valueLater below
        · rcases List.mem_cons.mp rest with rfl | inRight
          · exact below
          · exact before other inRight

theorem orderedInsert_append {element : α} {before after : List α}
    (below : ∀ other ∈ before, rank other < rank element)
    (above : ∀ other ∈ after, rank element ≤ rank other) :
    (before ++ after).orderedInsert (RankLE rank) element =
      before ++ element :: after := by
  induction before with
  | nil =>
      cases after with
      | nil => rfl
      | cons first rest =>
          exact List.orderedInsert_cons_of_le _ rest
            (above first List.mem_cons_self)
  | cons first before induction =>
      have firstBelow : ¬RankLE rank element first :=
        Nat.not_le.mpr (below first List.mem_cons_self)
      rw [List.cons_append, List.orderedInsert_of_not_le _ _ firstBelow,
        induction (fun other member =>
          below other (List.mem_cons_of_mem first member)), List.cons_append]

/-- Whatever the shape of a sorted tree, the new element comes before those of
its own rank. -/
theorem insertUnique_eq {element : α} {tree : SearchTree α}
    (sorted : tree.toList.Pairwise (RankLE rank)) :
    tree.insertUnique (rankLess rank) element =
      tree.toList.orderedInsert (RankLE rank) element := by
  obtain ⟨below, above⟩ := @descend_ranks _ _ element _ sorted
  have ordered := orderedInsert_append below above
  rw [descend_append] at ordered
  rw [ordered, insertUnique]
  cases last : (tree.descend (rankLess rank) element).1.getLast? with
  | none =>
      rw [List.getLast?_eq_none_iff] at last
      simp only [last, List.nil_append]
  | some value =>
      have less : RankLE rank value element :=
        Nat.le_of_lt (below value (List.mem_of_getLast? last))
      simp only [rankLess, less, decide_true, if_true]

end SearchTree

namespace RankedList

variable {α : Type*} {rank : α → Nat}

/-- A condition that only elements of one rank meet. -/
def OfRank (rank : α → Nat) (value : Nat) (condition : α → Bool) : Prop :=
  ∀ element, condition element = true → rank element = value

theorem orderedInsert_of_sorted {element first : α} {rest : List α}
    (sorted : (first :: rest).Pairwise (RankLE rank))
    (less : RankLE rank element first) :
    rest.orderedInsert (RankLE rank) element = element :: rest := by
  cases rest with
  | nil => rfl
  | cons second rest =>
      apply List.orderedInsert_cons_of_le
      exact Nat.le_trans less
        (List.rel_of_pairwise_cons sorted List.mem_cons_self)

/-- Erasing the first element that meets a condition, and inserting one that
does not, may be done in either order. -/
theorem eraseP_orderedInsert {condition : α → Bool} {element : α}
    {list : List α} (fails : condition element = false)
    (sorted : list.Pairwise (RankLE rank)) :
    (list.orderedInsert (RankLE rank) element).eraseP condition =
      (list.eraseP condition).orderedInsert (RankLE rank) element := by
  induction list with
  | nil => simp [fails]
  | cons first rest induction =>
      by_cases less : RankLE rank element first
      · rw [List.orderedInsert_cons_of_le _ rest less,
          List.eraseP_cons_of_neg (by simp [fails])]
        cases meets : condition first with
        | true =>
            rw [List.eraseP_cons_of_pos meets,
              orderedInsert_of_sorted sorted less]
        | false =>
            rw [List.eraseP_cons_of_neg (by simp [meets]),
              List.orderedInsert_cons_of_le _ _ less]
      · rw [List.orderedInsert_of_not_le _ rest less]
        cases meets : condition first with
        | true =>
            rw [List.eraseP_cons_of_pos meets, List.eraseP_cons_of_pos meets]
        | false =>
            rw [List.eraseP_cons_of_neg (by simp [meets]),
              List.eraseP_cons_of_neg (by simp [meets]),
              List.orderedInsert_of_not_le _ _ less,
              induction sorted.of_cons]

/-- An element that meets the condition is erased again right after it was
inserted. -/
theorem eraseP_orderedInsert_self {value : Nat} {condition : α → Bool}
    {element : α} (ofRank : OfRank rank value condition)
    (meets : condition element = true) (list : List α) :
    (list.orderedInsert (RankLE rank) element).eraseP condition = list := by
  induction list with
  | nil => simp [meets]
  | cons first rest induction =>
      by_cases less : RankLE rank element first
      · rw [List.orderedInsert_cons_of_le _ rest less,
          List.eraseP_cons_of_pos meets]
      · have firstFails : condition first = false := by
          cases firstMeets : condition first with
          | false => rfl
          | true =>
              rw [RankLE, ofRank element meets, ofRank first firstMeets]
                at less
              exact absurd (Nat.le_refl value) less
        rw [List.orderedInsert_of_not_le _ rest less,
          List.eraseP_cons_of_neg (by simp [firstFails]), induction]

/-- Sorting by rank commutes with erasing the first element that meets the
condition. -/
theorem eraseP_insertionSort {value : Nat} {condition : α → Bool}
    (ofRank : OfRank rank value condition) (list : List α) :
    (list.insertionSort (RankLE rank)).eraseP condition =
      (list.eraseP condition).insertionSort (RankLE rank) := by
  induction list with
  | nil => rfl
  | cons first rest induction =>
      rw [List.insertionSort_cons]
      cases meets : condition first with
      | true =>
          rw [eraseP_orderedInsert_self ofRank meets,
            List.eraseP_cons_of_pos meets]
      | false =>
          rw [eraseP_orderedInsert meets (List.pairwise_insertionSort _ rest),
            List.eraseP_cons_of_neg (by simp [meets]), induction,
            List.insertionSort_cons]

end RankedList
