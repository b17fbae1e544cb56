import Mathlib.Data.List.Induction

/-!
# The latest entries of a map

A map that is filled one entry after the other keeps the latest entry of each
key.  `latest` lists what it keeps, the newest entry first.
-/

namespace LatestByKey

variable {α κ : Type*} [DecidableEq κ] (key : α → κ)

/-- An entry takes the place of the one with its key. -/
def insert (entries : List α) (entry : α) : List α :=
  entry :: entries.filter (fun other => key other ≠ key entry)

/-- What is left of a sequence of insertions. -/
def latest (history : List α) : List α := history.foldl (insert key) []

variable {key}

theorem latest_snoc (history : List α) (entry : α) :
    latest key (history ++ [entry]) =
      insert key (latest key history) entry := by
  rw [latest, List.foldl_append]
  rfl

theorem latest_distinct (history : List α) :
    (latest key history).Pairwise (fun left right => key left ≠ key right) := by
  induction history using List.reverseRecOn with
  | nil => exact List.Pairwise.nil
  | append_singleton history entry induction =>
      rw [latest_snoc, insert, List.pairwise_cons]
      refine ⟨?_, induction.sublist List.filter_sublist⟩
      intro other member
      have differs := (List.mem_filter.mp member).2
      exact (of_decide_eq_true differs).symm

theorem mem_of_mem_latest {history : List α} {entry : α}
    (member : entry ∈ latest key history) : entry ∈ history := by
  induction history using List.reverseRecOn with
  | nil => exact member
  | append_singleton history last induction =>
      rw [latest_snoc] at member
      rcases List.mem_cons.mp member with rfl | earlier
      · exact List.mem_append_right history (List.mem_singleton_self entry)
      · exact List.mem_append_left _ (induction (List.mem_filter.mp earlier).1)

theorem filter_latest (history : List α) (value : κ) :
    (latest key history).filter (fun entry => key entry = value) =
      (history.reverse.find? (fun entry => key entry = value)).toList := by
  induction history using List.reverseRecOn with
  | nil => rfl
  | append_singleton history last induction =>
      rw [latest_snoc, insert, List.reverse_append, List.reverse_singleton,
        List.singleton_append]
      by_cases same : key last = value
      · have others : (((latest key history).filter
            (fun other => key other ≠ key last)).filter
              (fun entry => key entry = value)) = [] := by
          rw [List.filter_filter, List.filter_eq_nil_iff]
          intro entry _
          simp [same]
        rw [List.filter_cons_of_pos (by simp [same]), others,
          List.find?_cons_of_pos (by simp [same])]
        rfl
      · have others : (((latest key history).filter
            (fun other => key other ≠ key last)).filter
              (fun entry => key entry = value)) =
            (latest key history).filter (fun entry => key entry = value) := by
          rw [List.filter_filter]
          apply List.filter_congr
          intro entry _
          by_cases value : key entry = value
          · simp [value, Ne.symm same]
          · simp [value]
        rw [List.filter_cons_of_neg (by simp [same]), others, induction,
          List.find?_cons_of_neg (by simp [same])]

/-- Where the first entry that meets a condition is the one of the key, it is
all that an insertion takes away. -/
theorem eraseP_eq_filter {entries : List α} {condition : α → Bool} {value : κ}
    (distinct : entries.Pairwise (fun left right => key left ≠ key right))
    (sameKey : ∀ entry ∈ entries, key entry = value → condition entry = true)
    (first : ∀ found, entries.find? condition = some found →
      key found = value) :
    entries.eraseP condition =
      entries.filter (fun entry => key entry ≠ value) := by
  induction entries with
  | nil => rfl
  | cons entry entries induction =>
      obtain ⟨differs, restDistinct⟩ := List.pairwise_cons.mp distinct
      by_cases meets : condition entry = true
      · have same := first entry (List.find?_cons_of_pos meets)
        have others : ∀ other ∈ entries, key other ≠ value := by
          intro other member equal
          exact differs other member (same.trans equal.symm)
        rw [List.eraseP_cons_of_pos meets,
          List.filter_cons_of_neg (by simp [same])]
        symm
        rw [List.filter_eq_self]
        intro other member
        exact decide_eq_true (others other member)
      · have differ : key entry ≠ value := by
          intro same
          exact meets (sameKey entry List.mem_cons_self same)
        rw [List.eraseP_cons_of_neg meets,
          List.filter_cons_of_pos (by simp [differ]),
          induction restDistinct
            (fun other member =>
              sameKey other (List.mem_cons_of_mem entry member))]
        intro found later
        apply first found
        rw [List.find?_cons_of_neg meets]
        exact later

omit [DecidableEq κ] in
theorem not_mem_eraseP {entries : List α} {condition : α → Bool} {found : α}
    (distinct : entries.Pairwise (fun left right => key left ≠ key right))
    (first : entries.find? condition = some found) :
    found ∉ entries.eraseP condition := by
  intro member
  obtain ⟨meets, before, after, rfl, fails⟩ :=
    List.find?_eq_some_iff_append.mp first
  have erased : (before ++ found :: after).eraseP condition =
      before ++ after := by
    rw [List.eraseP_append_right _ (fun other earlier => by
      simpa using fails other earlier), List.eraseP_cons_of_pos meets]
  obtain ⟨_, rest, across⟩ := List.pairwise_append.mp distinct
  rw [erased] at member
  rcases List.mem_append.mp member with earlier | later
  · exact across found earlier found List.mem_cons_self rfl
  · exact List.rel_of_pairwise_cons rest later rfl

end LatestByKey
