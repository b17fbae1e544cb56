import Mathlib.Data.List.Basic

/-!
# Splitting a stream into frames

A frame starts with a header of fixed length, which says how long the whole
frame is.  `split` cuts a stream into its complete frames and the unfinished
rest.  The stream may arrive in parts: what is already split off is never
joined again.
-/

/-- The frames of a protocol; the size is read from the header alone. -/
structure FrameFormat (α : Type*) where
  header : Nat
  header_pos : 0 < header
  size : List α → Nat
  size_append : ∀ stream rest, header ≤ stream.length →
    size (stream ++ rest) = size stream

namespace FrameFormat

variable {α : Type*} (format : FrameFormat α)

/-- A stream that starts with a complete frame. -/
def Complete (stream : List α) : Prop :=
  format.header ≤ format.size stream ∧ format.header ≤ stream.length ∧
    format.size stream ≤ stream.length

/-- A stream whose header asks for less than itself. -/
def Undersized (stream : List α) : Prop :=
  format.header ≤ stream.length ∧ format.size stream < format.header

/-- One frame and nothing else. -/
def Frame (stream : List α) : Prop :=
  format.header ≤ stream.length ∧ format.size stream = stream.length

instance (stream : List α) : Decidable (format.Complete stream) :=
  inferInstanceAs (Decidable (_ ∧ _ ∧ _))

instance (stream : List α) : Decidable (format.Undersized stream) :=
  inferInstanceAs (Decidable (_ ∧ _))

instance (stream : List α) : Decidable (format.Frame stream) :=
  inferInstanceAs (Decidable (_ ∧ _))

/-- The complete frames at the front of a stream, and what follows them. -/
def split (stream : List α) : List (List α) × List α :=
  if _ : format.Complete stream then
    let rest := split (stream.drop (format.size stream))
    (stream.take (format.size stream) :: rest.1, rest.2)
  else ([], stream)
termination_by stream.length
decreasing_by
  rename_i complete
  obtain ⟨sized, _, inside⟩ := complete
  have positive := format.header_pos
  rw [List.length_drop]
  omega

/-- The frames of a stream up to the first undersized header, if there is
one. -/
def Framed (stream : List α) : Prop :=
  ¬format.Undersized (format.split stream).2

variable {format}

theorem split_of_not_complete {stream : List α}
    (unfinished : ¬format.Complete stream) :
    format.split stream = ([], stream) := by
  rw [split, dif_neg unfinished]

theorem Frame.complete_append {frame : List α} (isFrame : format.Frame frame)
    (rest : List α) : format.Complete (frame ++ rest) := by
  obtain ⟨long, sized⟩ := isFrame
  have size := format.size_append frame rest long
  refine ⟨?_, ?_, ?_⟩
  · omega
  · rw [List.length_append]
    omega
  · rw [List.length_append]
    omega

theorem split_frame_append {frame : List α} (isFrame : format.Frame frame)
    (rest : List α) :
    format.split (frame ++ rest) =
      (frame :: (format.split rest).1, (format.split rest).2) := by
  have size : format.size (frame ++ rest) = frame.length := by
    rw [format.size_append frame rest isFrame.1, isFrame.2]
  rw [split, dif_pos (isFrame.complete_append rest), size,
    List.take_left, List.drop_left]

theorem Complete.frame {stream : List α} (complete : format.Complete stream) :
    format.Frame (stream.take (format.size stream)) := by
  obtain ⟨sized, long, inside⟩ := complete
  have length : (stream.take (format.size stream)).length =
      format.size stream := by
    rw [List.length_take]
    omega
  refine ⟨by omega, ?_⟩
  rw [length, ← format.size_append _ (stream.drop (format.size stream))
    (by omega), List.take_append_drop]

/-- A stream has no complete frame, or is a frame and a shorter stream. -/
theorem split_induction {motive : List α → Prop}
    (unfinished : ∀ stream, ¬format.Complete stream → motive stream)
    (frame : ∀ frame rest, format.Frame frame → motive rest →
      motive (frame ++ rest)) (stream : List α) : motive stream := by
  by_cases complete : format.Complete stream
  · rw [← List.take_append_drop (format.size stream) stream]
    exact frame _ _ complete.frame
      (split_induction unfinished frame (stream.drop (format.size stream)))
  · exact unfinished stream complete
termination_by stream.length
decreasing_by
  obtain ⟨sized, _, inside⟩ := complete
  have positive := format.header_pos
  rw [List.length_drop]
  omega

theorem split_flatten (stream : List α) :
    (format.split stream).1.flatten ++ (format.split stream).2 = stream := by
  induction stream using format.split_induction with
  | unfinished stream unfinished =>
      rw [split_of_not_complete unfinished]
      rfl
  | frame frame rest isFrame induction =>
      rw [split_frame_append isFrame, List.flatten_cons, List.append_assoc,
        induction]

theorem frame_of_mem_split {stream frame : List α}
    (member : frame ∈ (format.split stream).1) : format.Frame frame := by
  induction stream using format.split_induction with
  | unfinished stream unfinished =>
      rw [split_of_not_complete unfinished] at member
      exact absurd member List.not_mem_nil
  | frame first rest isFrame induction =>
      rw [split_frame_append isFrame] at member
      rcases List.mem_cons.mp member with rfl | later
      · exact isFrame
      · exact induction later

theorem split_rest_not_complete (stream : List α) :
    ¬format.Complete (format.split stream).2 := by
  induction stream using format.split_induction with
  | unfinished stream unfinished =>
      rw [split_of_not_complete unfinished]
      exact unfinished
  | frame frame rest isFrame induction =>
      rw [split_frame_append isFrame]
      exact induction

theorem split_append (stream later : List α) :
    format.split (stream ++ later) =
      ((format.split stream).1 ++
          (format.split ((format.split stream).2 ++ later)).1,
        (format.split ((format.split stream).2 ++ later)).2) := by
  induction stream using format.split_induction with
  | unfinished stream unfinished =>
      rw [split_of_not_complete unfinished]
      rfl
  | frame frame rest isFrame induction =>
      rw [List.append_assoc, split_frame_append isFrame, induction,
        split_frame_append isFrame]
      rfl

theorem split_nil : format.split [] = ([], []) := by
  apply split_of_not_complete
  intro complete
  have positive := format.header_pos
  have long := complete.2.1
  rw [List.length_nil] at long
  omega

theorem split_frames {frames : List (List α)}
    (areFrames : ∀ frame ∈ frames, format.Frame frame) (rest : List α) :
    format.split (frames.flatten ++ rest) =
      (frames ++ (format.split rest).1, (format.split rest).2) := by
  induction frames with
  | nil => rfl
  | cons frame frames induction =>
      rw [List.flatten_cons, List.append_assoc,
        split_frame_append (areFrames frame List.mem_cons_self),
        induction (fun other member =>
          areFrames other (List.mem_cons_of_mem frame member))]
      rfl

theorem framed_append_iff (stream later : List α) :
    format.Framed (stream ++ later) ↔
      format.Framed ((format.split stream).2 ++ later) := by
  rw [Framed, split_append, Framed]

theorem Undersized.not_framed {stream : List α}
    (undersized : format.Undersized stream) (later : List α) :
    ¬format.Framed (stream ++ later) := by
  have longer : format.Undersized (stream ++ later) := by
    refine ⟨?_, ?_⟩
    · rw [List.length_append]
      exact Nat.le_add_right_of_le undersized.1
    · rw [format.size_append stream later undersized.1]
      exact undersized.2
  have unfinished : ¬format.Complete (stream ++ later) := by
    intro complete
    exact absurd complete.1 (Nat.not_le.mpr longer.2)
  intro framed
  rw [Framed, split_of_not_complete unfinished] at framed
  exact framed longer

theorem framed_of_append {stream later : List α}
    (framed : format.Framed (stream ++ later)) : format.Framed stream := by
  intro undersized
  exact undersized.not_framed later ((framed_append_iff _ _).mp framed)

theorem framed_nil : format.Framed [] := by
  intro undersized
  rw [split_nil] at undersized
  have positive := format.header_pos
  have long := undersized.1
  rw [List.length_nil] at long
  omega

theorem split_flatten_frames {frames : List (List α)}
    (areFrames : ∀ frame ∈ frames, format.Frame frame) :
    format.split frames.flatten = (frames, []) := by
  have frameSplit := split_frames areFrames []
  rw [List.append_nil, split_nil, List.append_nil] at frameSplit
  exact frameSplit

theorem framed_of_prefix {frames : List (List α)}
    (areFrames : ∀ frame ∈ frames, format.Frame frame) {stream : List α}
    (isPrefix : stream <+: frames.flatten) : format.Framed stream := by
  obtain ⟨later, whole⟩ := isPrefix
  apply @framed_of_append _ _ stream later
  rw [whole, Framed, split_flatten_frames areFrames]
  intro undersized
  apply @framed_nil _ format
  rw [split_nil]
  exact undersized

theorem length_lt_of_split {tail later frame : List α}
    {future : List (List α)} (unfinished : ¬format.Complete tail)
    (split : (format.split (tail ++ later)).1 = frame :: future) :
    tail.length < frame.length := by
  have isFrame : format.Frame frame := by
    apply @frame_of_mem_split _ _ (tail ++ later)
    rw [split]
    exact List.mem_cons_self
  have stream := @split_flatten _ format (tail ++ later)
  rw [split, List.flatten_cons, List.append_assoc] at stream
  rcases Nat.lt_or_ge tail.length frame.length with shorter | longer
  · exact shorter
  · have isPrefix : frame <+: tail :=
      List.prefix_of_prefix_length_le ⟨_, stream⟩ (List.prefix_append _ _)
        longer
    obtain ⟨rest, rfl⟩ := isPrefix
    exact absurd (isFrame.complete_append rest) unfinished

/-- A beginning of a sequence of frames is split into the first of them and
less than the next one. -/
theorem split_prefix {frames : List (List α)}
    (areFrames : ∀ frame ∈ frames, format.Frame frame)
    {stream later : List α} (whole : stream ++ later = frames.flatten) :
    (format.split stream).1 <+: frames ∧
      ∀ frame, frames[(format.split stream).1.length]? = some frame →
        (format.split stream).2.length < frame.length := by
  have all := split_flatten_frames areFrames
  rw [← whole, split_append, Prod.mk.injEq] at all
  refine ⟨⟨_, all.1⟩, ?_⟩
  intro frame next
  rw [← all.1, List.getElem?_append_right (Nat.le_refl _), Nat.sub_self] at next
  cases split : (format.split ((format.split stream).2 ++ later)).1 with
  | nil =>
      rw [split] at next
      simp at next
  | cons first future =>
      rw [split, List.getElem?_cons_zero, Option.some.injEq] at next
      subst next
      exact length_lt_of_split (split_rest_not_complete stream) split

end FrameFormat
