import AtomicKv.Proofs.FrameCut
import AtomicKv.Stream.Source

/-!
# What is read off a stream

A steady source gives its bytes however it portions them: reading asks for a number of bytes and
gets them from the front, or takes all there are and meets the ending (`fill_eq`). One frame
is therefore read exactly when a whole frame is in front, and which fault stops the reading
depends on the bytes in front and on the ending only.
-/
namespace AtomicKv

/-- The fault of a reader that asks for bytes past the end. -/
def Ending.cause : Ending → Fault
  | .finished => .endOfStream
  | .fault f => f

namespace Source

/-- A source after some reading: a rest of its bytes, the same otherwise but for the progress
of its reads. -/
structure Leaves (s : Source) (rest : Bytes) (t : Source) : Prop where
  rest_eq : t.rest = rest
  ending_eq : t.ending = s.ending
  pacing_eq : t.pacing = s.pacing

theorem Leaves.trans {s t u : Source} {rest rest' : Bytes} (h : s.Leaves rest t)
    (h' : t.Leaves rest' u) : s.Leaves rest' u where
  rest_eq := h'.rest_eq
  ending_eq := h'.ending_eq.trans h.ending_eq
  pacing_eq := h'.pacing_eq.trans h.pacing_eq

theorem Leaves.steady {s t : Source} {rest : Bytes} (h : s.Leaves rest t)
    (steady : s.pacing.Steady) : t.pacing.Steady := by
  rw [h.pacing_eq]
  exact steady

theorem leaves_of_read {s t : Source} {room : Nat} {arrival : Arrival}
    (h : s.read room = (arrival, t)) : s.Leaves t.rest t := by
  have same : t.ending = s.ending ∧ t.pacing = s.pacing := by
    have second : t = (s.read room).2 := by rw [h]
    subst second
    unfold read
    split
    · exact ⟨rfl, rfl⟩
    · dsimp only
      split
      · exact ⟨rfl, rfl⟩
      · split <;> exact ⟨rfl, rfl⟩
  exact ⟨rfl, same.1, same.2⟩

/-- What is read when `want` bytes are asked for: as many from the front, if there are so
many. -/
def filled (s : Source) (want : Nat) (found : Bytes) : Except Fault Bytes :=
  if want ≤ s.rest.length then .ok (found.reverse ++ s.rest.take want) else .error s.ending.cause

/-- A read that meets the ending was asked for more bytes than there are. -/
theorem filled_of_ending {s t : Source} {want : Nat} {e : Ending} (ask : want ≠ 0)
    (steady : s.pacing.Steady) (hread : s.read want = (.ending e, t)) :
    (∀ found, s.filled want found = .error e.cause) ∧ s.Leaves (s.rest.drop want) t := by
  obtain ⟨empty, ending, none_left⟩ := exhausted_of_ending (Nat.pos_of_ne_zero ask) steady hread
  have left := leaves_of_read hread
  rw [none_left] at left
  refine ⟨fun found => ?_, ?_⟩
  · rw [filled, if_neg (by rw [empty, List.length_nil]; omega), ending]
  · rw [empty, List.drop_nil]
    exact left

/-- However a steady source portions its bytes, reading takes what is asked for from the front,
or takes everything. -/
theorem fill_eq {s : Source} (steady : s.pacing.Steady) (want : Nat) (found : Bytes) :
    ∃ t, s.fill want found = (s.filled want found, t) ∧ s.Leaves (s.rest.drop want) t := by
  fun_induction fill s want found with
  | case1 s found =>
    exact ⟨s, by simp [filled], rfl, rfl, rfl⟩
  | case2 s want found ask u hread ih =>
    have left := leaves_of_read hread
    have same := (pending_of_interrupted hread).2
    obtain ⟨t, filled_eq, left'⟩ := ih (left.steady steady)
    refine ⟨t, ?_, ?_⟩
    · rw [filled_eq, filled, filled, same, left.ending_eq]
    · rw [← same]
      exact left.trans left'
  | case3 s want found ask part u hread ih =>
    have left := leaves_of_read hread
    obtain ⟨-, most, split⟩ := data_of_read hread
    obtain ⟨t, filled_eq, left'⟩ := ih (left.steady steady)
    -- the bytes of this read and those of the later ones are the front of the stream together
    have length : s.rest.length = part.length + u.rest.length := by
      rw [split, List.length_append]
    refine ⟨t, ?_, ?_⟩
    · have reversed : (part.reverseAux found).reverse = found.reverse ++ part := by
        simp [List.reverseAux_eq]
      have front : s.rest.take want = part ++ u.rest.take (want - part.length) := by
        rw [split, List.take_append, List.take_of_length_le most]
      rw [filled_eq, filled, filled, reversed, front, left.ending_eq, List.append_assoc]
      by_cases enough : want ≤ s.rest.length
      · rw [if_pos enough, if_pos (by omega)]
      · rw [if_neg enough, if_neg (by omega)]
    · have behind : s.rest.drop want = u.rest.drop (want - part.length) := by
        rw [split, List.drop_append, List.drop_of_length_le most, List.nil_append]
      rw [behind]
      exact left.trans left'
  | case4 s want found ask t hread =>
    obtain ⟨short, left⟩ := filled_of_ending ask steady hread
    exact ⟨t, by rw [short found]; rfl, left⟩
  | case5 s want found ask f t hread =>
    obtain ⟨short, left⟩ := filled_of_ending ask steady hread
    exact ⟨t, by rw [short found]; rfl, left⟩

/-- A frame is read as its header and as many bytes as that announces, within the limit. -/
theorem readFrame_of_within {s : Source} (steady : s.pacing.Steady)
    (header : Frame.headerSize ≤ s.rest.length)
    (within : Frame.announced s.rest ≤ Frame.maxPayload) :
    ∃ t, s.readFrame = (s.filled (Frame.headerSize + Frame.announced s.rest) [], t) ∧
      s.Leaves (s.rest.drop (Frame.headerSize + Frame.announced s.rest)) t := by
  have same := Frame.announced_take (Nat.le_refl Frame.headerSize) header
  obtain ⟨t, first, left⟩ := fill_eq steady Frame.headerSize []
  obtain ⟨u, second, left'⟩ := fill_eq (left.steady steady) (Frame.announced s.rest) []
  have length : t.rest.length = s.rest.length - Frame.headerSize := by
    rw [left.rest_eq, List.length_drop]
  rw [filled, if_pos header, List.reverse_nil, List.nil_append] at first
  rw [left.rest_eq, List.drop_drop] at left'
  refine ⟨u, ?_, left.trans left'⟩
  unfold readFrame
  simp only [first, same, if_neg (Nat.not_lt.mpr within), second]
  unfold filled
  by_cases enough : Frame.announced s.rest ≤ t.rest.length
  · rw [if_pos enough, if_pos (by omega), left.rest_eq]
    simp only [List.reverse_nil, List.nil_append, List.take_add]
  · rw [if_neg enough, if_neg (by omega), left.ending_eq]

/-- A frame is read as soon as a whole one is in front, and no byte behind it is touched. -/
theorem readFrame_of_whole {s : Source} {frame rest : Bytes} (steady : s.pacing.Steady)
    (whole : Frame.Whole frame) (front : s.rest = frame ++ rest) :
    ∃ t, s.readFrame = (.ok frame, t) ∧ s.Leaves rest t := by
  have announced : Frame.announced s.rest = Frame.announced frame := by
    rw [front, Frame.announced_append whole.header_le]
  have long : frame.length ≤ s.rest.length := by
    rw [front, List.length_append]
    exact Nat.le_add_right _ _
  have header := Nat.le_trans whole.header_le long
  obtain ⟨t, read, left⟩ := readFrame_of_within steady header (announced ▸ whole.within)
  rw [announced, ← whole.length_eq] at read left
  rw [filled, if_pos long, List.reverse_nil, List.nil_append, front, List.take_left] at read
  rw [front, List.drop_left] at left
  exact ⟨t, read, left⟩

/-- With too few bytes for a frame, all are taken and the ending is met. -/
theorem readFrame_of_incomplete {s : Source} (steady : s.pacing.Steady)
    (few : Frame.Incomplete s.rest) :
    ∃ t, s.readFrame = (.error s.ending.cause, t) ∧ s.Leaves [] t := by
  by_cases header : Frame.headerSize ≤ s.rest.length
  · obtain ⟨within, short⟩ := few.resolve_left (Nat.not_lt.mpr header)
    obtain ⟨t, read, left⟩ := readFrame_of_within steady header within
    rw [filled, if_neg (Nat.not_le.mpr short)] at read
    rw [List.drop_of_length_le (Nat.le_of_lt short)] at left
    exact ⟨t, read, left⟩
  · obtain ⟨t, read, left⟩ := fill_eq steady Frame.headerSize []
    rw [filled, if_neg header] at read
    rw [List.drop_of_length_le (Nat.le_of_not_le header)] at left
    refine ⟨t, ?_, left⟩
    rw [readFrame, read]

/-- A header past the limit is all that is taken. -/
theorem readFrame_of_oversized {s : Source} (steady : s.pacing.Steady)
    (many : Frame.Oversized s.rest) :
    ∃ t, s.readFrame =
        (.error ⟨.invalidData, Frame.tooLargeMessage (Frame.announced s.rest)⟩, t) ∧
      s.Leaves (s.rest.drop Frame.headerSize) t := by
  obtain ⟨header, past⟩ := many
  have same := Frame.announced_take (Nat.le_refl Frame.headerSize) header
  obtain ⟨t, read, left⟩ := fill_eq steady Frame.headerSize []
  rw [filled, if_pos header, List.reverse_nil, List.nil_append] at read
  refine ⟨t, ?_, left⟩
  unfold readFrame
  simp only [read, same, if_pos past]

end Source
end AtomicKv
