import AtomicKv.Proofs.FrameExact

/-!
# Cutting a byte string into frames

Where frames end is settled by the lengths that their headers announce, whatever else the
frames hold. A byte string is cut into whole frames and a rest that no further frame begins,
and there is one way to do so (`exists_cut`, `Cut.unique`). The rest has either too few bytes
yet or a header that announces too many.
-/
namespace AtomicKv.Frame

/-- A header and as many bytes as it announces, within the limit. -/
structure Whole (frame : Bytes) : Prop where
  within : announced frame ≤ maxPayload
  length_eq : frame.length = headerSize + announced frame

/-- Too few bytes for a frame, under a header within the limit or without a header. -/
def Incomplete (rest : Bytes) : Prop :=
  rest.length < headerSize ∨
    announced rest ≤ maxPayload ∧ rest.length < headerSize + announced rest

/-- A header past the limit. -/
def Oversized (rest : Bytes) : Prop :=
  headerSize ≤ rest.length ∧ maxPayload < announced rest

/-- The whole frames in front of a byte string and the rest behind them. -/
structure Cut (bs : Bytes) (frames : List Bytes) (rest : Bytes) : Prop where
  joined : bs = frames.flatten ++ rest
  whole : ∀ frame ∈ frames, Whole frame
  stuck : Incomplete rest ∨ Oversized rest

instance (frame : Bytes) : Decidable (Whole frame) :=
  decidable_of_iff (announced frame ≤ maxPayload ∧ frame.length = headerSize + announced frame)
    ⟨fun h => ⟨h.1, h.2⟩, fun h => ⟨h.within, h.length_eq⟩⟩

instance (rest : Bytes) : Decidable (Incomplete rest) :=
  inferInstanceAs (Decidable (_ ∨ _))

instance (rest : Bytes) : Decidable (Oversized rest) :=
  inferInstanceAs (Decidable (_ ∧ _))

/-- A header announces the same length whatever follows it. -/
theorem announced_append {front : Bytes} (header : headerSize ≤ front.length) (rest : Bytes) :
    announced (front ++ rest) = announced front := by
  unfold headerSize at header
  have digits : 4 ≤ (front.drop 1).length := by
    rw [List.length_drop]
    omega
  rw [announced, List.drop_append_of_le_length (by omega), List.take_append_of_le_length digits]
  rfl

theorem announced_take {n : Nat} {bs : Bytes} (header : headerSize ≤ n) (long : n ≤ bs.length) :
    announced (bs.take n) = announced bs := by
  have length : headerSize ≤ (bs.take n).length := by
    rw [List.length_take_of_le long]
    exact header
  rw [← announced_append length (bs.drop n), List.take_append_drop]

theorem Whole.header_le {frame : Bytes} (whole : Whole frame) : headerSize ≤ frame.length := by
  rw [whole.length_eq]
  exact Nat.le_add_right _ _

theorem not_oversized_of_incomplete {rest : Bytes} (few : Incomplete rest) : ¬ Oversized rest := by
  intro many
  obtain ⟨header, past⟩ := many
  cases few with
  | inl short => omega
  | inr short => omega

/-- A byte string that is not stuck begins with a whole frame. -/
theorem whole_take {bs : Bytes} (free : ¬ (Incomplete bs ∨ Oversized bs)) :
    Whole (bs.take (headerSize + announced bs)) ∧ headerSize + announced bs ≤ bs.length := by
  unfold Incomplete Oversized at free
  have long : headerSize + announced bs ≤ bs.length := by omega
  have same := announced_take (Nat.le_add_right headerSize (announced bs)) long
  refine ⟨⟨by rw [same]; omega, ?_⟩, long⟩
  rw [same, List.length_take_of_le long]

/-- Behind a whole frame a byte string is never stuck. -/
theorem Whole.free {frame : Bytes} (whole : Whole frame) (rest : Bytes) :
    ¬ (Incomplete (frame ++ rest) ∨ Oversized (frame ++ rest)) := by
  have same := announced_append whole.header_le rest
  have within := whole.within
  have length := whole.length_eq
  unfold Incomplete Oversized
  rw [same, List.length_append]
  omega

/-- Two whole frames in front of one byte string are one frame. -/
theorem Whole.append_inj {frame frame' rest rest' : Bytes} (whole : Whole frame)
    (whole' : Whole frame') (same : frame ++ rest = frame' ++ rest') :
    frame = frame' ∧ rest = rest' := by
  have lengths : announced frame = announced frame' := by
    rw [← announced_append whole.header_le rest, same, announced_append whole'.header_le]
  apply List.append_inj same
  rw [whole.length_eq, whole'.length_eq, lengths]

theorem Cut.cons {frame bs rest : Bytes} {frames : List Bytes} (whole : Whole frame)
    (cut : Cut bs frames rest) : Cut (frame ++ bs) (frame :: frames) rest where
  joined := by rw [cut.joined, List.flatten_cons, List.append_assoc]
  whole := List.forall_mem_cons.mpr ⟨whole, cut.whole⟩
  stuck := cut.stuck

/-- Whole frames in front are cut off before those behind them. -/
theorem Cut.behind {bs rest : Bytes} {frames frames' : List Bytes}
    (wholes : ∀ frame ∈ frames, Whole frame) (cut : Cut bs frames' rest) :
    Cut (frames.flatten ++ bs) (frames ++ frames') rest := by
  induction frames with
  | nil => exact cut
  | cons frame frames ih =>
    obtain ⟨whole, wholes'⟩ := List.forall_mem_cons.mp wholes
    rw [List.flatten_cons, List.append_assoc, List.cons_append]
    exact (ih wholes').cons whole

theorem Cut.append {bs bs' rest : Bytes} {frames frames' : List Bytes} (cut : Cut bs frames [])
    (cut' : Cut bs' frames' rest) : Cut (bs ++ bs') (frames ++ frames') rest := by
  rw [cut.joined, List.append_nil]
  exact cut'.behind cut.whole

/-- Behind its first frame, a cut byte string is cut in the same way. -/
theorem Cut.tail {bs frame rest : Bytes} {frames : List Bytes}
    (cut : Cut bs (frame :: frames) rest) :
    Whole frame ∧ ∃ bs', bs = frame ++ bs' ∧ Cut bs' frames rest := by
  obtain ⟨whole, wholes⟩ := List.forall_mem_cons.mp cut.whole
  refine ⟨whole, frames.flatten ++ rest, ?_, ⟨rfl, wholes, cut.stuck⟩⟩
  rw [cut.joined, List.flatten_cons, List.append_assoc]

theorem exists_cut (bs : Bytes) : ∃ frames rest, Cut bs frames rest := by
  induction bound : bs.length using Nat.strongRecOn generalizing bs with
  | ind n ih =>
    by_cases stuck : Incomplete bs ∨ Oversized bs
    · exact ⟨[], bs, rfl, fun _ none => absurd none List.not_mem_nil, stuck⟩
    · obtain ⟨whole, long⟩ := whole_take stuck
      have shorter : (bs.drop (headerSize + announced bs)).length < n := by
        rw [List.length_drop]
        unfold headerSize at long ⊢
        omega
      obtain ⟨frames, rest, cut⟩ := ih _ shorter _ rfl
      have longer := cut.cons whole
      rw [List.take_append_drop] at longer
      exact ⟨_, rest, longer⟩

theorem Cut.unique {bs rest rest' : Bytes} {frames frames' : List Bytes}
    (cut : Cut bs frames rest) (cut' : Cut bs frames' rest') : frames = frames' ∧ rest = rest' := by
  induction frames generalizing bs frames' with
  | nil =>
    have all : bs = rest := cut.joined
    cases frames' with
    | nil => exact ⟨rfl, all.symm.trans cut'.joined⟩
    | cons frame' frames' =>
      obtain ⟨whole', bs', rfl, -⟩ := cut'.tail
      rw [← all] at cut
      exact absurd cut.stuck (whole'.free bs')
  | cons frame frames ih =>
    obtain ⟨whole, bs₁, rfl, cut₁⟩ := cut.tail
    cases frames' with
    | nil =>
      have all : frame ++ bs₁ = rest' := cut'.joined
      rw [← all] at cut'
      exact absurd cut'.stuck (whole.free bs₁)
    | cons frame' frames' =>
      obtain ⟨whole', bs₂, same, cut₂⟩ := cut'.tail
      obtain ⟨rfl, rfl⟩ := whole.append_inj whole' same
      obtain ⟨rfl, rfl⟩ := ih cut₁ cut₂
      exact ⟨rfl, rfl⟩

theorem announced_encode (tag : UInt8) (payload : Bytes) :
    announced (encode tag payload) = payload.length % 2 ^ 32 :=
  Bytes.ofBigEndian_bigEndian 4 payload.length

/-- The frame of a payload within the limit is whole. -/
theorem whole_encode {tag : UInt8} {payload : Bytes} (within : payload.length ≤ maxPayload) :
    Whole (encode tag payload) := by
  have same : announced (encode tag payload) = payload.length := by
    rw [announced_encode, Nat.mod_eq_of_lt (lt_of_within within)]
  exact ⟨by rw [same]; exact within, by rw [same, length_encode]⟩

/-- One whole frame is cut off as it is. -/
theorem cut_encode {tag : UInt8} {payload : Bytes} (within : payload.length ≤ maxPayload) :
    Cut (encode tag payload) [encode tag payload] [] where
  joined := by rw [List.flatten_singleton, List.append_nil]
  whole := List.forall_mem_singleton.mpr (whole_encode within)
  stuck := Or.inl (Or.inl (by decide))

end AtomicKv.Frame
