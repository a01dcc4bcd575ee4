import AtomicKv.Proofs.FrameWriting
import AtomicKv.Proofs.StreamReading

/-!
# Writing frame after frame

A sink takes of some data what it has room for, however it portions it, and fails when that is not
all (`writeAll_eq`). So it holds, after each of some frames that are tried one after another, the
beginning of all of them that it has room for (`after_took`), whether or not the frames before could
be written. A frame that does not fit leaves too few bytes for a frame behind, so that the whole
frames among these bytes are those that fit (`cut_accepted`).
-/
namespace AtomicKv

/-- A beginning of a whole frame has too few bytes. -/
theorem Frame.Whole.incomplete {frame part : Bytes} (whole : Whole frame) (begins : part <+: frame)
    (proper : part ≠ frame) : Incomplete part := by
  obtain ⟨rest, rfl⟩ := begins
  have some_more : 0 < rest.length := by
    apply List.length_pos_iff.mpr
    rintro rfl
    exact proper (List.append_nil part).symm
  by_cases header : headerSize ≤ part.length
  · have length := whole.length_eq
    have within := whole.within
    rw [announced_append header] at length within
    rw [List.length_append] at length
    exact Or.inr ⟨within, by omega⟩
  · exact Or.inl (Nat.lt_of_not_le header)

namespace Sink

/-- What a sink has room for of some data: as many bytes from the front as fit. -/
def accepted (s : Sink) (data : Bytes) : Bytes :=
  match s.room with
  | none => data
  | some room => data.take room

/-- The sink after some frames were tried one after another. -/
def after (s : Sink) (frames : List Bytes) : Sink :=
  frames.foldl (fun s frame => (s.writeFrame frame).2) s

variable {s t u : Sink} {data data' frame : Bytes} {frames : List Bytes}

@[simp] theorem accepted_nil (s : Sink) : s.accepted [] = [] := by
  unfold accepted
  split
  · rfl
  · exact List.take_nil

theorem accepted_begins (s : Sink) (data : Bytes) : s.accepted data <+: data := by
  unfold accepted
  split
  · exact List.prefix_rfl
  · exact List.take_prefix _ _

/-- All of some data is accepted exactly when it fits. -/
theorem accepted_eq_iff :
    s.accepted data = data ↔ ∀ room, s.room = some room → data.length ≤ room := by
  unfold accepted
  cases s.room with
  | none => simp
  | some room =>
    simp only [Option.some.injEq, forall_eq']
    refine ⟨fun all => ?_, List.take_of_length_le⟩
    rw [← all]
    exact List.length_take_le _ _

/-- Behind what was taken there is room for the rest of what is accepted. -/
theorem accepted_append (s : Sink) (data data' : Bytes) :
    s.accepted (data ++ data') = s.accepted data ++ (s.take (s.accepted data)).accepted data' := by
  unfold accepted
  cases limit : s.room with
  | none => simp [take, limit]
  | some room =>
    simp only [take, limit, Option.map_some, List.take_append, List.length_take]
    congr 2
    omega

theorem accepted_append_of_fits (fits : s.accepted data = data) :
    s.accepted (data ++ data') = data ++ (s.take data).accepted data' := by
  rw [accepted_append, fits]

/-- Data that does not fit leaves no room. -/
theorem accepted_append_of_not_fits (large : s.accepted data ≠ data) (data' : Bytes) :
    s.accepted (data ++ data') = s.accepted data := by
  unfold accepted at large ⊢
  cases limit : s.room with
  | none =>
    rw [limit] at large
    exact absurd rfl large
  | some room =>
    rw [limit] at large
    have short : room ≤ data.length := by
      apply Nat.le_of_lt
      apply Nat.lt_of_not_le
      intro fits
      exact large (List.take_of_length_le fits)
    exact List.take_append_of_le_length short

theorem take_nil (s : Sink) : s.take [] = s := by
  cases s with
  | mk taken written written_eq flushes room =>
    cases room <;> rfl

theorem take_take (s : Sink) (data data' : Bytes) :
    (s.take data).take data' = s.take (data ++ data') := by
  unfold take
  simp only [List.reverseAux_eq, List.reverse_append, List.append_assoc, List.length_append,
    Option.map_map, Nat.add_assoc, mk.injEq, true_and, and_true]
  congr 1
  funext room
  exact Nat.sub_sub _ _ _

/-- A sink takes what it has room for, and says so if that is not all. -/
theorem writeAll_eq (takes : 0 < s.portion) (data : Bytes) :
    s.writeAll data =
      (if s.accepted data = data then .ok () else .error (s.whenFull.getD .noRoom),
        s.take (s.accepted data)) := by
  fun_induction writeAll s data with
  | case1 s => rw [accepted_nil, if_pos rfl, take_nil]
  | case2 s data some_left full =>
    have none_fits : s.room = some 0 := by
      unfold allowance at full
      split at full
      · omega
      · rename_i room limit
        rw [limit]
        congr 1
        omega
    have nothing : s.accepted data = [] := by
      simp only [accepted, none_fits, List.take_zero]
    rw [nothing, if_neg (Ne.symm some_left), take_nil]
  | case3 s data some_left takes_some ih =>
    -- what one call takes is accepted, and the calls after it take the rest of what is
    have front_fits : s.accepted (data.take s.allowance) = data.take s.allowance := by
      apply accepted_eq_iff.mpr
      intro room limit
      simp only [allowance, limit, List.length_take]
      omega
    have split : s.accepted (data.take s.allowance ++ data.drop s.allowance) = _ :=
      accepted_append_of_fits front_fits
    rw [List.take_append_drop] at split
    have all_iff : s.accepted data = data ↔
        (s.take (data.take s.allowance)).accepted (data.drop s.allowance) =
          data.drop s.allowance := by
      rw [split]
      constructor
      · intro all
        rw [← List.append_cancel_left_eq (data.take s.allowance), all, List.take_append_drop]
      · intro all
        rw [all, List.take_append_drop]
    rw [ih takes, take_take, ← split]
    simp only [all_iff]
    rfl

/-- A sink after it took what it had room for of some data. -/
structure Took (s : Sink) (data : Bytes) (t : Sink) : Prop where
  bytes_eq : t.bytes = s.bytes ++ s.accepted data
  accepted_eq : ∀ more, s.accepted (data ++ more) = s.accepted data ++ t.accepted more
  portion_eq : t.portion = s.portion
  whenFlushed_eq : t.whenFlushed = s.whenFlushed

theorem took_nil (s : Sink) : s.Took [] s where
  bytes_eq := by rw [accepted_nil, List.append_nil]
  accepted_eq more := by rw [accepted_nil, List.nil_append, List.nil_append]
  portion_eq := rfl
  whenFlushed_eq := rfl

theorem Took.trans (took : s.Took data t) (took' : t.Took data' u) : s.Took (data ++ data') u where
  bytes_eq := by rw [took'.bytes_eq, took.bytes_eq, took.accepted_eq, List.append_assoc]
  accepted_eq more := by
    rw [List.append_assoc, took.accepted_eq, took'.accepted_eq, took.accepted_eq, List.append_assoc]
  portion_eq := took'.portion_eq.trans took.portion_eq
  whenFlushed_eq := took'.whenFlushed_eq.trans took.whenFlushed_eq

/-- What trying one frame does to a sink: it is flushed if it takes the whole frame, and then only
the flush can fail. -/
structure Tried (s : Sink) (frame : Bytes) (result : Except Fault Unit) (t : Sink) : Prop where
  took : s.Took frame t
  ok_iff : result = .ok () ↔ s.accepted frame = frame ∧ s.whenFlushed = none
  flushes_eq : t.flushes = s.flushes + if s.accepted frame = frame then 1 else 0

theorem flush_eq (s : Sink) :
    s.flush.2 = { s with flushes := s.flushes + 1 } ∧
      (s.flush.1 = .ok () ↔ s.whenFlushed = none) := by
  cases fails : s.whenFlushed with
  | none => simp [flush, fails]
  | some f => simp [flush, fails]

theorem writeFrame_tried (takes : 0 < s.portion) (frame : Bytes) :
    s.Tried frame (s.writeFrame frame).1 (s.writeFrame frame).2 := by
  have bytes := s.bytes_take (s.accepted frame)
  have room := s.accepted_append frame
  unfold writeFrame
  rw [writeAll_eq takes]
  by_cases fits : s.accepted frame = frame
  · obtain ⟨flushed, succeeds⟩ := (s.take (s.accepted frame)).flush_eq
    rw [if_pos fits]
    dsimp only
    refine ⟨?_, ?_, ?_⟩
    · rw [flushed]
      exact ⟨bytes, room, rfl, rfl⟩
    · exact succeeds.trans (and_iff_right fits).symm
    · rw [flushed, if_pos fits]
      rfl
  · rw [if_neg fits]
    dsimp only
    refine ⟨⟨bytes, room, rfl, rfl⟩, ?_, ?_⟩
    · exact iff_of_false nofun fun both => fits both.1
    · rw [if_neg fits]
      rfl

theorem after_cons (s : Sink) (frame : Bytes) (frames : List Bytes) :
    s.after (frame :: frames) = (s.writeFrame frame).2.after frames :=
  rfl

/-- Frames that are all written are what a sink gains. -/
theorem gains_after (takes : s.Takes frames) : s.Gains frames (s.after frames) := by
  induction frames generalizing s with
  | nil => exact s.gains_nil
  | cons frame frames ih =>
    obtain ⟨t, written, gains, takes'⟩ := takes_cons.mp takes
    rw [after_cons, written]
    exact gains.trans (ih takes')

/-- After any frames a sink has taken what it had room for of all of them together. -/
theorem after_took (takes : 0 < s.portion) (frames : List Bytes) :
    s.Took frames.flatten (s.after frames) := by
  induction frames generalizing s with
  | nil => exact s.took_nil
  | cons frame frames ih =>
    have took := (writeFrame_tried takes frame).took
    exact took.trans (ih (took.portion_eq ▸ takes))

/-- Each frame is tried on the sink that those before it left. -/
theorem writeFrames_eq (s : Sink) (frames : List Bytes) :
    s.writeFrames frames =
      frames.mapIdx fun j frame => (s.after (frames.take j)).writeFrame frame := by
  induction frames generalizing s with
  | nil => rfl
  | cons frame frames ih =>
    rw [writeFrames, List.mapIdx_cons]
    exact congrArg _ (ih _)

theorem after_take_succ {j : Nat} (at_j : frames[j]? = some frame) :
    s.after (frames.take (j + 1)) = ((s.after (frames.take j)).writeFrame frame).2 := by
  rw [List.take_add_one, at_j, after, List.foldl_append]
  rfl

/-- What a sink has room for of whole frames is cut into those that fit together with all before
them, and a rest that is too short for a frame. -/
theorem cut_accepted (s : Sink) (wholes : ∀ frame ∈ frames, Frame.Whole frame) :
    ∃ n rest, (∀ j, j < frames.length → (j < n ↔
        s.accepted (frames.take (j + 1)).flatten = (frames.take (j + 1)).flatten)) ∧
      Frame.Incomplete rest ∧ Frame.Cut (s.accepted frames.flatten) (frames.take n) rest := by
  induction frames generalizing s with
  | nil =>
    refine ⟨0, [], fun j none => absurd none (Nat.not_lt_zero j), Or.inl (by decide), ?_⟩
    exact ⟨s.accepted_nil, fun _ none => absurd none List.not_mem_nil, Or.inl (Or.inl (by decide))⟩
  | cons frame frames ih =>
    obtain ⟨whole, wholes'⟩ := List.forall_mem_cons.mp wholes
    by_cases fits : s.accepted frame = frame
    · obtain ⟨n, rest, within, few, cut⟩ := ih (s.take frame) wholes'
      refine ⟨n + 1, rest, fun j bound => ?_, few, ?_⟩
      · cases j with
        | zero => simpa using fits
        | succ j =>
          rw [List.take_succ_cons, List.flatten_cons, accepted_append_of_fits fits,
            List.append_cancel_left_eq, ← within j (Nat.lt_of_succ_lt_succ bound)]
          exact Nat.succ_lt_succ_iff
      · rw [List.flatten_cons, accepted_append_of_fits fits, List.take_succ_cons]
        exact cut.cons whole
    · have part := whole.incomplete (s.accepted_begins frame) fits
      refine ⟨0, s.accepted frame, fun j _ => ?_, part, ?_⟩
      · rw [List.take_succ_cons, List.flatten_cons, accepted_append_of_not_fits fits]
        refine ⟨fun none => absurd none (Nat.not_lt_zero j), fun all => absurd ?_ fits⟩
        apply accepted_eq_iff.mpr
        intro room limit
        have lengths := accepted_eq_iff.mp
          ((accepted_append_of_not_fits fits _).trans all) room limit
        rw [List.length_append] at lengths
        omega
      · rw [List.flatten_cons, accepted_append_of_not_fits fits]
        exact ⟨rfl, fun _ none => absurd none List.not_mem_nil, Or.inl part⟩

/-- A sink that held nothing reads back as the whole frames that were tried and fit it. -/
theorem yield_accepted (fresh : s.bytes = []) (takes : 0 < s.portion)
    (wholes : ∀ frame ∈ frames, Frame.Whole frame) :
    ∃ n, (∀ j, j < frames.length → (j < n ↔
        s.accepted (frames.take (j + 1)).flatten = (frames.take (j + 1)).flatten)) ∧
      ∀ reader : Source, reader.pacing.Steady → reader.ending = .finished →
        reader.rest = (s.after frames).bytes →
          reader.yield = (frames.take n, .endOfStream, []) := by
  obtain ⟨n, rest, within, few, cut⟩ := s.cut_accepted wholes
  refine ⟨n, within, fun reader steady finished holds => ?_⟩
  have bytes := (after_took takes frames).bytes_eq
  rw [fresh, List.nil_append] at bytes
  rw [← bytes, ← holds] at cut
  obtain ⟨f, left, read, stopped⟩ := Source.yield_of_cut steady cut
  rw [finished] at stopped
  obtain ⟨rfl, rfl⟩ := stopped.unique (.exhausted few)
  exact read

/-- After each step the sink holds the beginning of all frames tried so far, as many bytes as it has
room for, and the frames that are in it whole read back. -/
theorem writeFrames_exact (fresh : s.bytes = []) (takes : 0 < s.portion) (frames : List Bytes) :
    (∀ j frame, frames[j]? = some frame →
      ∃ result, let before := s.after (frames.take j)
        let behind := s.after (frames.take (j + 1))
        (s.writeFrames frames)[j]? = some (result, behind) ∧
        behind.bytes = s.accepted (frames.take (j + 1)).flatten ∧
        (result = .ok () ↔ behind.bytes = before.bytes ++ frame ∧ s.whenFlushed = none) ∧
        behind.flushes = before.flushes + if behind.bytes = before.bytes ++ frame then 1 else 0) ∧
    ((∀ frame ∈ frames, Frame.Whole frame) →
      ∃ n, (∀ j, j < frames.length → (j < n ↔
          s.accepted (frames.take (j + 1)).flatten = (frames.take (j + 1)).flatten)) ∧
        ∀ reader : Source, reader.pacing.Steady → reader.ending = .finished →
          reader.rest = (s.after frames).bytes →
            reader.yield = (frames.take n, .endOfStream, [])) := by
  refine ⟨fun j frame at_j => ?_, yield_accepted fresh takes⟩
  have took := after_took takes (frames.take j)
  have tried := writeFrame_tried (took.portion_eq ▸ takes) frame
  have bytes := (after_took takes (frames.take (j + 1))).bytes_eq
  rw [fresh, List.nil_append] at bytes
  rw [← after_take_succ at_j] at tried
  -- the frame was taken whole exactly when the bytes of the sink say so
  have whole_iff :
      (s.after (frames.take (j + 1))).bytes = (s.after (frames.take j)).bytes ++ frame ↔
        (s.after (frames.take j)).accepted frame = frame := by
    rw [tried.took.bytes_eq, List.append_cancel_left_eq]
  refine ⟨((s.after (frames.take j)).writeFrame frame).1, ?_, bytes, ?_, ?_⟩
  · rw [writeFrames_eq, List.getElem?_mapIdx, at_j, after_take_succ at_j]
    rfl
  · rw [whole_iff, ← took.whenFlushed_eq]
    exact tried.ok_iff
  · simp only [whole_iff]
    exact tried.flushes_eq

/-- Three frames of nine bytes to a sink that takes four bytes at a time and twelve in all: one is
written, one in part, one not at all. -/
theorem writeFrames_exact_full :
    let frame := Frame.encode 1 []
    let frames := [frame, frame, frame]
    let s : Sink := { room := some 12, portion := 4, whenFull := some (.ofKind .brokenPipe) }
    let reader : Source := { rest := (s.after frames).bytes, ending := .finished }
    s.bytes = [] ∧ 0 < s.portion ∧ (∀ f ∈ frames, Frame.Whole f) ∧ reader.pacing.Steady ∧
      (∃ result, (s.writeFrames frames)[1]? = some (result, s.after [frame, frame]) ∧
        result ≠ .ok () ∧ (s.after [frame, frame]).bytes = frame ++ [1, 0, 0] ∧
        (s.after [frame, frame]).flushes = 1) ∧
      reader.yield = ([frame], .endOfStream, []) := by
  intro frame frames s reader
  have takes : 0 < s.portion := by decide
  have wholes : ∀ f ∈ frames, Frame.Whole f := by decide +kernel
  have steady : reader.pacing.Steady := Pacing.steady_eager
  have joined : frame ++ [1, 0, 0] = s.accepted (frame ++ frame) := by decide
  obtain ⟨steps, read_back⟩ := writeFrames_exact (s := s) rfl takes frames
  obtain ⟨n, within, read⟩ := read_back wholes
  obtain ⟨_, -, bytes₁, -, flushes₁⟩ := steps 0 frame rfl
  obtain ⟨result, tried, bytes₂, ok_iff, flushes₂⟩ := steps 1 frame rfl
  have bytes : (s.after [frame, frame]).bytes = frame ++ [1, 0, 0] := bytes₂.trans joined.symm
  have first : (s.after [frame]).bytes = frame := bytes₁.trans (by decide)
  have in_part : (s.after [frame, frame]).bytes ≠ (s.after [frame]).bytes ++ frame := by
    rw [bytes, first]
    decide
  have one : n = 1 := by
    have fits := (within 0 (by decide)).mpr (by decide)
    have large := mt (within 1 (by decide)).mp (by decide)
    omega
  have flushed : (s.after [frame]).flushes = 0 + 1 :=
    flushes₁.trans (congrArg (0 + ·) (if_pos first))
  have not_again : (s.after [frame, frame]).flushes = (s.after [frame]).flushes + 0 :=
    flushes₂.trans (congrArg (_ + ·) (if_neg in_part))
  rw [one] at read
  exact ⟨rfl, takes, wholes, steady,
    ⟨result, tried, fun ok => in_part (ok_iff.mp ok).1, bytes, not_again.trans flushed⟩,
    read reader steady rfl rfl⟩

end Sink
end AtomicKv
