import AtomicKv.Proofs.FrameReading

/-!
# Reading frame after frame

Frames are read off a source until one cannot be read. Off a steady source, what that yields is
settled by the bytes and by the ending: the frames that the bytes are cut into, and what a reader
meets behind them (`yield_of_cut`). How the bytes arrive plays no part, and neither does what a
frame holds besides its length. Off any source, what is read are whole frames (`wholes_of_yield`).
-/
namespace AtomicKv.Source

/-- How reading stops at a rest that no frame begins: at the ending with everything taken, or
right behind a header past the limit. -/
inductive Stopped (ending : Ending) (rest : Bytes) : Fault → Bytes → Prop where
  | exhausted (few : Frame.Incomplete rest) : Stopped ending rest ending.cause []
  | refused (many : Frame.Oversized rest) :
    Stopped ending rest ⟨.invalidData, Frame.tooLargeMessage (Frame.announced rest)⟩
      (rest.drop Frame.headerSize)

theorem Stopped.unique {ending : Ending} {rest left left' : Bytes} {f f' : Fault}
    (stopped : Stopped ending rest f left) (stopped' : Stopped ending rest f' left') :
    f = f' ∧ left = left' := by
  cases stopped with
  | exhausted few =>
    cases stopped' with
    | exhausted => exact ⟨rfl, rfl⟩
    | refused many => exact absurd many (Frame.not_oversized_of_incomplete few)
  | refused many =>
    cases stopped' with
    | exhausted few => exact absurd many (Frame.not_oversized_of_incomplete few)
    | refused => exact ⟨rfl, rfl⟩

/-- What reading frames until one cannot be read yields: the frames, what stopped the reading and
the bytes that are left. -/
def yield (s : Source) : List Bytes × Fault × Bytes :=
  let (frames, f, t) := s.readFrames
  (frames, f, t.rest)

/-- Frame by frame, every source comes to one that no frame is read off. -/
theorem reading {motive : Source → Prop}
    (fault : ∀ s f t, s.readFrame = (.error f, t) → motive s)
    (frame : ∀ s frame t, s.readFrame = (.ok frame, t) → motive t → motive s) (s : Source) :
    motive s := by
  induction bound : s.rest.length using Nat.strongRecOn generalizing s with
  | ind n ih =>
    match read : s.readFrame with
    | (.error f, t) => exact fault s f t read
    | (.ok bytes, t) =>
      obtain ⟨split, header⟩ := rest_of_readFrame read
      have shorter : t.rest.length < n := by
        rw [← bound, split, List.length_append]
        unfold Frame.headerSize at header
        omega
      exact frame s bytes t read (ih _ shorter t rfl)

theorem readFramesFrom_of_frame {s t : Source} {frame : Bytes} (read : s.readFrame = (.ok frame, t))
    (found : List Bytes) : s.readFramesFrom found = t.readFramesFrom (frame :: found) := by
  rw [readFramesFrom]
  split
  · rename_i f u failed
    rw [read] at failed
    cases failed
  · rename_i frame' u read'
    rw [read] at read'
    cases read'
    rfl

theorem readFramesFrom_of_fault {s t : Source} {f : Fault} (read : s.readFrame = (.error f, t))
    (found : List Bytes) : s.readFramesFrom found = (found.reverse, f, t) := by
  rw [readFramesFrom]
  split
  · rename_i f' u failed
    rw [read] at failed
    cases failed
    rfl
  · rename_i frame u read'
    rw [read] at read'
    cases read'

/-- Frames found already stand in front of what is read behind them. -/
theorem readFramesFrom_eq (s : Source) (found : List Bytes) :
    s.readFramesFrom found =
      (found.reverse ++ s.readFrames.1, s.readFrames.2.1, s.readFrames.2.2) := by
  unfold readFrames
  -- both sides read one frame, and go on behind it with one frame more found
  induction s using reading generalizing found with
  | fault s f t read =>
    rw [readFramesFrom_of_fault read, readFramesFrom_of_fault read, List.reverse_nil,
      List.append_nil]
  | frame s frame t read ih =>
    rw [readFramesFrom_of_frame read, readFramesFrom_of_frame read, ih [frame], ih (frame :: found),
      List.reverse_cons, List.append_assoc]
    rfl

theorem yield_of_frame {s t : Source} {frame : Bytes} (read : s.readFrame = (.ok frame, t)) :
    s.yield = (frame :: t.yield.1, t.yield.2) := by
  unfold yield
  rw [readFrames, readFramesFrom_of_frame read, readFramesFrom_eq]
  rfl

theorem yield_of_fault {s t : Source} {f : Fault} (read : s.readFrame = (.error f, t)) :
    s.yield = ([], f, t.rest) := by
  unfold yield
  rw [readFrames, readFramesFrom_of_fault read]
  rfl

theorem ending_of_fill {s t : Source} {want : Nat} {found : Bytes} {result : Except Fault Bytes}
    (h : s.fill want found = (result, t)) : t.ending = s.ending := by
  fun_induction fill s want found with
  | case1 =>
    cases h
    rfl
  | case2 s want found ask u call ih => exact (ih h).trans (leaves_of_read call).ending_eq
  | case3 s want found ask part u call ih => exact (ih h).trans (leaves_of_read call).ending_eq
  | case4 s want found ask u call =>
    cases h
    exact (leaves_of_read call).ending_eq
  | case5 s want found ask f u call =>
    cases h
    exact (leaves_of_read call).ending_eq

/-- A fault that a read call meets is the one that the source ends with. -/
theorem ending_of_read {s t : Source} {room : Nat} {f : Fault}
    (h : s.read room = (.ending (.fault f), t)) : s.ending = .fault f := by
  unfold read at h
  split at h
  · cases h
  · dsimp only at h
    split at h
    · injection h with arrival
      injection arrival
    · split at h <;> cases h

theorem fill_eq_error {s t : Source} {want : Nat} {found : Bytes} {f : Fault}
    (h : s.fill want found = (.error f, t)) : f = .endOfStream ∨ s.ending = .fault f := by
  fun_induction fill s want found with
  | case1 => cases h
  | case2 s want found ask u call ih => exact (leaves_of_read call).ending_eq ▸ ih h
  | case3 s want found ask part u call ih => exact (leaves_of_read call).ending_eq ▸ ih h
  | case4 s want found ask u call =>
    cases h
    exact Or.inl rfl
  | case5 s want found ask g u call =>
    cases h
    exact Or.inr (ending_of_read call)

/-- A frame that is read is whole, whatever the source. -/
theorem whole_of_readFrame {s t : Source} {frame : Bytes} (read : s.readFrame = (.ok frame, t)) :
    Frame.Whole frame ∧ t.ending = s.ending := by
  unfold readFrame at read
  split at read
  · cases read
  · rename_i header u first
    dsimp only at read
    split at read
    · cases read
    · rename_i within
      split at read
      · cases read
      · rename_i payload v second
        cases read
        have endings := (ending_of_fill second).trans (ending_of_fill first)
        obtain ⟨_, rfl, nine, -⟩ := fill_eq_ok first
        obtain ⟨_, rfl, length, -⟩ := fill_eq_ok second
        have same := Frame.announced_append (Nat.le_of_eq nine.symm)
        refine ⟨⟨?_, ?_⟩, endings⟩
        · rw [same]
          exact Nat.le_of_not_lt within
        · rw [List.length_append, same, nine, length]

/-- What keeps a frame from being read: the end of the stream, a fault of the source, or a header
that announces too much. -/
theorem fault_of_readFrame {s t : Source} {f : Fault} (read : s.readFrame = (.error f, t)) :
    f = .endOfStream ∨ s.ending = .fault f ∨
      ∃ n, n < 2 ^ 32 ∧ f = ⟨.invalidData, Frame.tooLargeMessage n⟩ := by
  unfold readFrame at read
  split at read
  · rename_i f' u first
    cases read
    exact (fill_eq_error first).imp_right Or.inl
  · rename_i header u first
    dsimp only at read
    split at read
    · cases read
      have digits := Bytes.ofBigEndian_lt ((header.drop 1).take 4)
      have four : 256 ^ ((header.drop 1).take 4).length ≤ 256 ^ 4 :=
        Nat.pow_le_pow_right (by decide) (List.length_take_le 4 _)
      exact Or.inr (Or.inr ⟨_, Nat.lt_of_lt_of_le digits four, rfl⟩)
    · split at read
      · rename_i f' v second
        cases read
        rw [← ending_of_fill first]
        exact (fill_eq_error second).imp_right Or.inl
      · cases read

/-- Reading any source frame by frame yields whole frames, and stops as reading one of them does. -/
theorem wholes_of_yield (s : Source) :
    (∀ frame ∈ s.yield.1, Frame.Whole frame) ∧
      (s.yield.2.1 = .endOfStream ∨ s.ending = .fault s.yield.2.1 ∨
        ∃ n, n < 2 ^ 32 ∧ s.yield.2.1 = ⟨.invalidData, Frame.tooLargeMessage n⟩) := by
  induction s using reading with
  | fault s f t read =>
    rw [yield_of_fault read]
    exact ⟨nofun, fault_of_readFrame read⟩
  | frame s frame t read ih =>
    obtain ⟨whole, endings⟩ := whole_of_readFrame read
    rw [yield_of_frame read, ← endings]
    exact ⟨List.forall_mem_cons.mpr ⟨whole, ih.1⟩, ih.2⟩

/-- No frame is read off a rest that none begins. -/
theorem readFrame_of_stuck {s : Source} (steady : s.pacing.Steady)
    (stuck : Frame.Incomplete s.rest ∨ Frame.Oversized s.rest) :
    ∃ f t, s.readFrame = (.error f, t) ∧ Stopped s.ending s.rest f t.rest := by
  cases stuck with
  | inl few =>
    obtain ⟨t, read, left⟩ := readFrame_of_incomplete steady few
    refine ⟨_, t, read, ?_⟩
    rw [left.rest_eq]
    exact .exhausted few
  | inr many =>
    obtain ⟨t, read, left⟩ := readFrame_of_oversized steady many
    refine ⟨_, t, read, ?_⟩
    rw [left.rest_eq]
    exact .refused many

/-- The frames of a cut are read one after another, behind those found already. -/
theorem readFramesFrom_of_cut {s : Source} {frames : List Bytes} {rest : Bytes}
    (steady : s.pacing.Steady) (cut : Frame.Cut s.rest frames rest) (found : List Bytes) :
    ∃ f t, s.readFramesFrom found = (found.reverse ++ frames, f, t) ∧
      Stopped s.ending rest f t.rest := by
  induction frames generalizing s found with
  | nil =>
    have all : s.rest = rest := cut.joined
    obtain ⟨f, t, read, stopped⟩ := readFrame_of_stuck steady (all ▸ cut.stuck)
    refine ⟨f, t, ?_, all ▸ stopped⟩
    rw [readFramesFrom_of_fault read, List.append_nil]
  | cons frame frames ih =>
    obtain ⟨whole, behind, front, cut'⟩ := cut.tail
    obtain ⟨t, read, left⟩ := readFrame_of_whole steady whole front
    rw [← left.rest_eq] at cut'
    obtain ⟨f, u, later, stopped⟩ := ih (left.steady steady) cut' (frame :: found)
    refine ⟨f, u, ?_, left.ending_eq ▸ stopped⟩
    rw [readFramesFrom_of_frame read, later, List.reverse_cons, List.append_assoc,
      List.singleton_append]

/-- Reading yields the frames of the cut. -/
theorem yield_of_cut {s : Source} {frames : List Bytes} {rest : Bytes} (steady : s.pacing.Steady)
    (cut : Frame.Cut s.rest frames rest) :
    ∃ f left, s.yield = (frames, f, left) ∧ Stopped s.ending rest f left := by
  obtain ⟨f, t, read, stopped⟩ := readFramesFrom_of_cut steady cut []
  refine ⟨f, t.rest, ?_, stopped⟩
  rw [yield, readFrames, read]
  rfl

/-- Two sources with the same bytes and the same ending yield the same. -/
theorem yield_congr {s t : Source} (steady : s.pacing.Steady) (steady' : t.pacing.Steady)
    (rest : s.rest = t.rest) (ending : s.ending = t.ending) : s.yield = t.yield := by
  obtain ⟨frames, left, cut⟩ := Frame.exists_cut s.rest
  obtain ⟨f, bytes, read, stopped⟩ := yield_of_cut steady cut
  obtain ⟨f', bytes', read', stopped'⟩ := yield_of_cut steady' (rest ▸ cut)
  obtain ⟨rfl, rfl⟩ := (ending ▸ stopped).unique stopped'
  rw [read, read']

/-- Whole frames in front are read first, and what is behind them is read as if they were not
there. -/
theorem yield_of_front {s t : Source} {frames : List Bytes} (steady : s.pacing.Steady)
    (steady' : t.pacing.Steady) (ending : s.ending = t.ending)
    (wholes : ∀ frame ∈ frames, Frame.Whole frame) (front : s.rest = frames.flatten ++ t.rest) :
    s.yield = (frames ++ t.yield.1, t.yield.2) := by
  obtain ⟨later, rest, cut⟩ := Frame.exists_cut t.rest
  obtain ⟨f', bytes', read', stopped'⟩ := yield_of_cut steady' cut
  obtain ⟨f, bytes, read, stopped⟩ := yield_of_cut steady (front ▸ cut.behind wholes)
  obtain ⟨rfl, rfl⟩ := (ending ▸ stopped).unique stopped'
  rw [read, read']

/-- A header in front of a payload of the length that it announces is a whole frame, whatever its
tag and its checksum. -/
theorem whole_of_header {header : Frame.Header} {payload : Bytes}
    (announces : header.length = payload.length) (within : payload.length ≤ Frame.maxPayload) :
    Frame.Whole (header.bytes ++ payload) := by
  have announced : Frame.announced (header.bytes ++ payload) = payload.length := by
    rw [Frame.announced_append (Nat.le_of_eq header.length_bytes.symm), ← announces]
    exact (Bytes.ofBigEndian_bigEndian 4 header.length).trans
      (Nat.mod_eq_of_lt (Frame.lt_of_within (announces ▸ within)))
  exact ⟨announced ▸ within, by rw [announced, List.length_append, header.length_bytes]⟩

/-- Reading frames off a stream until one cannot be read cuts its bytes into the whole frames in
front and a rest, however they arrive. -/
theorem yield_greedy {s : Source} (steady : s.pacing.Steady) :
    (∃ frames rest f left, Frame.Cut s.rest frames rest ∧
      (∀ frames' rest', Frame.Cut s.rest frames' rest' → frames' = frames ∧ rest' = rest) ∧
      Stopped s.ending rest f left ∧ s.yield = (frames, f, left)) ∧
    s.yield = Source.yield { rest := s.rest, ending := s.ending } ∧
    ∀ (front : List Bytes) (header : Frame.Header) (payload behind : Bytes),
      (∀ frame ∈ front, Frame.Whole frame) → header.length = payload.length →
      payload.length ≤ Frame.maxPayload →
      s.rest = front.flatten ++ (header.bytes ++ payload) ++ behind →
        let later : Source := { rest := behind, ending := s.ending }
        s.yield = (front ++ (header.bytes ++ payload) :: later.yield.1, later.yield.2) := by
  refine ⟨?_, yield_congr steady Pacing.steady_eager rfl rfl, ?_⟩
  · obtain ⟨frames, rest, cut⟩ := Frame.exists_cut s.rest
    obtain ⟨f, left, read, stopped⟩ := yield_of_cut steady cut
    exact ⟨frames, rest, f, left, cut, fun _ _ cut' => cut'.unique cut, stopped, read⟩
  · intro front header payload behind wholes announces within joined later
    have whole := whole_of_header announces within
    have wholes' : ∀ frame ∈ front ++ [header.bytes ++ payload], Frame.Whole frame :=
      List.forall_mem_append.mpr ⟨wholes, List.forall_mem_singleton.mpr whole⟩
    have joined' : s.rest = (front ++ [header.bytes ++ payload]).flatten ++ behind := by
      rw [List.flatten_append, List.flatten_singleton]
      exact joined
    have steady' : later.pacing.Steady := Pacing.steady_eager
    rw [yield_of_front steady steady' rfl wholes' joined', List.append_assoc, List.singleton_append]

/-- A frame of no known tag and with a wrong checksum, an empty one and a header past the limit,
four bytes at a time and with interruptions. -/
theorem yield_greedy_refused :
    let strange := Frame.Header.bytes ⟨9, 2, 0⟩ ++ [1, 2]
    let empty := Frame.encode 1 []
    let past := Frame.Header.bytes ⟨1, Frame.maxPayload + 1, 0⟩
    let s : Source :=
      { rest := strange ++ empty ++ past ++ [5], ending := .fault (.ofKind .connectionReset),
        pacing := .uniform 2 4 }
    s.pacing.Steady ∧
      s.yield = ([strange, empty],
        ⟨.invalidData, Frame.tooLargeMessage (Frame.maxPayload + 1)⟩, [5]) := by
  intro strange empty past s
  have steady : s.pacing.Steady := Pacing.steady_uniform.mpr (by decide)
  obtain ⟨⟨frames, rest, f, left, -, unique, stopped, read⟩, -, -⟩ := yield_greedy steady
  have wholes : ∀ frame ∈ [strange, empty], Frame.Whole frame := by decide +kernel
  have many : Frame.Oversized (past ++ [5]) := by decide
  have cut : Frame.Cut s.rest [strange, empty] (past ++ [5]) :=
    ⟨by simp [s], wholes, Or.inr many⟩
  obtain ⟨rfl, rfl⟩ := unique _ _ cut
  obtain ⟨rfl, rfl⟩ := stopped.unique (.refused many)
  exact ⟨steady, read⟩

end AtomicKv.Source
