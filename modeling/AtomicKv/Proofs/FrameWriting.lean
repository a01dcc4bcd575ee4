import AtomicKv.Stream.Sink

/-!
# What is written to a stream

A frame that a sink takes stands behind all that was written before, with one flush after it,
however the sink portions it (`writeFrame_eq_ok`). This carries over to frames one after
another, and a sink with room for any number of bytes takes any frames.
-/
namespace AtomicKv.Sink

/-- Every one of some frames is written, one after another. -/
def Takes (s : Sink) (frames : List Bytes) : Prop :=
  ∀ step ∈ s.writeFrames frames, step.1 = .ok ()

/-- A sink after some frames more: all their bytes behind those before, and a flush for each. -/
structure Gains (s : Sink) (frames : List Bytes) (t : Sink) : Prop where
  bytes_eq : t.bytes = s.bytes ++ frames.flatten
  flushes_eq : t.flushes = s.flushes + frames.length

theorem gains_nil (s : Sink) : s.Gains [] s where
  bytes_eq := by rw [List.flatten_nil, List.append_nil]
  flushes_eq := rfl

theorem Gains.trans {s t u : Sink} {frames frames' : List Bytes} (h : s.Gains frames t)
    (h' : t.Gains frames' u) : s.Gains (frames ++ frames') u where
  bytes_eq := by rw [h'.bytes_eq, h.bytes_eq, List.flatten_append, List.append_assoc]
  flushes_eq := by rw [h'.flushes_eq, h.flushes_eq, List.length_append, Nat.add_assoc]

theorem writeAll_eq_ok {s t : Sink} {data : Bytes} (h : s.writeAll data = (.ok (), t)) :
    t.bytes = s.bytes ++ data ∧ t.flushes = s.flushes := by
  fun_induction writeAll s data with
  | case1 s =>
    cases h
    exact ⟨(List.append_nil _).symm, rfl⟩
  | case2 => cases h
  | case3 s data some_left takes ih =>
    obtain ⟨bytes, flushes⟩ := ih h
    refine ⟨?_, flushes⟩
    rw [bytes, bytes_take, List.append_assoc, List.take_append_drop]

theorem writeFrame_eq_ok {s t : Sink} {frame : Bytes} (h : s.writeFrame frame = (.ok (), t)) :
    s.Gains [frame] t := by
  unfold writeFrame at h
  split at h
  · cases h
  · rename_i u written
    obtain ⟨bytes, flushes⟩ := writeAll_eq_ok written
    unfold flush at h
    dsimp only at h
    split at h
    · cases h
    · cases h
      refine ⟨?_, ?_⟩
      · rw [List.flatten_singleton]
        exact bytes
      · rw [← flushes]
        rfl

theorem takes_nil (s : Sink) : s.Takes [] :=
  fun _ none => absurd none List.not_mem_nil

/-- Frames are taken one by one. -/
theorem takes_cons {s : Sink} {frame : Bytes} {frames : List Bytes} :
    s.Takes (frame :: frames) ↔
      ∃ t, s.writeFrame frame = (.ok (), t) ∧ s.Gains [frame] t ∧ t.Takes frames := by
  unfold Takes
  rw [writeFrames]
  cases written : s.writeFrame frame with
  | mk result t =>
    simp only [List.forall_mem_cons]
    constructor
    · intro h
      obtain ⟨rfl, rest⟩ := h
      exact ⟨t, rfl, writeFrame_eq_ok written, rest⟩
    · intro h
      obtain ⟨u, same, -, rest⟩ := h
      cases same
      exact ⟨rfl, rest⟩

theorem Takes.take {s : Sink} {frames : List Bytes} (takes : s.Takes frames) (n : Nat) :
    s.Takes (frames.take n) := by
  induction frames generalizing s n with
  | nil =>
    rw [List.take_nil]
    exact takes
  | cons frame frames ih =>
    cases n with
    | zero => exact s.takes_nil
    | succ n =>
      obtain ⟨t, written, gains, takes'⟩ := takes_cons.mp takes
      exact takes_cons.mpr ⟨t, written, gains, ih takes' n⟩

/-- A sink that takes bytes without end and never fails to flush. -/
structure Endless (s : Sink) : Prop where
  room : s.room = none
  portion : 0 < s.portion
  flushes : s.whenFlushed = none

theorem Endless.writeAll {s : Sink} (endless : s.Endless) (data : Bytes) :
    ∃ t, s.writeAll data = (.ok (), t) ∧ t.Endless := by
  fun_induction Sink.writeAll s data with
  | case1 s => exact ⟨s, rfl, endless⟩
  | case2 s data some_left full =>
    have takes := endless.portion
    simp only [allowance, endless.room] at full
    omega
  | case3 s data some_left takes ih =>
    apply ih
    exact ⟨by rw [take, endless.room]; rfl, endless.portion, endless.flushes⟩

theorem Endless.takes {s : Sink} (endless : s.Endless) (frames : List Bytes) : s.Takes frames := by
  induction frames generalizing s with
  | nil => exact takes_nil s
  | cons frame frames ih =>
    obtain ⟨t, written, endless'⟩ := endless.writeAll frame
    have flushed : s.writeFrame frame = (.ok (), { t with flushes := t.flushes + 1 }) := by
      rw [writeFrame, written]
      simp only [flush, endless'.flushes]
    refine takes_cons.mpr ⟨_, flushed, writeFrame_eq_ok flushed, ih ?_⟩
    exact ⟨endless'.room, endless'.portion, endless'.flushes⟩

end AtomicKv.Sink
