import AtomicKv.Proofs.StreamReading

/-!
# The reader and the decoder agree on where a frame ends

The header of a frame is looked at twice: where the frame is read off a stream, and where it is
taken apart. Both come to the same end. A whole frame leaves the decoder its checksum to refuse it
for and nothing else, and nothing else than a whole frame does (`whole_iff_ends`). Whole frames are
what a reader reads; so every frame that is read is one whose end the decoder finds no fault with,
and every such byte string is read as it is off a stream that it stands in front of
(`readFrame_agrees`).
-/
namespace AtomicKv

namespace Frame

/-- What the decoder says of a byte string that ends where a frame has to: it is taken, or refused
for its checksum. Every other flaw is about the end. -/
inductive Ends : Except Flaw (UInt8 × Bytes) → Prop
  | taken (tag : UInt8) (payload : Bytes) : Ends (.ok (tag, payload))
  | wrongChecksum (expected found : Nat) : Ends (.error (.wrongChecksum expected found))

/-- Nine bytes are enough for a header, which gives the length that they announce. -/
theorem exists_header {bs : Bytes} (long : headerSize ≤ bs.length) :
    ∃ header rest, header? bs = some (header, rest) ∧ header.length = announced bs := by
  unfold headerSize at long
  rcases bs with _ | ⟨_, _ | ⟨_, _ | ⟨_, _ | ⟨_, _ | ⟨_, _ | ⟨_, _ | ⟨_, _ | ⟨_, _ | ⟨_, rest⟩⟩⟩⟩⟩⟩⟩⟩⟩
  case cons.cons.cons.cons.cons.cons.cons.cons.cons => exact ⟨_, rest, rfl, rfl⟩
  all_goals
    simp only [List.length_cons, List.length_nil] at long
    omega

/-- Of a whole frame, the decoder compares the checksum in the header with that of the payload, and
nothing else can go wrong. -/
theorem Whole.decode_eq {frame : Bytes} (whole : Whole frame) :
    ∃ (header : Header) (payload : Bytes),
      frame = header.bytes ++ payload ∧ header.length = payload.length ∧
      decode frame = if (crc32 payload).toNat = header.checksum then .ok (header.tag, payload)
        else .error (.wrongChecksum header.checksum (crc32 payload).toNat) := by
  obtain ⟨header, payload, found, announces⟩ := exists_header whole.header_le
  obtain ⟨joined, -, -⟩ := header?_eq_some_iff.mp found
  have length : payload.length = header.length := by
    have total := whole.length_eq
    rw [joined, List.length_append, header.length_bytes, ← joined, ← announces] at total
    omega
  have within : ¬ maxPayload < header.length := by
    rw [announces]
    exact Nat.not_lt.mpr whole.within
  refine ⟨header, payload, joined, length.symm, ?_⟩
  simp only [decode, found, if_neg within, if_neg (not_not_intro length), ite_not]

/-- The decoder finds no fault with where a byte string ends exactly when this is a whole frame. -/
theorem whole_iff_ends {frame : Bytes} : Whole frame ↔ Ends (decode frame) := by
  constructor
  · intro whole
    obtain ⟨header, payload, -, -, verdict⟩ := whole.decode_eq
    rw [verdict]
    split
    · exact .taken header.tag payload
    · exact .wrongChecksum header.checksum (crc32 payload).toNat
  · intro ends
    unfold decode at ends
    split at ends
    · cases ends
    · rename_i header payload found
      obtain ⟨rfl, -, -⟩ := header?_eq_some_iff.mp found
      split at ends
      · cases ends
      · rename_i within
        split at ends
        · cases ends
        · -- what is left to compare are the checksums, and either answer ends right
          rename_i length
          rw [Decidable.not_not] at length
          exact Source.whole_of_header length.symm (length ▸ Nat.le_of_not_lt within)

end Frame

namespace Source

/-- The reader and the decoder agree on where a frame ends: what one reads off any stream, the other
takes or refuses for its checksum alone, and the other way round. -/
theorem readFrame_agrees (s : Source) :
    (∀ frame t, s.readFrame = (.ok frame, t) →
      s.rest = frame ++ t.rest ∧ Frame.Ends (Frame.decode frame) ∧
      ∃ (header : Frame.Header) (payload : Bytes),
        frame = header.bytes ++ payload ∧ header.length = payload.length ∧
        ((∃ x, Frame.decode frame = .ok x) ↔ (crc32 payload).toNat = header.checksum)) ∧
    (s.pacing.Steady → ∀ frame rest, s.rest = frame ++ rest → Frame.Ends (Frame.decode frame) →
      ∃ t, s.readFrame = (.ok frame, t) ∧ t.rest = rest) := by
  constructor
  · intro frame t read
    have whole := (whole_of_readFrame read).1
    obtain ⟨header, payload, joined, length, verdict⟩ := whole.decode_eq
    refine ⟨(rest_of_readFrame read).1, Frame.whole_iff_ends.mp whole, header, payload, joined,
      length, ?_⟩
    rw [verdict]
    split
    · rename_i same
      exact ⟨fun _ => same, fun _ => ⟨_, rfl⟩⟩
    · rename_i different
      refine ⟨?_, fun same => absurd same different⟩
      rintro ⟨_, taken⟩
      cases taken
  · intro steady frame rest front ends
    obtain ⟨t, read, left⟩ := readFrame_of_whole steady (Frame.whole_iff_ends.mpr ends) front
    exact ⟨t, read, left.rest_eq⟩

/-- A frame with a wrong checksum is read off a stream that gives one byte at a time, with the bytes
behind it left, and is not decoded. -/
theorem readFrame_agrees_damaged :
    let frame := Frame.Header.bytes ⟨1, 2, 0⟩ ++ [7, 8]
    let s : Source :=
      { rest := frame ++ [1, 2], ending := .fault (.ofKind .connectionReset),
        pacing := .uniform 1 1 }
    s.pacing.Steady ∧ Frame.Ends (Frame.decode frame) ∧
      (∃ t, s.readFrame = (.ok frame, t) ∧ t.rest = [1, 2]) ∧
      Frame.decode frame = .error (.wrongChecksum 0 0x430C0A) := by
  intro frame s
  have steady : s.pacing.Steady := Pacing.steady_uniform.mpr (by decide)
  have found : Frame.header? frame = some (⟨1, 2, 0⟩, [7, 8]) := rfl
  have checksum : (crc32 [7, 8]).toNat = 0x430C0A := by decide +kernel
  have refused : Frame.decode frame = .error (.wrongChecksum 0 0x430C0A) := by
    simp only [Frame.decode, found, checksum]
    rfl
  have ends : Frame.Ends (Frame.decode frame) := refused ▸ .wrongChecksum 0 0x430C0A
  exact ⟨steady, ends, (readFrame_agrees s).2 steady frame [1, 2] rfl ends, refused⟩

end Source
end AtomicKv
