import AtomicKv.Proofs.Checksum
import AtomicKv.Proofs.ReplyExact
import AtomicKv.Proofs.SessionRun

/-!
# Damaged frames are refused

A frame that is damaged within four bytes of its payload in a row, or anywhere in the length and
the checksum of its header, is no frame any more (`damage_detected`). In the payload the checksum
shows it; in the header it is enough that the length and the checksum of a frame are those of its
payload. Only the tag is covered by neither. What is no frame is no command and a reply of unknown
outcome, and a session that reads it goes on with the store that it had.
-/
namespace AtomicKv

/-- Two byte strings of one length that differ, but only at some positions in a row. -/
structure DiffersWithin (first count : Nat) (bs bs' : Bytes) : Prop where
  length_eq : bs'.length = bs.length
  differs : bs' ≠ bs
  within : ∀ j, bs'[j]? ≠ bs[j]? → first ≤ j ∧ j < first + count

namespace DiffersWithin

variable {first count : Nat} {bs bs' : Bytes}

theorem take_eq (d : DiffersWithin first count bs bs') : bs'.take first = bs.take first := by
  apply List.ext_getElem?
  intro j
  rw [List.getElem?_take, List.getElem?_take]
  split
  · apply Decidable.byContradiction
    intro different
    have place := d.within j different
    omega
  · rfl

theorem drop_eq (d : DiffersWithin first count bs bs') :
    bs'.drop (first + count) = bs.drop (first + count) := by
  apply List.ext_getElem?
  intro j
  rw [List.getElem?_drop, List.getElem?_drop]
  apply Decidable.byContradiction
  intro different
  have place := d.within _ different
  omega

theorem parts_eq (n m : Nat) (bs : Bytes) :
    bs = bs.take n ++ ((bs.drop n).take m ++ bs.drop (n + m)) := by
  rw [← List.drop_drop, List.take_append_drop, List.take_append_drop]

/-- Byte strings that differ within some positions are the same in front and behind. -/
theorem exists_parts (d : DiffersWithin first count bs bs') :
    ∃ front v w behind, bs = front ++ (v ++ behind) ∧ bs' = front ++ (w ++ behind) ∧ w ≠ v ∧
      w.length = v.length ∧ front.length = min first bs.length ∧
      v.length = min count (bs.length - first) := by
  refine ⟨bs.take first, (bs.drop first).take count, (bs'.drop first).take count,
    bs.drop (first + count), parts_eq first count bs, ?_, ?_, ?_, ?_, ?_⟩
  · rw [← d.take_eq, ← d.drop_eq]
    exact parts_eq first count bs'
  · intro same
    apply d.differs
    rw [parts_eq first count bs', parts_eq first count bs, d.take_eq, d.drop_eq, same]
  · rw [List.length_take, List.length_take, List.length_drop, List.length_drop, d.length_eq]
  · rw [List.length_take]
  · rw [List.length_take, List.length_drop]

theorem of_parts (front : Bytes) {v w : Bytes} (behind : Bytes) (differs : w ≠ v)
    (length : w.length = v.length) :
    DiffersWithin front.length v.length (front ++ (v ++ behind)) (front ++ (w ++ behind)) where
  length_eq := by simp only [List.length_append, length]
  differs same := differs (List.append_inj (List.append_cancel_left same) length).1
  within j different := by
    by_cases before : j < front.length
    · rw [List.getElem?_append_left before, List.getElem?_append_left before] at different
      exact absurd rfl different
    · have inside : front.length ≤ j := Nat.le_of_not_lt before
      rw [List.getElem?_append_right inside, List.getElem?_append_right inside] at different
      by_cases after : j < front.length + v.length
      · omega
      · have past : v.length ≤ j - front.length := by omega
        have past' : w.length ≤ j - front.length := length ▸ past
        rw [List.getElem?_append_right past', List.getElem?_append_right past, length] at different
        exact absurd rfl different

end DiffersWithin

namespace Frame

/-- What damage turns a byte string into: up to four bytes of the payload in a row are changed, or
any bytes of the length and the checksum. -/
inductive Damaged (frame : Bytes) : Bytes → Prop where
  | payload {damaged : Bytes} {first : Nat} (behind : headerSize ≤ first)
    (differs : DiffersWithin first 4 frame damaged) : Damaged frame damaged
  | header {damaged : Bytes} (differs : DiffersWithin 1 8 frame damaged) : Damaged frame damaged

variable {frame damaged payload payload' : Bytes} {tag tag' : UInt8}

theorem Header.bytes_inj {h h' : Header} (length : h.length < 2 ^ 32) (checksum : h.checksum < 2 ^ 32)
    (length' : h'.length < 2 ^ 32) (checksum' : h'.checksum < 2 ^ 32) (same : h.bytes = h'.bytes) :
    h = h' := by
  have found : header? (h.bytes ++ []) = some (h, []) :=
    header?_eq_some_iff.mpr ⟨rfl, length, checksum⟩
  have found' : header? (h'.bytes ++ []) = some (h', []) :=
    header?_eq_some_iff.mpr ⟨rfl, length', checksum'⟩
  rw [same, found'] at found
  cases found
  rfl

theorem Holds.take_eq (holds : Holds frame tag payload) :
    frame.take headerSize = Header.bytes ⟨tag, payload.length, (crc32 payload).toNat⟩ := by
  rw [holds.1, encode_eq, ← Header.length_bytes, List.take_left]

theorem Holds.drop_eq (holds : Holds frame tag payload) : frame.drop headerSize = payload := by
  rw [holds.1, encode_eq, ← Header.length_bytes, List.drop_left]

/-- Frames with one header have payloads with one checksum. -/
theorem Holds.crc32_eq (holds : Holds frame tag payload) (holds' : Holds damaged tag' payload')
    (same : damaged.take headerSize = frame.take headerSize) : crc32 payload' = crc32 payload := by
  rw [holds.take_eq, holds'.take_eq] at same
  have headers := Header.bytes_inj (lt_of_within holds'.2) (crc32 payload').toNat_lt
    (lt_of_within holds.2) (crc32 payload).toNat_lt same
  apply UInt32.toNat_inj.mp
  exact congrArg Header.checksum headers

theorem Holds.not_of_payload {first : Nat} (holds : Holds frame tag payload)
    (behind : headerSize ≤ first) (differs : DiffersWithin first 4 frame damaged) :
    ¬ Holds damaged tag' payload' := by
  intro holds'
  have header : damaged.take headerSize = frame.take headerSize := by
    have fronts := congrArg (List.take headerSize) differs.take_eq
    rwa [List.take_take, List.take_take, Nat.min_eq_left behind] at fronts
  have checksums := holds.crc32_eq holds' header
  obtain ⟨front, v, w, rest, parts, parts', different, length, length_front, length_v⟩ :=
    differs.exists_parts
  have long : headerSize ≤ front.length := by
    have header_le := holds.whole.header_le
    omega
  rw [← holds.drop_eq, ← holds'.drop_eq, parts, parts', List.drop_append_of_le_length long,
    List.drop_append_of_le_length long, ← List.append_assoc, ← List.append_assoc] at checksums
  have short : w.length ≤ 4 := by omega
  exact different ((crc32_window_injective _ rest short length.symm).mp checksums)

theorem Holds.not_of_header (holds : Holds frame tag payload)
    (differs : DiffersWithin 1 8 frame damaged) : ¬ Holds damaged tag' payload' := by
  intro holds'
  -- the tag in front and the payload behind are as they were, and a frame has no more to it
  have tags : [tag'] = [tag] := by
    have fronts := differs.take_eq
    rw [holds.1, holds'.1] at fronts
    exact fronts
  have payloads : payload' = payload := by
    have ends := differs.drop_eq
    rw [← holds.drop_eq, ← holds'.drop_eq]
    exact ends
  apply differs.differs
  rw [holds.1, holds'.1, payloads, (List.cons.inj tags).1]

/-- A damaged frame is no frame, of whatever tag and payload. -/
theorem Holds.not_of_damaged (holds : Holds frame tag payload) (damage : Damaged frame damaged) :
    ¬ Holds damaged tag' payload' := by
  cases damage with
  | payload behind differs => exact holds.not_of_payload behind differs
  | header differs => exact holds.not_of_header differs

end Frame

namespace Session

variable (store : Store) {source source' : Source} (sink : Sink) {frame : Bytes}
  {flaw : Command.Flaw}

/-- A session that has nothing to read leaves the store as it was. -/
theorem serve_store_of_nothing (nothing : source.rest = []) :
    (serve store source sink).store = store := by
  rw [serve]
  split
  · split <;> rfl
  · rename_i frame t read
    obtain ⟨front, header⟩ := Source.rest_of_readFrame read
    rw [nothing] at front
    rw [(List.append_eq_nil_iff.mp front.symm).1] at header
    cases header

/-- A frame that holds no command gets its reply, and if that can be written the session goes on
behind the frame with the store that it had. -/
theorem serve_store_of_refused (read : source.readFrame = (.ok frame, source'))
    (refused : Command.decode frame = .error flaw) :
    (serve store source sink).store =
      match sink.writeFrame (replyTo store frame).encode with
      | (.ok _, sink') => (serve store source' sink').store
      | (.error _, _) => store := by
  have unchanged : store.after (commands [frame]) = store := by
    simp [commands, refused, Except.toOption, Store.after]
  cases written : sink.writeFrame (replyTo store frame).encode with
  | mk result sink' =>
    cases result with
    | ok done => rw [serve_of_frame read written, unchanged]
    | error f =>
      rw [serve]
      split
      · rename_i f' t failed
        rw [read] at failed
        cases failed
      · rename_i frame' t read'
        rw [read] at read'
        cases read'
        simp only [answer_eq, written, unchanged]

end Session

/-- A frame damaged within four bytes of the payload in a row, or in the length and the checksum, is
no frame any more, and a session that reads it leaves the store as it was. -/
theorem damage_detected {frame damaged payload : Bytes} {tag : UInt8}
    (taken : Frame.decode frame = .ok (tag, payload)) (damage : Frame.Damaged frame damaged) :
    ∃ flaw, Frame.decode damaged = .error flaw ∧ Command.decode damaged = .error (.frame flaw) ∧
      Outcome.ofFrame damaged = .unknown flaw.message ∧
      ∀ (store : Store) (source source' : Source) (sink : Sink),
        source.readFrame = (.ok damaged, source') →
          (Session.answer store damaged).2 = store ∧
          ((Session.serve store source sink).store =
            match sink.writeFrame (Session.replyTo store damaged).encode with
            | (.ok _, sink') => (Session.serve store source' sink').store
            | (.error _, _) => store) ∧
          (source'.rest = [] → (Session.serve store source sink).store = store) := by
  have holds : Frame.Holds frame tag payload := Frame.decode_eq_ok_iff.mp taken
  cases refused : Frame.decode damaged with
  | ok parts => exact absurd (Frame.decode_eq_ok_iff.mp refused) (holds.not_of_damaged damage)
  | error flaw =>
    have no_command : Command.decode damaged = .error (.frame flaw) := by
      rw [Command.decode, refused]
    have unknown : Outcome.ofFrame damaged = .unknown flaw.message := by
      rw [Outcome.ofFrame, refused]
    refine ⟨flaw, rfl, no_command, unknown, fun store source source' sink read => ?_⟩
    have goes_on := Session.serve_store_of_refused store sink read no_command
    refine ⟨?_, goes_on, fun nothing => ?_⟩
    · rw [Session.answer, no_command]
    · rw [goes_on]
      split
      · exact Session.serve_store_of_nothing store _ nothing
      · rfl

/-- The read of a key whose last four payload bytes are overwritten, and the same read with its
checksum set to zero. -/
theorem damage_detected_read :
    let header : Bytes := [1, 0, 0, 0, 5, 0x41, 0x5D, 0x53, 0xFF]
    let frame := header ++ [0, 0, 0, 1, 7]
    let overwritten := header ++ [0, 9, 9, 9, 9]
    let zeroed : Bytes := [1, 0, 0, 0, 5, 0, 0, 0, 0] ++ [0, 0, 0, 1, 7]
    let source : Source := { rest := overwritten, ending := .finished }
    let store := Store.empty.insert [7] [1]
    Frame.decode frame = .ok (1, [0, 0, 0, 1, 7]) ∧ Frame.Damaged frame overwritten ∧
      (∃ flaw, Command.decode overwritten = .error flaw) ∧ (Outcome.ofFrame overwritten).IsUnknown ∧
      (Session.serve store source {}).store = store ∧
      Frame.Damaged frame zeroed ∧ (Outcome.ofFrame zeroed).IsUnknown := by
  intro header frame overwritten zeroed source store
  have taken : Frame.decode frame = .ok (1, [0, 0, 0, 1, 7]) :=
    Frame.decode_eq_ok_iff.mpr ⟨by decide +kernel, by decide⟩
  have payload : Frame.Damaged frame overwritten := by
    refine .payload (by decide : Frame.headerSize ≤ 10) ?_
    have bytes : ([9, 9, 9, 9] : Bytes) ≠ [0, 0, 1, 7] := by decide
    exact .of_parts (header ++ [0]) [] bytes rfl
  have checksum : Frame.Damaged frame zeroed := by
    have fields : ([0, 0, 0, 5, 0, 0, 0, 0] : Bytes) ≠ [0, 0, 0, 5, 0x41, 0x5D, 0x53, 0xFF] := by
      decide
    exact .header (.of_parts [1] [0, 0, 0, 1, 7] fields rfl)
  have whole : Frame.Whole overwritten := by decide
  have steady : source.pacing.Steady := Pacing.steady_eager
  obtain ⟨source', read, left⟩ :=
    Source.readFrame_of_whole steady whole (List.append_nil overwritten).symm
  obtain ⟨flaw, -, no_command, unknown, session⟩ := damage_detected taken payload
  obtain ⟨flaw', -, -, unknown', -⟩ := damage_detected taken checksum
  obtain ⟨-, -, unchanged⟩ := session store source source' {} read
  exact ⟨taken, payload, ⟨_, no_command⟩, ⟨_, unknown⟩, unchanged left.rest_eq, checksum,
    ⟨_, unknown'⟩⟩

end AtomicKv
