import AtomicKv.Command
import AtomicKv.Proofs.FrameCut

/-!
# The form of commands is exact

A frame is taken for a command exactly when it is the encoding of that command and the fields
of the command, each with its length, fit the limit of a frame (`decode_eq_ok_iff`). Lengths
past four bytes wrap around in an encoding, but the whole of such fields never fits, so that
the frame is refused by its real length before any field is looked at.
-/
namespace AtomicKv

theorem CommandKind.ofTag?_eq_some_iff {tag : UInt8} {kind : CommandKind} :
    CommandKind.ofTag? tag = some kind ↔ tag = kind.tag := by
  constructor
  · intro known
    unfold CommandKind.ofTag? at known
    split at known <;> cases known <;> rfl
  · rintro rfl
    cases kind <;> rfl

namespace Command

theorem length_encodeField (data : Bytes) : (encodeField data).length = 4 + data.length := by
  rw [encodeField, List.length_append, Bytes.length_bigEndian]

theorem length_fields (c : Command) : (c.fields.flatMap encodeField).length = c.payloadSize := by
  unfold payloadSize
  induction c.fields with
  | nil => rfl
  | cons data rest ih =>
    rw [List.flatMap_cons, List.length_append, length_encodeField, ih, List.foldr_cons]

@[simp] theorem length_encode (c : Command) :
    c.encode.length = Frame.headerSize + c.payloadSize := by
  rw [encode, Frame.length_encode, length_fields]

theorem decodeField_steps {field : Field} {payload data rest : Bytes} :
    decodeField field payload = .ok (data, rest) ↔ ∃ length body,
      (∃ digits, Bytes.cut? 4 payload = some (digits, body) ∧ Bytes.ofBigEndian digits = length) ∧
        Bytes.cut? length body = some (data, rest) := by
  rw [decodeField]
  cases Bytes.cut? 4 payload with
  | none => simp
  | some found =>
    obtain ⟨digits, body⟩ := found
    dsimp only
    constructor
    · intro taken
      split at taken
      · cases taken
      · rename_i data' rest' cut
        cases taken
        exact ⟨Bytes.ofBigEndian digits, body, ⟨digits, rfl, rfl⟩, cut⟩
    · intro h
      obtain ⟨length, body', ⟨digits', same, rfl⟩, cut⟩ := h
      cases same
      rw [cut]

/-- A field is taken off a payload exactly when its encoding stands in front. -/
theorem decodeField_eq_ok_iff {field : Field} {payload data rest : Bytes} :
    decodeField field payload = .ok (data, rest) ↔
      payload = encodeField data ++ rest ∧ data.length < 2 ^ 32 := by
  simp only [decodeField_steps, Bytes.cut?_bigEndian_iff]
  constructor
  · intro h
    obtain ⟨length, body, ⟨rfl, small⟩, cut⟩ := h
    obtain ⟨rfl, rfl⟩ := Bytes.cut?_eq_some.mp cut
    exact ⟨(List.append_assoc _ _ _).symm, small⟩
  · intro h
    obtain ⟨rfl, small⟩ := h
    exact ⟨data.length, data ++ rest, ⟨List.append_assoc _ _ _, small⟩,
      Bytes.cut?_append data rest⟩

theorem bind_eq_ok_iff {ε α β : Type} {step : Except ε α} {next : α → Except ε β} {b : β} :
    (step >>= next) = .ok b ↔ ∃ a, step = .ok a ∧ next a = .ok b := by
  cases step with
  | error e => simp [bind, Except.bind]
  | ok a => simp [bind, Except.bind]

/-- The fields of a command are taken off a payload exactly when their encodings stand in
front, one after another. -/
theorem decodeFields_eq_ok_iff {kind : CommandKind} {payload rest : Bytes} {c : Command} :
    decodeFields kind payload = .ok (c, rest) ↔
      kind = c.kind ∧ payload = c.fields.flatMap encodeField ++ rest ∧
        ∀ data ∈ c.fields, data.length < 2 ^ 32 := by
  cases kind with
  | read =>
    simp only [decodeFields, bind_eq_ok_iff, Prod.exists, decodeField_eq_ok_iff, pure, Except.pure,
      Except.ok.injEq, Prod.mk.injEq]
    constructor
    · intro h
      obtain ⟨key, left, ⟨rfl, small⟩, rfl, rfl⟩ := h
      exact ⟨rfl, by simp [fields], by simpa [fields] using small⟩
    · intro h
      obtain ⟨same, rfl, small⟩ := h
      cases c <;> cases same
      rename_i key
      exact ⟨key, rest, ⟨by simp [fields], small key (by simp [fields])⟩, rfl, rfl⟩
  | write =>
    simp only [decodeFields, bind_eq_ok_iff, Prod.exists, decodeField_eq_ok_iff, pure, Except.pure,
      Except.ok.injEq, Prod.mk.injEq]
    constructor
    · intro h
      obtain ⟨key, _, ⟨rfl, small⟩, value, left, ⟨rfl, small'⟩, rfl, rfl⟩ := h
      exact ⟨rfl, by simp [fields], by simpa [fields] using ⟨small, small'⟩⟩
    · intro h
      obtain ⟨same, rfl, small⟩ := h
      cases c <;> cases same
      rename_i key value
      exact ⟨key, encodeField value ++ rest, ⟨by simp [fields], small key (by simp [fields])⟩,
        value, rest, ⟨rfl, small value (by simp [fields])⟩, rfl, rfl⟩
  | testAndSet =>
    simp only [decodeFields, bind_eq_ok_iff, Prod.exists, decodeField_eq_ok_iff, pure, Except.pure,
      Except.ok.injEq, Prod.mk.injEq]
    constructor
    · intro h
      obtain ⟨key, _, ⟨rfl, small⟩, expected, _, ⟨rfl, small'⟩, value, left, ⟨rfl, small''⟩, rfl,
        rfl⟩ := h
      exact ⟨rfl, by simp [fields], by simpa [fields] using ⟨small, small', small''⟩⟩
    · intro h
      obtain ⟨same, rfl, small⟩ := h
      cases c <;> cases same
      rename_i key expected value
      exact ⟨key, encodeField expected ++ (encodeField value ++ rest),
        ⟨by simp [fields], small key (by simp [fields])⟩,
        expected, encodeField value ++ rest, ⟨rfl, small expected (by simp [fields])⟩,
        value, rest, ⟨rfl, small value (by simp [fields])⟩, rfl, rfl⟩

/-- A payload holds a command exactly when it is the encodings of its fields and nothing else. -/
theorem ofPayload_eq_ok_iff {kind : CommandKind} {payload : Bytes} {c : Command} :
    ofPayload kind payload = .ok c ↔
      kind = c.kind ∧ payload = c.fields.flatMap encodeField ∧
        ∀ data ∈ c.fields, data.length < 2 ^ 32 := by
  have taken : ofPayload kind payload = .ok c ↔ decodeFields kind payload = .ok (c, []) := by
    rw [ofPayload]
    cases decodeFields kind payload with
    | error flaw => simp
    | ok found =>
      obtain ⟨command, rest⟩ := found
      dsimp only
      by_cases nothing : rest = []
      · simp [nothing]
      · simp [nothing]
  rw [taken, decodeFields_eq_ok_iff, List.append_nil]

/-- Each field takes up its part of the payload. -/
theorem length_field_le {c : Command} {data : Bytes} (field : data ∈ c.fields) :
    4 + data.length ≤ c.payloadSize := by
  unfold payloadSize
  generalize c.fields = fields at field
  induction fields with
  | nil => cases field
  | cons first rest ih =>
    rw [List.foldr_cons]
    cases field with
    | head => omega
    | tail _ later =>
      have part := ih later
      omega

/-- A field of a command that fits a frame fits a frame of its own. -/
theorem short_of_field {c : Command} {data : Bytes} (fits : c.payloadSize ≤ Frame.maxPayload)
    (field : data ∈ c.fields) : data.length ≤ Frame.maxPayload := by
  have part := length_field_le field
  omega

theorem length_lt_of_fits {c : Command} (fits : c.payloadSize ≤ Frame.maxPayload) :
    ∀ data ∈ c.fields, data.length < 2 ^ 32 := by
  intro data field
  have part := length_field_le field
  exact Frame.lt_of_within (by omega)

/-- A frame is taken for a command exactly when it is the encoding of the command and the
command fits the limit. -/
theorem decode_eq_ok_iff {frame : Bytes} {c : Command} :
    decode frame = .ok c ↔ frame = c.encode ∧ c.payloadSize ≤ Frame.maxPayload := by
  rw [decode]
  constructor
  · intro taken
    split at taken
    · cases taken
    · rename_i tag payload parsed
      obtain ⟨rfl, within⟩ := Frame.decode_eq_ok_iff.mp parsed
      split at taken
      · cases taken
      · rename_i kind known
        split at taken
        · cases taken
        · rename_i command held
          cases taken
          obtain ⟨rfl, rfl, -⟩ := ofPayload_eq_ok_iff.mp held
          rw [length_fields] at within
          rw [CommandKind.ofTag?_eq_some_iff.mp known]
          exact ⟨rfl, within⟩
  · intro h
    obtain ⟨rfl, fits⟩ := h
    have parsed : Frame.decode c.encode = .ok (c.kind.tag, c.fields.flatMap encodeField) :=
      Frame.decode_eq_ok_iff.mpr ⟨rfl, by rw [length_fields]; exact fits⟩
    have known : CommandKind.ofTag? c.kind.tag = some c.kind :=
      CommandKind.ofTag?_eq_some_iff.mpr rfl
    have held : ofPayload c.kind (c.fields.flatMap encodeField) = .ok c :=
      ofPayload_eq_ok_iff.mpr ⟨rfl, rfl, length_lt_of_fits fits⟩
    simp only [parsed, known, held]

/-- The encoding of a command that fits is a whole frame. -/
theorem whole_encode {c : Command} (fits : c.payloadSize ≤ Frame.maxPayload) :
    Frame.Whole c.encode :=
  Frame.whole_encode (by rw [length_fields]; exact fits)

theorem cut_encode {c : Command} (fits : c.payloadSize ≤ Frame.maxPayload) :
    Frame.Cut c.encode [c.encode] [] :=
  Frame.cut_encode (by rw [length_fields]; exact fits)

theorem decode_encode {c : Command} (fits : c.payloadSize ≤ Frame.maxPayload) :
    decode c.encode = .ok c :=
  decode_eq_ok_iff.mpr ⟨rfl, fits⟩

/-- Two commands with one encoding have payloads of one size. -/
theorem payloadSize_eq_of_encode {c d : Command} (same : c.encode = d.encode) :
    c.payloadSize = d.payloadSize := by
  have lengths := congrArg List.length same
  rw [length_encode, length_encode] at lengths
  omega

theorem decode_encode_of_large {c : Command} (large : Frame.maxPayload < c.payloadSize) :
    ∃ flaw, decode c.encode = .error flaw := by
  cases taken : decode c.encode with
  | error flaw => exact ⟨flaw, rfl⟩
  | ok d =>
    obtain ⟨same, fits⟩ := decode_eq_ok_iff.mp taken
    rw [← payloadSize_eq_of_encode same] at fits
    exact absurd large (Nat.not_lt.mpr fits)

/-- Encoding is a bijection from the commands that fit the limit onto the frames that are taken for
commands. -/
theorem encode_bijective (c : Command) :
    (∀ frame, decode frame = .ok c ↔ frame = c.encode ∧ c.payloadSize ≤ Frame.maxPayload) ∧
      c.encode.length = Frame.headerSize + c.payloadSize ∧
      (c.payloadSize ≤ Frame.maxPayload → ∀ d : Command, d.encode = c.encode → d = c) ∧
      (Frame.maxPayload < c.payloadSize → ∃ flaw, decode c.encode = .error flaw) := by
  refine ⟨fun frame => decode_eq_ok_iff, length_encode c, fun fits d same => ?_,
    decode_encode_of_large⟩
  have taken : decode d.encode = .ok d :=
    decode_encode (by rw [payloadSize_eq_of_encode same]; exact fits)
  rw [same, decode_encode fits] at taken
  exact (Except.ok.inj taken).symm

/-- A test-and-set on the empty key, and a read of a key that leaves no room for its length. -/
theorem encode_bijective_testAndSet :
    let c : Command := .testAndSet [] [1] [2, 3]
    let large : Command := .read (List.replicate Frame.maxPayload 0)
    c.payloadSize ≤ Frame.maxPayload ∧ decode c.encode = .ok c ∧
      (∀ d : Command, d.encode = c.encode → d = c) ∧
      Frame.maxPayload < large.payloadSize ∧ ∃ flaw, decode large.encode = .error flaw := by
  intro c large
  have fits : c.payloadSize ≤ Frame.maxPayload := by decide
  have past : Frame.maxPayload < large.payloadSize := by
    have part : 4 + (List.replicate Frame.maxPayload (0 : UInt8)).length ≤ large.payloadSize :=
      length_field_le List.mem_cons_self
    rw [List.length_replicate] at part
    omega
  obtain ⟨taken, -, alone, -⟩ := encode_bijective c
  obtain ⟨-, -, -, refused⟩ := encode_bijective large
  exact ⟨fits, (taken c.encode).mpr ⟨rfl, fits⟩, alone fits, past, refused past⟩

end Command
end AtomicKv
