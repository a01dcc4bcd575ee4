import AtomicKv.Outcome
import AtomicKv.Proofs.FrameCut
import AtomicKv.Proofs.WireExact

/-!
# What a client makes of replies

A byte string has an outcome other than an unknown one exactly when it is a frame that conveys
this outcome (`ofFrame_eq_iff`, `ofFrame_eq_unknown_iff`): a byte more, a byte less or another
checksum makes it no frame at all. A reply within the limit is a whole frame, its outcome is
told by its status and payload alone (`ofFrame_encode`), and what stands in it, a value or a
reason, is what it was written from.
-/
namespace AtomicKv

theorem Status.ofTag?_tag (s : Status) : ofTag? s.tag = some s := by
  cases s <;> rfl

theorem Status.ofTag?_eq_some_iff {tag : UInt8} {s : Status} :
    ofTag? tag = some s ↔ tag = s.tag := by
  constructor
  · intro known
    unfold ofTag? at known
    split at known <;> cases known <;> rfl
  · rintro rfl
    exact s.ofTag?_tag

theorem sized_of_short {value : Value} (short : value.wire.length ≤ Frame.maxPayload) :
    value.Sized :=
  Value.sized_of_length_wire (Nat.lt_of_le_of_lt short (by decide))

namespace Frame

/-- A byte string is the frame of a tag and a payload within the limit. -/
def Holds (frame : Bytes) (tag : UInt8) (payload : Bytes) : Prop :=
  frame = encode tag payload ∧ payload.length ≤ maxPayload

variable {frame payload : Bytes} {tag : UInt8}

theorem Holds.whole (holds : Holds frame tag payload) : Whole frame := by
  rw [holds.1]
  exact whole_encode holds.2

/-- A frame that loses bytes at its end is none. -/
theorem Holds.not_of_beginning {front : Bytes} (holds : Holds frame tag payload)
    (begins : front <+: frame) (proper : front ≠ frame) (tag' : UInt8) (payload' : Bytes) :
    ¬ Holds front tag' payload' := by
  intro holds'
  obtain ⟨rest, joined⟩ := begins
  have same : front ++ rest = frame ++ [] := by rw [joined, List.append_nil]
  exact proper (holds'.whole.append_inj holds.whole same).1

/-- A frame with bytes behind it is none. -/
theorem Holds.not_append {extra : Bytes} (holds : Holds frame tag payload) (some_more : extra ≠ [])
    (tag' : UInt8) (payload' : Bytes) : ¬ Holds (frame ++ extra) tag' payload' := by
  intro holds'
  have same : frame ++ extra = (frame ++ extra) ++ [] := (List.append_nil _).symm
  exact some_more (holds.whole.append_inj holds'.whole same).2

/-- A frame has the length and the checksum of its payload in its header. -/
theorem Holds.header {length checksum : Bytes} {tag' : UInt8} {payload' : Bytes}
    (four : length.length = 4) (four' : checksum.length = 4)
    (holds : Holds (tag' :: length ++ checksum ++ payload') tag payload) :
    length = Bytes.bigEndian 4 payload'.length ∧
      checksum = Bytes.bigEndian 4 (crc32 payload').toNat := by
  have same := holds.1
  rw [encode] at same
  obtain ⟨headers, rfl⟩ := List.append_inj same (by simp [four, four'])
  obtain ⟨lengths, checksums⟩ := List.append_inj headers (by simp [four])
  exact ⟨(List.cons.inj lengths).2, checksums⟩

end Frame

namespace Reply

/-- The payload as it is written: an absent one is empty. -/
def body (r : Reply) : Bytes :=
  r.payload.getD []

theorem whole_encode {r : Reply} (fits : r.body.length ≤ Frame.maxPayload) :
    Frame.Whole r.encode :=
  Frame.whole_encode fits

theorem holds_encode {r : Reply} (fits : r.body.length ≤ Frame.maxPayload) :
    Frame.Holds r.encode r.status.tag r.body :=
  ⟨rfl, fits⟩

/-- The replies that a node makes, each with the outcome that it stands for. -/
inductive StandsFor : Reply → Outcome → Prop where
  | done : StandsFor (.ok none) .done
  | value (v : Value) : StandsFor (.ok (some v.wire)) (.value v)
  | notFound : StandsFor .notFound .notFound
  | abort (reason : String) : StandsFor (.abort reason) (.aborted reason)
  | keyChanged (v : Value) : StandsFor (.keyChanged v.wire) (.keyChanged v)
  | unknown (reason : String) : StandsFor (.unknown reason) (.unknown reason)

end Reply

namespace Outcome

/-- A byte string is a frame that conveys an outcome. No frame is needed for an unknown one. -/
def ConveyedBy (bs : Bytes) : Outcome → Prop
  | .done => bs = (Reply.ok none).encode
  | .value v => ∃ payload, Frame.Holds bs 0 payload ∧ v.wire <+: payload
  | .notFound => ∃ payload, Frame.Holds bs 1 payload
  | .aborted reason => ∃ payload, Frame.Holds bs 2 payload ∧ reason = Utf8.lossy payload
  | .keyChanged v => ∃ payload, Frame.Holds bs 3 payload ∧ v.wire <+: payload
  | .unknown _ => False

def IsUnknown (o : Outcome) : Prop :=
  ∃ reason, o = .unknown reason

theorem ofFrame_of_holds (status : Status) {bs payload : Bytes}
    (holds : Frame.Holds bs status.tag payload) : ofFrame bs = ofPayload payload status := by
  rw [ofFrame, Frame.decode_eq_ok_iff.mpr holds]
  simp only [Status.ofTag?_tag]

/-- A byte string is the frame of some status, or else of unknown outcome. -/
theorem ofFrame_cases (bs : Bytes) :
    (∃ status payload, Frame.Holds bs (Status.tag status) payload) ∨
      (ofFrame bs).IsUnknown := by
  rw [ofFrame]
  cases taken : Frame.decode bs with
  | error flaw => exact Or.inr ⟨_, rfl⟩
  | ok parts =>
    obtain ⟨tag, payload⟩ := parts
    have holds : Frame.Holds bs tag payload := Frame.decode_eq_ok_iff.mp taken
    cases known : Status.ofTag? tag with
    | none =>
      simp only [known]
      exact Or.inr ⟨_, rfl⟩
    | some status =>
      rw [Status.ofTag?_eq_some_iff.mp known] at holds
      exact Or.inl ⟨status, payload, holds⟩

theorem ofFrame_encode {r : Reply} (fits : r.body.length ≤ Frame.maxPayload) :
    ofFrame r.encode = ofPayload r.body r.status :=
  ofFrame_of_holds r.status (Reply.holds_encode fits)

/-- A payload begins with the wire form of a value exactly when the value is read off it. -/
theorem ofWire_eq_ok_iff_begins {payload : Bytes} (within : payload.length ≤ Frame.maxPayload)
    {v : Value} : Value.ofWire payload = .ok v ↔ v.wire <+: payload := by
  rw [Value.ofWire_eq_ok_iff]
  constructor
  · exact And.right
  · intro begins
    exact ⟨sized_of_short (Nat.le_trans begins.length_le within), begins⟩

theorem ofPayload_ok_of_begins {payload : Bytes} (within : payload.length ≤ Frame.maxPayload)
    {v : Value} (begins : v.wire <+: payload) : ofPayload payload .ok = .value v := by
  have some_bytes : payload ≠ [] := by
    rintro rfl
    exact v.wire_ne_nil (List.prefix_nil.mp begins)
  rw [ofPayload, if_neg some_bytes, (ofWire_eq_ok_iff_begins within).mpr begins]

theorem ofPayload_keyChanged_of_begins {payload : Bytes}
    (within : payload.length ≤ Frame.maxPayload) {v : Value} (begins : v.wire <+: payload) :
    ofPayload payload .keyChanged = .keyChanged v := by
  rw [ofPayload, (ofWire_eq_ok_iff_begins within).mpr begins]

theorem ofPayload_eq_keyChanged_iff_begins {payload : Bytes}
    (within : payload.length ≤ Frame.maxPayload) {v : Value} :
    ofPayload payload .keyChanged = .keyChanged v ↔ v.wire <+: payload := by
  constructor
  · intro same
    rw [ofPayload] at same
    split at same
    · rename_i w read
      cases same
      exact (ofWire_eq_ok_iff_begins within).mp read
    · cases same
  · exact ofPayload_keyChanged_of_begins within

theorem ofFrame_of_conveyed {bs : Bytes} {o : Outcome} (conveyed : o.ConveyedBy bs) :
    ofFrame bs = o := by
  cases o with
  | done =>
    have same : bs = (Reply.ok none).encode := conveyed
    rw [same, ofFrame_encode (Nat.zero_le _)]
    rfl
  | value v =>
    obtain ⟨payload, holds, begins⟩ := conveyed
    rw [ofFrame_of_holds .ok holds, ofPayload_ok_of_begins holds.2 begins]
  | notFound =>
    obtain ⟨payload, holds⟩ := conveyed
    exact ofFrame_of_holds .notFound holds
  | aborted reason =>
    obtain ⟨payload, holds, rfl⟩ := conveyed
    exact ofFrame_of_holds .abort holds
  | keyChanged v =>
    obtain ⟨payload, holds, begins⟩ := conveyed
    rw [ofFrame_of_holds .keyChanged holds,
      ofPayload_keyChanged_of_begins holds.2 begins]
  | unknown reason => cases conveyed

theorem conveyed_ofPayload {bs payload : Bytes} {status : Status}
    (holds : Frame.Holds bs status.tag payload) :
    (ofPayload payload status).ConveyedBy bs ∨ (ofPayload payload status).IsUnknown := by
  cases status with
  | ok =>
    rw [ofPayload]
    split
    · rename_i empty
      subst empty
      exact Or.inl holds.1
    · split
      · rename_i v read
        exact Or.inl ⟨payload, holds, (ofWire_eq_ok_iff_begins holds.2).mp read⟩
      · exact Or.inr ⟨_, rfl⟩
  | notFound => exact Or.inl ⟨payload, holds⟩
  | abort => exact Or.inl ⟨payload, holds, rfl⟩
  | keyChanged =>
    rw [ofPayload]
    split
    · rename_i v read
      exact Or.inl ⟨payload, holds, (ofWire_eq_ok_iff_begins holds.2).mp read⟩
    · exact Or.inr ⟨_, rfl⟩
  | unknown => exact Or.inr ⟨_, rfl⟩

theorem conveyed_ofFrame (bs : Bytes) :
    (ofFrame bs).ConveyedBy bs ∨ (ofFrame bs).IsUnknown := by
  cases ofFrame_cases bs with
  | inl framed =>
    obtain ⟨status, payload, holds⟩ := framed
    rw [ofFrame_of_holds status holds]
    exact conveyed_ofPayload holds
  | inr unknown => exact Or.inr unknown

theorem ofFrame_eq_iff {bs : Bytes} {o : Outcome} (known : ¬ o.IsUnknown) :
    ofFrame bs = o ↔ o.ConveyedBy bs := by
  constructor
  · rintro rfl
    cases conveyed_ofFrame bs with
    | inl conveyed => exact conveyed
    | inr unknown => exact absurd unknown known
  · exact ofFrame_of_conveyed

theorem ofFrame_eq_unknown_iff {bs : Bytes} :
    (ofFrame bs).IsUnknown ↔ ∀ o : Outcome, ¬ o.ConveyedBy bs := by
  constructor
  · intro h o conveyed
    obtain ⟨reason, same⟩ := h
    rw [ofFrame_of_conveyed conveyed] at same
    rw [same] at conveyed
    exact conveyed
  · intro none_conveyed
    cases conveyed_ofFrame bs with
    | inl conveyed => exact absurd conveyed (none_conveyed _)
    | inr unknown => exact unknown

/-- What is no frame of any tag is of unknown outcome. -/
theorem unknown_of_no_frame {bs : Bytes} (none_held : ∀ tag payload, ¬ Frame.Holds bs tag payload) :
    (ofFrame bs).IsUnknown := by
  cases ofFrame_cases bs with
  | inl framed =>
    obtain ⟨status, payload, holds⟩ := framed
    exact absurd holds (none_held _ _)
  | inr unknown => exact unknown

/-- A reply that a node makes and that fits a frame has the outcome it stands for. -/
theorem ofFrame_of_standsFor {r : Reply} {o : Outcome} (stands : r.StandsFor o)
    (fits : r.body.length ≤ Frame.maxPayload) : ofFrame r.encode = o := by
  rw [ofFrame_encode fits]
  cases stands with
  | done => rfl
  | value v => exact ofPayload_ok_of_begins fits List.prefix_rfl
  | notFound => rfl
  | abort reason => exact congrArg Outcome.aborted (Utf8.lossy_encode reason)
  | keyChanged v => exact ofPayload_keyChanged_of_begins fits List.prefix_rfl
  | unknown reason => exact congrArg Outcome.unknown (Utf8.lossy_encode reason)

/-- A byte string has an outcome exactly when it is a frame that conveys it, and an unknown one
otherwise; every reply that fits a frame has the outcome that it stands for. -/
theorem ofFrame_exact :
    (∀ bs, (∀ o : Outcome, ¬ o.IsUnknown → (ofFrame bs = o ↔ o.ConveyedBy bs)) ∧
      ((ofFrame bs).IsUnknown ↔ ∀ o : Outcome, ¬ o.ConveyedBy bs)) ∧
    (∀ frame tag payload, Frame.Holds frame tag payload →
      (∀ front, front <+: frame → front ≠ frame → (ofFrame front).IsUnknown) ∧
      ∀ extra, extra ≠ [] → (ofFrame (frame ++ extra)).IsUnknown) ∧
    (∀ (tag : UInt8) (length checksum payload : Bytes), length.length = 4 → checksum.length = 4 →
      length ≠ Bytes.bigEndian 4 payload.length ∨
        checksum ≠ Bytes.bigEndian 4 (crc32 payload).toNat →
      (ofFrame (tag :: length ++ checksum ++ payload)).IsUnknown) ∧
    ∀ r o, Reply.StandsFor r o → r.body.length ≤ Frame.maxPayload → ofFrame r.encode = o := by
  refine ⟨fun bs => ⟨fun o => ofFrame_eq_iff, ofFrame_eq_unknown_iff⟩,
    fun frame tag payload holds => ⟨fun front begins proper => ?_, fun extra some_more => ?_⟩,
    fun tag length checksum payload four four' differs => ?_, fun r o => ofFrame_of_standsFor⟩
  · exact unknown_of_no_frame (holds.not_of_beginning begins proper)
  · exact unknown_of_no_frame (holds.not_append some_more)
  · apply unknown_of_no_frame
    intro tag' payload' holds
    obtain ⟨lengths, checksums⟩ := holds.header four four'
    exact differs.elim (absurd lengths) (absurd checksums)

/-- A value in a reply that a byte is cut off, that a byte is put behind, or whose checksum is
set to zero; and a payload behind an answer that has none. -/
theorem ofFrame_exact_keyChanged :
    let reply := Reply.keyChanged (Value.bool true).wire
    ofFrame reply.encode = .keyChanged (.bool true) ∧
      (ofFrame reply.encode.dropLast).IsUnknown ∧ (ofFrame (reply.encode ++ [0])).IsUnknown ∧
      (ofFrame ([3, 0, 0, 0, 5, 0, 0, 0, 0] ++ [3, 0, 0, 0, 1])).IsUnknown ∧
      ofFrame (Frame.encode 1 [9]) = .notFound := by
  intro reply
  obtain ⟨exact_on, cut_or_longer, other_header, own⟩ := ofFrame_exact
  have fits : reply.body.length ≤ Frame.maxPayload := by
    simp [reply, Reply.body, Reply.keyChanged, Value.wire_eq, Value.wireHead, Value.items,
      Frame.maxPayload]
  obtain ⟨shorter, longer⟩ := cut_or_longer _ _ _ (Reply.holds_encode fits)
  have proper : reply.encode.dropLast ≠ reply.encode := by
    intro same
    have length := congrArg List.length same
    have positive : Frame.headerSize ≤ reply.encode.length := (Reply.whole_encode fits).header_le
    rw [List.length_dropLast] at length
    unfold Frame.headerSize at positive
    omega
  refine ⟨own _ _ (.keyChanged _) fits, shorter _ (List.dropLast_prefix _) proper,
    longer [0] (by decide), ?_, ?_⟩
  · exact other_header 3 [0, 0, 0, 5] [0, 0, 0, 0] [3, 0, 0, 0, 1] rfl rfl
      (Or.inr (by decide +kernel))
  · have known : ¬ IsUnknown .notFound := by
      rintro ⟨reason, same⟩
      cases same
    exact ((exact_on _).1 .notFound known).mpr ⟨[9], rfl, by decide⟩

end Outcome
end AtomicKv
