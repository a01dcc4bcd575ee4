import AtomicKv.Frame
import AtomicKv.Proofs.Digits

/-!
# The form of frames is exact

A byte string is taken apart as a frame exactly when it is what a tag and a payload within the
limit are written as (`decode_eq_ok_iff`). The header alone gives the length of a payload only
below 2^32; the limit is far below that, so that no length is cut off in a frame that is taken.
-/
namespace AtomicKv.Frame

/-- A length within the limit has four bytes. -/
theorem lt_of_within {n : Nat} (within : n ≤ maxPayload) : n < 2 ^ 32 :=
  Nat.lt_of_le_of_lt within (by decide)

def Header.bytes (h : Header) : Bytes :=
  h.tag :: Bytes.bigEndian 4 h.length ++ Bytes.bigEndian 4 h.checksum

theorem Header.length_bytes (h : Header) : h.bytes.length = headerSize := by
  simp [Header.bytes, headerSize]

theorem bigEndian_four (n : Nat) : ∃ a b c d, Bytes.bigEndian 4 n = [a, b, c, d] :=
  ⟨_, _, _, _, rfl⟩

theorem bigEndian_ofBigEndian_four (a b c d : UInt8) :
    Bytes.bigEndian 4 (Bytes.ofBigEndian [a, b, c, d]) = [a, b, c, d] :=
  Bytes.bigEndian_ofBigEndian [a, b, c, d]

theorem ofBigEndian_four_lt (a b c d : UInt8) : Bytes.ofBigEndian [a, b, c, d] < 2 ^ 32 := by
  have fits := Bytes.ofBigEndian_lt [a, b, c, d]
  simp only [List.length_cons, List.length_nil] at fits
  omega

/-- A header stands in front of a byte string exactly when its nine bytes do. -/
theorem header?_eq_some_iff {bs rest : Bytes} {h : Header} :
    header? bs = some (h, rest) ↔
      bs = h.bytes ++ rest ∧ h.length < 2 ^ 32 ∧ h.checksum < 2 ^ 32 := by
  constructor
  · intro found
    unfold header? at found
    split at found
    · rename_i tag l₀ l₁ l₂ l₃ c₀ c₁ c₂ c₃ left
      cases found
      refine ⟨?_, ofBigEndian_four_lt l₀ l₁ l₂ l₃, ofBigEndian_four_lt c₀ c₁ c₂ c₃⟩
      rw [Header.bytes, bigEndian_ofBigEndian_four, bigEndian_ofBigEndian_four]
      rfl
    · cases found
  · intro h
    obtain ⟨rfl, length, checksum⟩ := h
    obtain ⟨l₀, l₁, l₂, l₃, ls⟩ := bigEndian_four h.length
    obtain ⟨c₀, c₁, c₂, c₃, cs⟩ := bigEndian_four h.checksum
    have length_eq : Bytes.ofBigEndian (Bytes.bigEndian 4 h.length) = h.length :=
      (Bytes.ofBigEndian_bigEndian 4 h.length).trans (Nat.mod_eq_of_lt length)
    have checksum_eq : Bytes.ofBigEndian (Bytes.bigEndian 4 h.checksum) = h.checksum :=
      (Bytes.ofBigEndian_bigEndian 4 h.checksum).trans (Nat.mod_eq_of_lt checksum)
    rw [ls] at length_eq
    rw [cs] at checksum_eq
    rw [Header.bytes, ls, cs]
    simp only [List.cons_append, List.nil_append, header?, length_eq, checksum_eq]

theorem encode_eq (tag : UInt8) (payload : Bytes) :
    encode tag payload = (Header.bytes ⟨tag, payload.length, (crc32 payload).toNat⟩) ++ payload :=
  rfl

@[simp] theorem length_encode (tag : UInt8) (payload : Bytes) :
    (encode tag payload).length = headerSize + payload.length := by
  rw [encode_eq, List.length_append, Header.length_bytes]

/-- A byte string is taken for a frame exactly when it is the frame of its payload, and the
payload is within the limit. -/
theorem decode_eq_ok_iff {frame payload : Bytes} {tag : UInt8} :
    decode frame = .ok (tag, payload) ↔
      frame = encode tag payload ∧ payload.length ≤ maxPayload := by
  rw [decode]
  constructor
  · intro taken
    split at taken
    · cases taken
    · rename_i header body found
      obtain ⟨rfl, -, -⟩ := header?_eq_some_iff.mp found
      split at taken
      · cases taken
      · rename_i within
        split at taken
        · cases taken
        · rename_i length
          split at taken
          · cases taken
          · rename_i checksum
            cases taken
            rw [Decidable.not_not] at length checksum
            refine ⟨?_, by omega⟩
            rw [encode_eq, length, checksum]
  · intro h
    obtain ⟨rfl, within⟩ := h
    have found : header? (encode tag payload) =
        some (⟨tag, payload.length, (crc32 payload).toNat⟩, payload) :=
      header?_eq_some_iff.mpr ⟨encode_eq tag payload, lt_of_within within, (crc32 payload).toNat_lt⟩
    simp only [found]
    rw [if_neg (Nat.not_lt.mpr within), if_neg (fun different => different rfl),
      if_neg (fun different => different rfl)]

end AtomicKv.Frame
