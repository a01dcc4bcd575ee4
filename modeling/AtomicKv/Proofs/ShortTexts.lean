import AtomicKv.Fault.System
import AtomicKv.Proofs.CommandExact
import AtomicKv.Proofs.Utf8Exact

/-!
# The texts of flaws and faults are short

The text of a flaw is a fixed text around numbers that were met in a frame: lengths, checksums and
tags. In a frame that could be read from a stream these have ten digits at most (`decode_numbers`),
and so the text is short (`Command.Flaw.size_message_le`). The texts of the faults of the system
are as short (`Fault.size_ofSystem_le`). All bounds are generous: a frame holds far more.
-/
namespace AtomicKv

theorem Utf8.length_encode (text : String) : (encode text).length = text.utf8ByteSize :=
  rfl

theorem utf8ByteSize_le (text : String) : text.utf8ByteSize ≤ 4 * text.length := by
  rw [← Utf8.length_encode, Utf8.encode_eq, ← String.length_toList]
  induction text.toList with
  | nil => exact Nat.le_refl 0
  | cons c cs ih =>
    have width := c.utf8Size_le_four
    rw [List.flatMap_cons, List.length_append, String.length_utf8EncodeChar, List.length_cons]
    omega

theorem size_append_le {text text' : String} {m n : Nat} (h : text.utf8ByteSize ≤ m)
    (h' : text'.utf8ByteSize ≤ n) : (text ++ text').utf8ByteSize ≤ m + n := by
  rw [String.utf8ByteSize_append]
  exact Nat.add_le_add h h'

theorem length_toDigits_le {n : Nat} (base : Nat) (decimal : 10 ≤ base) (small : n < 10 ^ 10) :
    (Nat.toDigits base n).length ≤ 10 := by
  apply (Nat.length_toDigits_le_iff (by omega) (by decide)).mpr
  exact Nat.lt_of_lt_of_le small (Nat.pow_le_pow_left decimal 10)

theorem size_toString_le {n : Nat} (small : n < 10 ^ 10) : (toString n).utf8ByteSize ≤ 40 := by
  have size := utf8ByteSize_le (toString n)
  have digits := length_toDigits_le 10 (Nat.le_refl 10) small
  rw [Nat.toString_eq_repr, Nat.repr_eq_ofList_toDigits, String.length_ofList] at size
  rw [Nat.toString_eq_repr, Nat.repr_eq_ofList_toDigits]
  omega

theorem forall_mem_pair {m n bound : Nat} (first : m < bound) (second : n < bound) :
    ∀ k ∈ [m, n], k < bound :=
  List.forall_mem_cons.mpr ⟨first, List.forall_mem_singleton.mpr second⟩

namespace Frame

theorem size_hex_le {n : Nat} (width : Nat) (narrow : width ≤ 10) (small : n < 10 ^ 10) :
    (hex width n).utf8ByteSize ≤ 45 := by
  have sign : "0x".utf8ByteSize ≤ 5 := by decide
  have digits := length_toDigits_le 16 (by decide) small
  have padded := utf8ByteSize_le (String.ofList ((Nat.toDigits 16 n).leftpad width '0'))
  rw [String.length_ofList, List.length_leftpad] at padded
  exact Nat.le_trans (size_append_le sign padded) (by omega)

def Flaw.numbers : Flaw → List Nat
  | .shortHeader found => [found]
  | .tooLarge announced => [announced]
  | .wrongLength expected found => [expected, found]
  | .wrongChecksum expected found => [expected, found]

theorem size_tooLargeMessage_le {n : Nat} (small : n < 10 ^ 10) :
    (tooLargeMessage n).utf8ByteSize ≤ 140 := by
  have digits := size_toString_le small
  have fixed : "Payload too large: ".utf8ByteSize + " bytes (max ".utf8ByteSize +
    (toString maxPayload).utf8ByteSize + ")".utf8ByteSize ≤ 50 := by decide
  unfold tooLargeMessage
  repeat rw [String.utf8ByteSize_append]
  omega

theorem Flaw.size_message_le {flaw : Flaw} (small : ∀ n ∈ flaw.numbers, n < 10 ^ 10) :
    flaw.message.utf8ByteSize ≤ 140 := by
  cases flaw with
  | shortHeader found =>
    have digits := size_toString_le (small found List.mem_cons_self)
    have fixed : "Incomplete header: expected ".utf8ByteSize + (toString headerSize).utf8ByteSize +
      " bytes, got ".utf8ByteSize ≤ 50 := by decide
    unfold message
    repeat rw [String.utf8ByteSize_append]
    omega
  | tooLarge announced => exact size_tooLargeMessage_le (small announced List.mem_cons_self)
  | wrongLength expected found =>
    have digits := size_toString_le (small expected List.mem_cons_self)
    have digits' := size_toString_le (small found (List.mem_cons_of_mem _ List.mem_cons_self))
    have fixed : "Frame length mismatch: expected ".utf8ByteSize +
      " bytes, got ".utf8ByteSize ≤ 50 := by decide
    unfold message
    repeat rw [String.utf8ByteSize_append]
    omega
  | wrongChecksum expected found =>
    have digits := size_hex_le 8 (by decide) (small expected List.mem_cons_self)
    have digits' := size_hex_le 8 (by decide)
      (small found (List.mem_cons_of_mem _ List.mem_cons_self))
    have fixed : "Checksum mismatch: expected ".utf8ByteSize + ", got ".utf8ByteSize ≤ 50 := by
      decide
    unfold message
    repeat rw [String.utf8ByteSize_append]
    omega

/-- The numbers in a flaw of a frame that was read are lengths, which the frame bounds, or stood in
four bytes of it. -/
theorem decode_numbers {frame : Bytes} {flaw : Flaw} (read : frame.length ≤ headerSize + maxPayload)
    (refused : decode frame = .error flaw) : ∀ n ∈ flaw.numbers, n < 10 ^ 10 := by
  unfold headerSize maxPayload at read
  unfold decode at refused
  split at refused
  · cases refused
    simp only [Flaw.numbers, List.forall_mem_singleton]
    omega
  · rename_i header payload found
    obtain ⟨rfl, announced, checksum⟩ := header?_eq_some_iff.mp found
    rw [List.length_append] at read
    split at refused
    · cases refused
      simp only [Flaw.numbers, List.forall_mem_singleton]
      omega
    · rename_i within
      unfold maxPayload at within
      split at refused
      · cases refused
        unfold headerSize
        exact forall_mem_pair (by omega) (by omega)
      · split at refused
        · cases refused
          have computed := (crc32 payload).toNat_lt
          exact forall_mem_pair (by omega) (by omega)
        · cases refused

end Frame

namespace Command

def PayloadFlaw.numbers : PayloadFlaw → List Nat
  | .missingLength _ => []
  | .incomplete _ expected found => [expected, found]
  | .trailing count => [count]

def Flaw.numbers : Flaw → List Nat
  | .frame flaw => flaw.numbers
  | .unknownTag tag => [tag.toNat]
  | .payload _ flaw => flaw.numbers

theorem Field.size_name_le (field : Field) : field.name.utf8ByteSize ≤ 14 := by
  cases field <;> decide

theorem PayloadFlaw.size_message_le {flaw : PayloadFlaw} (small : ∀ n ∈ flaw.numbers, n < 10 ^ 10) :
    flaw.message.utf8ByteSize ≤ 140 := by
  cases flaw with
  | missingLength field =>
    have name := field.size_name_le
    have fixed : "missing ".utf8ByteSize + " length".utf8ByteSize ≤ 50 := by decide
    unfold message
    repeat rw [String.utf8ByteSize_append]
    omega
  | incomplete field expected found =>
    have name := field.size_name_le
    have digits := size_toString_le (small expected List.mem_cons_self)
    have digits' := size_toString_le (small found (List.mem_cons_of_mem _ List.mem_cons_self))
    have fixed : "incomplete ".utf8ByteSize + " (expected ".utf8ByteSize + ", got ".utf8ByteSize +
      ")".utf8ByteSize ≤ 40 := by decide
    unfold message
    repeat rw [String.utf8ByteSize_append]
    omega
  | trailing count =>
    have digits := size_toString_le (small count List.mem_cons_self)
    have fixed : " trailing bytes".utf8ByteSize ≤ 50 := by decide
    exact Nat.le_trans (size_append_le digits fixed) (by decide)

theorem Flaw.size_message_le {flaw : Flaw} (small : ∀ n ∈ flaw.numbers, n < 10 ^ 10) :
    flaw.message.utf8ByteSize ≤ 170 := by
  cases flaw with
  | frame flaw => exact Nat.le_trans (Frame.Flaw.size_message_le small) (by decide)
  | unknownTag tag =>
    have digits := Frame.size_hex_le 2 (by decide) (small _ List.mem_cons_self)
    have fixed : "Unknown command type: ".utf8ByteSize ≤ 50 := by decide
    exact Nat.le_trans (size_append_le fixed digits) (by decide)
  | payload kind flaw =>
    have text := PayloadFlaw.size_message_le small
    have front : kind.name.utf8ByteSize + " command: ".utf8ByteSize ≤ 30 := by cases kind <;> decide
    unfold message
    repeat rw [String.utf8ByteSize_append]
    omega

theorem bind_eq_error_iff {ε α β : Type} {step : Except ε α} {next : α → Except ε β} {e : ε} :
    (step >>= next) = .error e ↔ step = .error e ∨ ∃ a, step = .ok a ∧ next a = .error e := by
  cases step with
  | error e => simp [bind, Except.bind]
  | ok a => simp [bind, Except.bind]

theorem decodeField_numbers {field : Field} {payload : Bytes} {flaw : PayloadFlaw}
    (read : payload.length ≤ Frame.maxPayload) (refused : decodeField field payload = .error flaw) :
    ∀ n ∈ flaw.numbers, n < 10 ^ 10 := by
  unfold Frame.maxPayload at read
  unfold decodeField at refused
  split at refused
  · cases refused
    exact nofun
  · rename_i digits rest front
    obtain ⟨rfl, four⟩ := Bytes.cut?_eq_some.mp front
    have expected := Bytes.ofBigEndian_lt digits
    rw [four] at expected
    rw [List.length_append] at read
    dsimp only at refused
    split at refused
    · cases refused
      exact forall_mem_pair (by omega) (by omega)
    · cases refused

theorem decodeFields_numbers {kind : CommandKind} {payload : Bytes} {flaw : PayloadFlaw}
    (read : payload.length ≤ Frame.maxPayload) (refused : decodeFields kind payload = .error flaw) :
    ∀ n ∈ flaw.numbers, n < 10 ^ 10 := by
  -- behind a field that could be taken off there is no more than there was before
  have behind {field : Field} {payload data rest : Bytes}
      (read : payload.length ≤ Frame.maxPayload)
      (taken : decodeField field payload = .ok (data, rest)) : rest.length ≤ Frame.maxPayload := by
    obtain ⟨rfl, -⟩ := decodeField_eq_ok_iff.mp taken
    rw [List.length_append] at read
    omega
  cases kind with
  | read =>
    obtain key | ⟨_, -, done⟩ := bind_eq_error_iff.mp refused
    · exact decodeField_numbers read key
    · cases done
  | write =>
    obtain key | ⟨_, key, refused⟩ := bind_eq_error_iff.mp refused
    · exact decodeField_numbers read key
    · obtain value | ⟨_, -, done⟩ := bind_eq_error_iff.mp refused
      · exact decodeField_numbers (behind read key) value
      · cases done
  | testAndSet =>
    obtain key | ⟨_, key, refused⟩ := bind_eq_error_iff.mp refused
    · exact decodeField_numbers read key
    · obtain expected | ⟨_, expected, refused⟩ := bind_eq_error_iff.mp refused
      · exact decodeField_numbers (behind read key) expected
      · obtain value | ⟨_, -, done⟩ := bind_eq_error_iff.mp refused
        · exact decodeField_numbers (behind (behind read key) expected) value
        · cases done

theorem ofPayload_numbers {kind : CommandKind} {payload : Bytes} {flaw : PayloadFlaw}
    (read : payload.length ≤ Frame.maxPayload) (refused : ofPayload kind payload = .error flaw) :
    ∀ n ∈ flaw.numbers, n < 10 ^ 10 := by
  unfold ofPayload at refused
  split at refused
  · rename_i flaw' refused'
    cases refused
    exact decodeFields_numbers read refused'
  · rename_i c rest taken
    obtain ⟨-, rfl, -⟩ := decodeFields_eq_ok_iff.mp taken
    rw [List.length_append] at read
    unfold Frame.maxPayload at read
    split at refused
    · cases refused
    · cases refused
      simp only [PayloadFlaw.numbers, List.forall_mem_singleton]
      omega

/-- The numbers in the reason why a frame that was read holds no command are small. -/
theorem decode_numbers {frame : Bytes} {flaw : Flaw}
    (read : frame.length ≤ Frame.headerSize + Frame.maxPayload)
    (refused : decode frame = .error flaw) : ∀ n ∈ flaw.numbers, n < 10 ^ 10 := by
  unfold decode at refused
  split at refused
  · rename_i flaw' refused'
    cases refused
    exact Frame.decode_numbers read refused'
  · rename_i tag payload parsed
    obtain ⟨-, within⟩ := Frame.decode_eq_ok_iff.mp parsed
    split at refused
    · cases refused
      have byte := tag.toNat_lt
      simp only [Flaw.numbers, List.forall_mem_singleton]
      omega
    · split at refused
      · rename_i flaw' refused'
        cases refused
        exact ofPayload_numbers within refused'
      · cases refused

end Command

namespace Fault

theorem size_description_le {number : Nat} (small : number < 10 ^ 10) :
    (system number).2.utf8ByteSize ≤ 60 := by
  unfold system
  cases found : systemErrors.lookup (number : Int) with
  | none =>
    have digits := size_toString_le small
    have fixed : "Unknown error ".utf8ByteSize ≤ 20 := by decide
    exact size_append_le fixed digits
  | some entry =>
    have listed : ∀ entry ∈ systemErrors, entry.2.2.utf8ByteSize ≤ 60 := by decide +kernel
    obtain ⟨front, behind, split, -⟩ := List.lookup_eq_some_iff.mp found
    exact listed _ (by rw [split]; exact List.mem_append_right front List.mem_cons_self)

/-- The fault of a failed system call has a short text. -/
theorem size_ofSystem_le {number : Nat} (small : number < 10 ^ 10) :
    (ofSystem number).message.utf8ByteSize ≤ 130 := by
  have digits : (toString (number : Int)).utf8ByteSize ≤ 40 := size_toString_le small
  have fixed : " (os error ".utf8ByteSize ≤ 20 := by decide
  have close : ")".utf8ByteSize ≤ 10 := by decide
  have description := size_description_le small
  exact size_append_le (size_append_le (size_append_le description fixed) digits) close

end Fault
end AtomicKv
