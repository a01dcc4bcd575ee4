import AtomicKv.Crc32
import AtomicKv.Proofs.Digits
import Mathlib.Logic.Function.Iterate

/-!
# What the checksum tells apart

Shifting a bit out of the register is linear in exclusive or (`step_xor`) and loses nothing
(`step_injective`), because the top bit of the polynomial says afterwards which bit was shifted
out. So registers that differ stay different whatever is taken in (`run_injective`). Up to four
bytes are taken in as one word (`run_eq_iterate`), which has room for all their bits. Changes
within four bytes in a row are therefore always seen (`crc32_window_injective`), and how long the
byte string is or what else it holds does not matter.
-/
namespace AtomicKv

namespace Crc32

theorem low_bit (r : UInt32) : r &&& 1 = 1 ↔ r.toNat % 2 = 1 := by
  rw [← UInt32.toNat_inj, UInt32.toNat_and]
  change r.toNat &&& 1 = 1 ↔ _
  rw [Nat.and_one_is_mod]

theorem step_of_even {r : UInt32} (even : r.toNat % 2 = 0) : step r = r >>> 1 := by
  unfold step
  rw [if_neg]
  rw [low_bit]
  omega

theorem step_of_odd {r : UInt32} (odd : r.toNat % 2 = 1) : step r = (r >>> 1) ^^^ polynomial := by
  unfold step
  rw [if_pos ((low_bit r).mpr odd)]

theorem toNat_shift (r : UInt32) : (r >>> 1).toNat = r.toNat / 2 := by
  rw [UInt32.toNat_shiftRight, Nat.shiftRight_eq_div_pow]
  rfl

theorem parity_xor (a b : UInt32) : (a ^^^ b).toNat % 2 = (a.toNat + b.toNat) % 2 := by
  have odd := @Nat.xor_mod_two_eq_one a.toNat b.toNat
  rw [UInt32.toNat_xor]
  omega

/-- Shifting is linear: what two registers differ by is shifted on its own. -/
theorem step_xor (a b : UInt32) : step (a ^^^ b) = step a ^^^ step b := by
  have parity := parity_xor a b
  rcases Nat.mod_two_eq_zero_or_one a.toNat with ha | ha <;>
    rcases Nat.mod_two_eq_zero_or_one b.toNat with hb | hb
  · rw [step_of_even (by omega), step_of_even ha, step_of_even hb, UInt32.shiftRight_xor]
  · rw [step_of_odd (by omega), step_of_even ha, step_of_odd hb, UInt32.shiftRight_xor]
    ac_rfl
  · rw [step_of_odd (by omega), step_of_odd ha, step_of_even hb, UInt32.shiftRight_xor]
    ac_rfl
  · rw [step_of_even (by omega), step_of_odd ha, step_of_odd hb, UInt32.shiftRight_xor]
    -- the polynomial that both are reduced by cancels
    have cancel : (a >>> 1 ^^^ polynomial) ^^^ (b >>> 1 ^^^ polynomial) =
        (a >>> 1 ^^^ b >>> 1) ^^^ (polynomial ^^^ polynomial) := by ac_rfl
    rw [cancel, UInt32.xor_self, UInt32.xor_zero]

theorem eq_zero_of_step {r : UInt32} (zero : step r = 0) : r = 0 := by
  have bound := r.toNat_lt
  rcases Nat.mod_two_eq_zero_or_one r.toNat with even | odd
  · rw [step_of_even even] at zero
    have half := congrArg UInt32.toNat zero
    rw [toNat_shift] at half
    apply UInt32.toNat_inj.mp
    change r.toNat / 2 = 0 at half
    change r.toNat = 0
    omega
  · rw [step_of_odd odd, UInt32.xor_eq_zero_iff] at zero
    -- the polynomial has its top bit set, and what was shifted has not
    have half := congrArg UInt32.toNat zero
    rw [toNat_shift] at half
    change r.toNat / 2 = 0xEDB88320 at half
    omega

theorem step_injective : Function.Injective step := by
  intro a b same
  apply UInt32.xor_eq_zero_iff.mp
  apply eq_zero_of_step
  rw [step_xor, same, UInt32.xor_self]

theorem iterate_xor (n : Nat) (a b : UInt32) : step^[n] (a ^^^ b) = step^[n] a ^^^ step^[n] b := by
  induction n generalizing a b with
  | zero => rfl
  | succ n ih =>
    simp only [Function.iterate_succ_apply, step_xor]
    exact ih _ _

/-- A register whose low bits are clear only moves down while these are shifted out. -/
theorem iterate_shift {n : Nat} {x y : UInt32} (up : x.toNat = y.toNat * 2 ^ n) :
    step^[n] x = y := by
  induction n generalizing x with
  | zero =>
    rw [Nat.pow_zero, Nat.mul_one] at up
    exact UInt32.toNat_inj.mp up
  | succ n ih =>
    rw [Nat.pow_succ, ← Nat.mul_assoc] at up
    rw [Function.iterate_succ_apply, step_of_even (by omega)]
    apply ih
    rw [toNat_shift]
    omega

theorem absorb_eq (r : UInt32) (b : UInt8) : absorb r b = step^[8] (r ^^^ b.toUInt32) := rfl

theorem absorb_injective (b : UInt8) : Function.Injective (absorb · b) := by
  intro r s same
  exact (UInt32.xor_left_inj _).mp (step_injective.iterate 8 same)

/-- Registers that differ before some bytes differ after them. -/
theorem run_injective (bs : Bytes) : Function.Injective (run · bs) := by
  induction bs with
  | nil => exact fun _ _ same => same
  | cons b rest ih => exact ih.comp (absorb_injective b)

/-- A byte below a word is one with it by exclusive or. -/
theorem xor_shifted {b n : Nat} (small : b < 256) : b ^^^ (256 * n) = b + 256 * n := by
  have high : (b ^^^ (256 * n)) / 2 ^ 8 = n := by
    rw [Nat.xor_div_two_pow, Nat.div_eq_of_lt small, Nat.zero_xor]
    omega
  have low : (b ^^^ (256 * n)) % 2 ^ 8 = b := by
    rw [Nat.xor_mod_two_pow, Nat.mul_mod_right, Nat.xor_zero]
    omega
  omega

/-- The number that some bytes stand for, as a register. -/
def word (bs : Bytes) : UInt32 :=
  UInt32.ofNat (Bytes.ofLittleEndian bs)

theorem toNat_word {bs : Bytes} (short : bs.length ≤ 4) :
    (word bs).toNat = Bytes.ofLittleEndian bs := by
  have bound : 256 ^ bs.length ≤ 256 ^ 4 := Nat.pow_le_pow_right (by decide) short
  have fits := Bytes.ofLittleEndian_lt bs
  rw [word, UInt32.toNat_ofNat', Nat.mod_eq_of_lt]
  omega

theorem word_inj {v w : Bytes} (short : v.length ≤ 4) (length : w.length = v.length) :
    word v = word w ↔ v = w := by
  constructor
  · intro same
    have numbers := congrArg UInt32.toNat same
    rw [toNat_word short, toNat_word (length ▸ short)] at numbers
    rw [← Bytes.littleEndian_ofLittleEndian v, numbers, ← length, Bytes.littleEndian_ofLittleEndian]
  · rintro rfl
    rfl

/-- Up to four bytes are taken in as one word, whose bits are then all shifted out. -/
theorem run_eq_iterate (r : UInt32) {bs : Bytes} (short : bs.length ≤ 4) :
    run r bs = step^[8 * bs.length] (r ^^^ word bs) := by
  induction bs generalizing r with
  | nil => simp [word, Bytes.ofLittleEndian]
  | cons b rest ih =>
    have fewer : rest.length ≤ 3 := Nat.le_of_succ_le_succ short
    -- the bytes behind the first one stand eight places higher until it is shifted out
    let above : UInt32 := UInt32.ofNat (256 * Bytes.ofLittleEndian rest)
    have small : 256 * Bytes.ofLittleEndian rest < 2 ^ 32 := by
      have three : 256 ^ rest.length ≤ 256 ^ 3 := Nat.pow_le_pow_right (by decide) fewer
      have fits := Bytes.ofLittleEndian_lt rest
      omega
    have above_eq : above.toNat = 256 * Bytes.ofLittleEndian rest := by
      rw [UInt32.toNat_ofNat', Nat.mod_eq_of_lt small]
    have moved : step^[8] above = word rest := by
      apply iterate_shift
      rw [above_eq, toNat_word (by omega)]
      omega
    have joined : b.toUInt32 ^^^ above = word (b :: rest) := by
      apply UInt32.toNat_inj.mp
      rw [toNat_word short, UInt32.toNat_xor, above_eq]
      exact xor_shifted b.toNat_lt
    calc run r (b :: rest)
        = run (absorb r b) rest := rfl
      _ = step^[8 * rest.length] (step^[8] (r ^^^ b.toUInt32) ^^^ step^[8] above) := by
          rw [ih _ (by omega), absorb_eq, moved]
      _ = step^[8 * rest.length] (step^[8] (r ^^^ word (b :: rest))) := by
          rw [← iterate_xor, UInt32.xor_assoc, joined]
      _ = step^[8 * (b :: rest).length] (r ^^^ word (b :: rest)) := by
          rw [← Function.iterate_add_apply]
          rfl

/-- Up to four bytes leave the register as no other bytes of the same number leave it. -/
theorem run_window_injective (r : UInt32) {v w : Bytes} (short : v.length ≤ 4)
    (length : w.length = v.length) : run r v = run r w ↔ v = w := by
  rw [run_eq_iterate r short, run_eq_iterate r (length ▸ short), length,
    (step_injective.iterate _).eq_iff, UInt32.xor_right_inj, word_inj short length]

end Crc32

/-- Two byte strings that differ within four bytes in a row have different checksums. -/
theorem crc32_window_injective (front : Bytes) {v w : Bytes} (behind : Bytes)
    (short : v.length ≤ 4) (length : w.length = v.length) :
    crc32 (front ++ v ++ behind) = crc32 (front ++ w ++ behind) ↔ v = w := by
  unfold crc32
  simp only [UInt32.not_inj, Crc32.run_append, (Crc32.run_injective behind).eq_iff]
  exact Crc32.run_window_injective _ short length

end AtomicKv
