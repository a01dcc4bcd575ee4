import AtomicKv.Bytes
import Mathlib.Algebra.Group.Nat.Defs

/-!
# Digits are exact

Base-256 digits of a width tell every number that has no more digits, and no two such numbers
have the same. So a number is cut off the front of a byte string exactly when its digits stand
there.
-/
namespace AtomicKv.Bytes

/-- Reading the digits back gives the number reduced to that many places. -/
theorem ofLittleEndian_littleEndian (width n : Nat) :
    ofLittleEndian (littleEndian width n) = n % 256 ^ width := by
  induction width generalizing n with
  | zero => simp [littleEndian, ofLittleEndian, Nat.mod_one]
  | succ width ih =>
    have places : 256 ^ (width + 1) = 256 * 256 ^ width := Nat.pow_succ'
    rw [places, Nat.mod_mul]
    simp [littleEndian, ofLittleEndian, ih]

theorem ofBigEndian_bigEndian (width n : Nat) :
    ofBigEndian (bigEndian width n) = n % 256 ^ width := by
  simp [ofBigEndian, bigEndian, ofLittleEndian_littleEndian]

theorem ofLittleEndian_lt (bs : Bytes) : ofLittleEndian bs < 256 ^ bs.length := by
  induction bs with
  | nil => exact Nat.one_pos
  | cons b rest ih =>
    have digit := b.toNat_lt
    rw [ofLittleEndian, List.length_cons, Nat.pow_succ]
    omega

theorem ofBigEndian_lt (bs : Bytes) : ofBigEndian bs < 256 ^ bs.length := by
  rw [ofBigEndian, ← List.length_reverse]
  exact ofLittleEndian_lt bs.reverse

/-- Digits of one width in front of anything tell the number and what follows them. -/
theorem littleEndian_append_inj {width m n : Nat} {x y : Bytes} (hm : m < 256 ^ width)
    (hn : n < 256 ^ width) :
    littleEndian width m ++ x = littleEndian width n ++ y ↔ m = n ∧ x = y := by
  constructor
  · intro h
    obtain ⟨digits, rest⟩ := List.append_inj h (by simp)
    have values := congrArg ofLittleEndian digits
    rw [ofLittleEndian_littleEndian, ofLittleEndian_littleEndian, Nat.mod_eq_of_lt hm,
      Nat.mod_eq_of_lt hn] at values
    exact ⟨values, rest⟩
  · intro h
    obtain ⟨rfl, rfl⟩ := h
    rfl

/-- Cutting off some digits finds every number of so many places, and only those. -/
theorem cut?_littleEndian_iff {width n : Nat} {bs rest : Bytes} :
    (∃ digits, cut? width bs = some (digits, rest) ∧ ofLittleEndian digits = n) ↔
      bs = littleEndian width n ++ rest ∧ n < 256 ^ width := by
  constructor
  · intro h
    obtain ⟨digits, found, rfl⟩ := h
    obtain ⟨rfl, rfl⟩ := cut?_eq_some.mp found
    exact ⟨by rw [littleEndian_ofLittleEndian], ofLittleEndian_lt digits⟩
  · intro h
    obtain ⟨rfl, small⟩ := h
    exact ⟨littleEndian width n, cut?_eq_some.mpr ⟨rfl, length_littleEndian width n⟩,
      by rw [ofLittleEndian_littleEndian, Nat.mod_eq_of_lt small]⟩

theorem cut?_bigEndian_iff {width n : Nat} {bs rest : Bytes} :
    (∃ digits, cut? width bs = some (digits, rest) ∧ ofBigEndian digits = n) ↔
      bs = bigEndian width n ++ rest ∧ n < 256 ^ width := by
  constructor
  · intro h
    obtain ⟨digits, found, rfl⟩ := h
    obtain ⟨rfl, rfl⟩ := cut?_eq_some.mp found
    exact ⟨by rw [bigEndian_ofBigEndian], ofBigEndian_lt digits⟩
  · intro h
    obtain ⟨rfl, small⟩ := h
    exact ⟨bigEndian width n, cut?_eq_some.mpr ⟨rfl, length_bigEndian width n⟩,
      by rw [ofBigEndian_bigEndian, Nat.mod_eq_of_lt small]⟩

end AtomicKv.Bytes
