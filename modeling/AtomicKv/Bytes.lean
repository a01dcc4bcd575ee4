/-!
# Byte strings and fixed-width integers

Values write their integers least significant byte first, frames write theirs most
significant byte first. Both are digits in base 256 of a given number of places, so an
integer that is too large keeps its low digits only.
-/
namespace AtomicKv

abbrev Bytes := List UInt8

/-- Equality is decided from front to back in constant space, whatever the lengths. -/
instance : DecidableEq Bytes :=
  fun a b => decidable_of_iff (a == b) beq_iff_eq

namespace Bytes

/-- The low `width` base-256 digits of a number, least significant first. -/
def littleEndian : (width : Nat) → Nat → Bytes
  | 0, _ => []
  | width + 1, n => UInt8.ofNat n :: littleEndian width (n / 256)

def bigEndian (width n : Nat) : Bytes :=
  (littleEndian width n).reverse

/-- The number whose base-256 digits, least significant first, are the given bytes. -/
def ofLittleEndian : Bytes → Nat
  | [] => 0
  | b :: rest => b.toNat + 256 * ofLittleEndian rest

def ofBigEndian (bs : Bytes) : Nat :=
  ofLittleEndian bs.reverse

/-- The first `n` bytes and what follows them; nothing when fewer than `n` bytes are left.
Only the bytes that are cut off are walked over. -/
def cut? (n : Nat) (bs : Bytes) : Option (Bytes × Bytes) :=
  let (front, rest) := bs.splitAt n
  if front.length = n then some (front, rest) else none

@[simp] theorem length_littleEndian (width n : Nat) : (littleEndian width n).length = width := by
  induction width generalizing n with
  | zero => rfl
  | succ width ih => simp [littleEndian, ih]

@[simp] theorem length_bigEndian (width n : Nat) : (bigEndian width n).length = width := by
  simp [bigEndian]

/-- A byte string is the digits of the number it stands for. -/
theorem littleEndian_ofLittleEndian (bs : Bytes) :
    littleEndian bs.length (ofLittleEndian bs) = bs := by
  induction bs with
  | nil => rfl
  | cons b rest ih =>
    have low : UInt8.ofNat (b.toNat + 256 * ofLittleEndian rest) = b := by
      apply UInt8.toNat_inj.mp
      simp only [UInt8.toNat_ofNat']
      have := b.toNat_lt
      omega
    have high : (b.toNat + 256 * ofLittleEndian rest) / 256 = ofLittleEndian rest := by
      have := b.toNat_lt
      omega
    simp only [ofLittleEndian, List.length_cons, littleEndian, low, high, ih]

theorem bigEndian_ofBigEndian (bs : Bytes) : bigEndian bs.length (ofBigEndian bs) = bs := by
  have := littleEndian_ofLittleEndian bs.reverse
  rw [List.length_reverse] at this
  simp [bigEndian, ofBigEndian, this]

/-- Cutting succeeds exactly at a boundary of the requested length, and loses nothing. -/
theorem cut?_eq_some {n : Nat} {bs front rest : Bytes} :
    cut? n bs = some (front, rest) ↔ bs = front ++ rest ∧ front.length = n := by
  simp only [cut?, List.splitAt_eq]
  constructor
  · intro h
    split at h
    · rename_i long
      cases h
      exact ⟨(List.take_append_drop n bs).symm, long⟩
    · cases h
  · intro h
    obtain ⟨rfl, rfl⟩ := h
    simp

theorem cut?_append (front rest : Bytes) : cut? front.length (front ++ rest) = some (front, rest) :=
  cut?_eq_some.mpr ⟨rfl, rfl⟩

end Bytes
end AtomicKv
