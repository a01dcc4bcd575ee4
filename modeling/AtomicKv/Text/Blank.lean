/-!
# Blank characters and trimming

A character is blank when it has the Unicode property White_Space.
-/
namespace AtomicKv.Blank

/-- First and last code point of each run of blank characters. -/
def ranges : List (Nat × Nat) := [
  (0x9, 0xD), (0x20, 0x20), (0x85, 0x85), (0xA0, 0xA0), (0x1680, 0x1680), (0x2000, 0x200A),
  (0x2028, 0x2029), (0x202F, 0x202F), (0x205F, 0x205F), (0x3000, 0x3000)]

end AtomicKv.Blank

namespace AtomicKv

def isBlank (c : Char) : Bool :=
  Blank.ranges.any fun (first, last) => first ≤ c.toNat && c.toNat ≤ last

def trim (cs : List Char) : List Char :=
  ((cs.dropWhile isBlank).reverse.dropWhile isBlank).reverse

/-- The pieces of a text between commas; one more than there are commas. -/
def splitAtCommas : List Char → List (List Char)
  | [] => [[]]
  | c :: rest =>
    if c = ',' then [] :: splitAtCommas rest
    else match splitAtCommas rest with
      | [] => [[c]]
      | piece :: pieces => (c :: piece) :: pieces

theorem splitAtCommas_ne_nil (cs : List Char) : splitAtCommas cs ≠ [] := by
  cases cs with
  | nil => simp [splitAtCommas]
  | cons c rest =>
    simp only [splitAtCommas]
    split
    · simp
    · split <;> simp

end AtomicKv
