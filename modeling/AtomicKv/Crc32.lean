import AtomicKv.Bytes

/-!
# CRC-32

The checksum of a frame is the remainder of its payload modulo the polynomial of
IEEE 802.3, taken bit by bit with the least significant bit of each byte first. The
register starts with all bits set and is inverted at the end.
-/
namespace AtomicKv
namespace Crc32

/-- The polynomial without its leading term, lowest power in the top bit. -/
def polynomial : UInt32 := 0xEDB88320

/-- Shifts one bit out of the register and reduces when it was set. -/
def step (register : UInt32) : UInt32 :=
  if register &&& 1 = 1 then (register >>> 1) ^^^ polynomial else register >>> 1

/-- Takes one byte into the register. -/
def absorb (register : UInt32) (b : UInt8) : UInt32 :=
  step (step (step (step (step (step (step (step (register ^^^ b.toUInt32))))))))

def run (register : UInt32) (bs : Bytes) : UInt32 :=
  bs.foldl absorb register

@[simp] theorem run_nil (register : UInt32) : run register [] = register :=
  rfl

@[simp] theorem run_append (register : UInt32) (front rest : Bytes) :
    run register (front ++ rest) = run (run register front) rest := by
  simp [run]

end Crc32

def crc32 (bs : Bytes) : UInt32 :=
  ~~~ Crc32.run 0xFFFFFFFF bs

-- The published check value: the digits one to nine in ASCII.
example : crc32 [0x31, 0x32, 0x33, 0x34, 0x35, 0x36, 0x37, 0x38, 0x39] = 0xCBF43926 := by
  decide +kernel

end AtomicKv
