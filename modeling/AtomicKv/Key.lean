import AtomicKv.Text.Utf8

/-!
# Keys

A key is any byte string. Keys are ordered byte by byte, a proper beginning first, and shown
as lossy text.
-/
namespace AtomicKv

structure Key where
  bytes : Bytes := []
  deriving DecidableEq, Repr, Inhabited

namespace Key

def ofText (text : String) : Key :=
  ⟨Utf8.encode text⟩

def display (k : Key) : String :=
  Utf8.lossy k.bytes

instance : Ord Key where
  compare a b := compare a.bytes b.bytes

end Key
end AtomicKv
