import AtomicKv.Command
import AtomicKv.Text.Utf8

/-!
# Replies

What a node answers to a command, on the level of bytes: a status and, for some, a payload.
A missing payload and an empty one are written alike.
-/
namespace AtomicKv

inductive Status where
  | ok | notFound | abort | keyChanged | unknown
  deriving DecidableEq, Repr

namespace Status

def tag : Status → UInt8
  | .ok => 0
  | .notFound => 1
  | .abort => 2
  | .keyChanged => 3
  | .unknown => 4

def ofTag? : UInt8 → Option Status
  | 0 => some .ok
  | 1 => some .notFound
  | 2 => some .abort
  | 3 => some .keyChanged
  | 4 => some .unknown
  | _ => none

end Status

structure Reply where
  status : Status
  payload : Option Bytes
  deriving DecidableEq, Repr

namespace Reply

/-- Success, with the value that was asked for or without one. -/
def ok (payload : Option Bytes) : Reply := ⟨.ok, payload⟩

def notFound : Reply := ⟨.notFound, none⟩

def abort (reason : String) : Reply := ⟨.abort, some (Utf8.encode reason)⟩

def keyChanged (current : Bytes) : Reply := ⟨.keyChanged, some current⟩

def unknown (reason : String) : Reply := ⟨.unknown, some (Utf8.encode reason)⟩

def encode (r : Reply) : Bytes :=
  Frame.encode r.status.tag (r.payload.getD [])

end Reply
end AtomicKv
