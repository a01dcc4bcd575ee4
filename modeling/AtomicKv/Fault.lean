/-!
# Faults

What goes wrong on a byte stream, or in the system below it, is a kind, on which decisions
are made, and a text, which is only reported.
-/
namespace AtomicKv

inductive FaultKind where
  | unexpectedEof | connectionReset | connectionRefused | connectionAborted | notConnected
  | brokenPipe | addrInUse | addrNotAvailable | networkDown | networkUnreachable
  | hostUnreachable | notFound | alreadyExists | permissionDenied | invalidInput | invalidData
  | writeZero | interrupted | timedOut | wouldBlock | inProgress | unsupported | outOfMemory
  | resourceBusy | deadlock | storageFull | quotaExceeded | fileTooLarge | executableFileBusy
  | notSeekable | isADirectory | notADirectory | directoryNotEmpty | readOnlyFilesystem
  | filesystemLoop | staleNetworkFileHandle | crossesDevices | tooManyLinks | invalidFilename
  | argumentListTooLong | other
  deriving DecidableEq, Repr, Inhabited

/-- The text of a fault that brings none of its own. -/
def FaultKind.message : FaultKind → String
  | .unexpectedEof => "unexpected end of file"
  | .connectionReset => "connection reset"
  | .connectionRefused => "connection refused"
  | .connectionAborted => "connection aborted"
  | .notConnected => "not connected"
  | .brokenPipe => "broken pipe"
  | .addrInUse => "address in use"
  | .addrNotAvailable => "address not available"
  | .networkDown => "network down"
  | .networkUnreachable => "network unreachable"
  | .hostUnreachable => "host unreachable"
  | .notFound => "entity not found"
  | .alreadyExists => "entity already exists"
  | .permissionDenied => "permission denied"
  | .invalidInput => "invalid input parameter"
  | .invalidData => "invalid data"
  | .writeZero => "write zero"
  | .interrupted => "operation interrupted"
  | .timedOut => "timed out"
  | .wouldBlock => "operation would block"
  | .inProgress => "in progress"
  | .unsupported => "unsupported"
  | .outOfMemory => "out of memory"
  | .resourceBusy => "resource busy"
  | .deadlock => "deadlock"
  | .storageFull => "no storage space"
  | .quotaExceeded => "quota exceeded"
  | .fileTooLarge => "file too large"
  | .executableFileBusy => "executable file busy"
  | .notSeekable => "seek on unseekable file"
  | .isADirectory => "is a directory"
  | .notADirectory => "not a directory"
  | .directoryNotEmpty => "directory not empty"
  | .readOnlyFilesystem => "read-only filesystem or storage medium"
  | .filesystemLoop => "filesystem loop or indirection limit (e.g. symlink loop)"
  | .staleNetworkFileHandle => "stale network file handle"
  | .crossesDevices => "cross-device link or rename"
  | .tooManyLinks => "too many links"
  | .invalidFilename => "invalid filename"
  | .argumentListTooLong => "argument list too long"
  | .other => "other error"

structure Fault where
  kind : FaultKind
  message : String
  deriving DecidableEq, Repr, Inhabited

namespace Fault

def ofKind (kind : FaultKind) : Fault :=
  ⟨kind, kind.message⟩

/-- Too little data for what was to be read. -/
def endOfStream : Fault :=
  ⟨.unexpectedEof, "failed to fill whole buffer"⟩

/-- Too little room for what was to be written. -/
def noRoom : Fault :=
  ⟨.writeZero, "failed to write whole buffer"⟩

/-- Whether the other side went away or stayed silent, as opposed to misbehaving. -/
def isDisconnect (f : Fault) : Bool :=
  match f.kind with
  | .unexpectedEof | .connectionReset | .connectionAborted | .brokenPipe | .notConnected
  | .wouldBlock | .timedOut => true
  | _ => false

end Fault
end AtomicKv
