import AtomicKv.ClientError
import AtomicKv.Reply

/-!
# Outcomes

What a client makes of a reply frame. Every byte string has an outcome: what is no reply is
of unknown outcome, for a reason in words. Each operation then takes the outcomes it expects
as success and every other one as an error of one kind.
-/
namespace AtomicKv

inductive Outcome where
  /-- Success with a value. -/
  | value (v : Value)
  /-- Success without one. -/
  | done
  | notFound
  | aborted (reason : String)
  /-- Another value is stored under the key. -/
  | keyChanged (current : Value)
  /-- No reply that can be understood. -/
  | unknown (reason : String)
  deriving DecidableEq, Repr

namespace Outcome

/-- The outcome of a well-formed frame with the given status and payload. -/
def ofPayload (payload : Bytes) : Status → Outcome
  | .ok =>
    if payload = [] then .done
    else match Value.ofWire payload with
      | .ok v => .value v
      | .error fault => .unknown (ClientError.ofWireFault fault).message
  | .notFound => .notFound
  | .abort => .aborted (Utf8.lossy payload)
  | .keyChanged =>
    match Value.ofWire payload with
    | .ok v => .keyChanged v
    | .error fault =>
      .unknown ("KEY_CHANGED without readable value: " ++ (ClientError.ofWireFault fault).message)
  | .unknown => .unknown (Utf8.lossy payload)

def ofFrame (frame : Bytes) : Outcome :=
  match Frame.decode frame with
  | .error flaw => .unknown flaw.message
  | .ok (tag, payload) =>
    match Status.ofTag? tag with
    | none => .unknown ("Unknown response status: " ++ Frame.hex 2 tag.toNat)
    | some status => ofPayload payload status

def asRead : Outcome → Except ClientError Value
  | .value v => .ok v
  | .done => .error (.unknown "read answered OK without a value")
  | .notFound => .error .notFound
  | .aborted reason => .error (.abort reason)
  | .keyChanged _ => .error (.unknown "read answered KEY_CHANGED")
  | .unknown reason => .error (.unknown reason)

/-- A write succeeds without a value, whether the key existed or not. -/
def asWrite : Outcome → Except ClientError Unit
  | .done => .ok ()
  | .value _ => .error (.unknown "write answered OK with an unexpected value")
  | .notFound => .error (.unknown "write answered NOT_FOUND")
  | .aborted reason => .error (.abort reason)
  | .keyChanged _ => .error (.unknown "write answered KEY_CHANGED")
  | .unknown reason => .error (.unknown reason)

/-- A test-and-set succeeds without a value; a mismatch hands back the stored one. -/
def asTestAndSet : Outcome → Except ClientError Unit
  | .done => .ok ()
  | .value _ => .error (.unknown "test-and-set answered OK with an unexpected value")
  | .notFound => .error .notFound
  | .aborted reason => .error (.abort reason)
  | .keyChanged current => .error (.keyChanged current)
  | .unknown reason => .error (.unknown reason)

end Outcome
end AtomicKv
