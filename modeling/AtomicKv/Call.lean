import AtomicKv.Key
import AtomicKv.Outcome

/-!
# Calls

What a client asks for, on the level of keys and values. A call whose command would not fit
a frame is refused before anything is sent.
-/
namespace AtomicKv

inductive Call where
  | read (key : Key)
  | write (key : Key) (value : Value)
  | testAndSet (key : Key) (expected value : Value)
  deriving DecidableEq, Repr

namespace Call

def command : Call → Command
  | .read key => .read key.bytes
  | .write key value => .write key.bytes value.wire
  | .testAndSet key expected value => .testAndSet key.bytes expected.wire value.wire

def tooLarge (c : Command) : ClientError :=
  .unknown (c.kind.name ++ " request too large: " ++ toString c.payloadSize ++ " bytes (max "
    ++ toString Frame.maxPayload ++ ")")

def request (c : Call) : Except ClientError Bytes :=
  if Frame.maxPayload < c.command.payloadSize then .error (tooLarge c.command)
  else .ok c.command.encode

/-- What a call answers to an outcome: a read its value, the others nothing. -/
def classify (c : Call) (o : Outcome) : Except ClientError (Option Value) :=
  match c with
  | .read _ => o.asRead.map some
  | .write _ _ => o.asWrite.map fun _ => none
  | .testAndSet _ _ _ => o.asTestAndSet.map fun _ => none

end Call
end AtomicKv
