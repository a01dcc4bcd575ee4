import AtomicKv.Connection
import AtomicKv.Fault.System

/-!
# Scripted nodes

A node that answers from a script: whatever a request says, the next entry decides which
bytes arrive and whether the node then ends its sending side. Bytes after that end do not
arrive, and a node whose script is used up stays silent.
-/
namespace AtomicKv

/-- What a scripted node does about one request. -/
structure Script.Entry where
  /-- The bytes it sends: part of a frame, several frames, or anything else. -/
  reply : Bytes := []
  /-- Whether it ends its sending side after them. -/
  hangup : Bool := false
  deriving DecidableEq, Repr

structure Script where
  entries : List Script.Entry
  /-- Whether it has ended its sending side. -/
  ended : Bool := false
  /-- The request frames it received, in order. -/
  requests : List Bytes := []
  deriving DecidableEq, Repr

namespace Script

/-- What a read meets past the bytes that a node sent. -/
def ending (ended : Bool) : Ending :=
  if ended then .finished else .fault .silence

def perform (request : Bytes) (s : Script) : Delivery × Script :=
  let requests := s.requests ++ [request]
  match s.entries with
  | [] => ({ ending := ending s.ended }, { s with requests })
  | entry :: entries =>
    let ended := s.ended || entry.hangup
    ({ arrived := if s.ended then [] else entry.reply, ending := ending ended },
      { entries, ended, requests })

def serve (request : Bytes) : StateM Script Delivery :=
  perform request

end Script

inductive ClientStep where
  | call (call : Call)
  | close
  deriving DecidableEq, Repr

/-- What a step yields: the answer of a call, or nothing for a close, which cannot fail. -/
abbrev Answer := Except ClientError (Option Value)

namespace Connection

variable {m : Type → Type} [Monad m]

def step (c : Connection) (send : Bytes → m Delivery) :
    ClientStep → m (Answer × Connection)
  | .call call => c.call send call
  | .close => return (.ok none, c.close)

/-- Takes steps one after another; gives each answer and the connection behind it. -/
def steps (c : Connection) (send : Bytes → m Delivery) :
    List ClientStep → m (List (Answer × Connection))
  | [] => return []
  | next :: rest => do
    let (answer, c) ← c.step send next
    return (answer, c) :: (← c.steps send rest)

end Connection
end AtomicKv
