import AtomicKv.Call
import AtomicKv.Stream.Source
import AtomicKv.Text.Quoted

/-!
# Connections

A connection carries one request at a time and waits for one reply. It is open until it is
closed or a transport fault leaves the stream at an unknown place, and never opens again.
Bytes that arrive past a reply are kept for the next call.
-/
namespace AtomicKv

inductive ConnectionState where
  | opened | closed
  deriving DecidableEq, Repr

def ConnectionState.name : ConnectionState → String
  | .opened => "Open"
  | .closed => "Closed"

structure Connection where
  node : String
  /-- The label of the client. -/
  name : String
  state : ConnectionState := .opened
  /-- Bytes that arrived and belong to no reply yet. -/
  inbox : Bytes := []
  deriving DecidableEq, Repr

/-- What the other side makes of one request. -/
structure Delivery where
  /-- How sending failed, if it did. -/
  unsent : Option Fault := none
  /-- The bytes that arrive. -/
  arrived : Bytes := []
  /-- What reading past them meets. -/
  ending : Ending
  deriving DecidableEq, Repr

namespace Connection

def isOpen (c : Connection) : Bool :=
  c.state = .opened

/-- Closes a connection; nothing happens to a closed one. -/
def close (c : Connection) : Connection :=
  { c with state := .closed }

def debug (c : Connection) : String :=
  "Connection \x7b node: " ++ Quoted.encode c.node ++ ", name: " ++ Quoted.encode c.name
    ++ ", state: " ++ c.state.name ++ " \x7d"

/-- Waits for the reply to a request that was sent. A fault closes the connection. -/
def receive (c : Connection) (d : Delivery) : Except ClientError Bytes × Connection :=
  match d.unsent with
  | some f => (.error (.ofFault c.node f), c.close)
  | none =>
    let source : Source := { rest := c.inbox ++ d.arrived, ending := d.ending }
    match source.readFrame with
    | (.error f, _) => (.error (.ofFault c.node f), c.close)
    | (.ok frame, source) => (.ok frame, { c with inbox := source.rest })

/-- Sends a request frame and waits for the reply frame. A closed connection sends nothing. -/
def roundTrip {m : Type → Type} [Monad m] (c : Connection) (send : Bytes → m Delivery)
    (request : Bytes) : m (Except ClientError Bytes × Connection) :=
  if c.isOpen then do
    let delivery ← send request
    return c.receive delivery
  else return (.error .closed, c)

def conclude (call : Call) (reply : Except ClientError Bytes) :
    Except ClientError (Option Value) :=
  match reply with
  | .error e => .error e
  | .ok frame => call.classify (Outcome.ofFrame frame)

/-- Makes a call. It is refused without a byte being sent when the connection is closed, or
else when its request does not fit a frame, which leaves the connection open. -/
def call {m : Type → Type} [Monad m] (c : Connection) (send : Bytes → m Delivery)
    (call : Call) : m (Except ClientError (Option Value) × Connection) :=
  if c.isOpen then
    match call.request with
    | .error e => return (.error e, c)
    | .ok request => do
      let (reply, c) ← c.roundTrip send request
      return (conclude call reply, c)
  else return (.error .closed, c)

end Connection
end AtomicKv
