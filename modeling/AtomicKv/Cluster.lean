import AtomicKv.Script
import AtomicKv.Session

/-!
# A node and its clients

Any number of clients, each on a connection of its own to its own session, share the store
of one node. Their calls come one at a time. The store outlives the node's service; a client
whose node has stopped meets the end of the stream.
-/
namespace AtomicKv

structure Cluster where
  store : Store := .empty
  /-- Whether the node still serves. -/
  running : Bool := true
  /-- The connections, by client number. -/
  clients : Nat → Option Connection := fun _ => none

namespace Cluster

/-- What a session makes of the bytes of a request on a stream that then stays silent, and
the store behind it. -/
def respond (store : Store) (request : Bytes) : Delivery × Store :=
  let ended := Session.serve store { rest := request, ending := .fault .silence } {}
  ({ arrived := ended.sink.bytes,
     ending := match ended.result with
       | .ok _ => .fault .silence
       | .error _ => .finished },
    ended.store)

/-- The node as the other side of a connection. -/
def serve (running : Bool) (request : Bytes) : StateM Store Delivery :=
  if running then fun store => respond store request
  else return { ending := .finished }

def withClient (k : Cluster) (client : Nat) (c : Option Connection) : Cluster :=
  { k with clients := fun other => if other = client then c else k.clients other }

def connect (k : Cluster) (client : Nat) (node name : String) : Cluster :=
  k.withClient client (some { node, name })

def drop (k : Cluster) (client : Nat) : Cluster :=
  k.withClient client none

def shutdown (k : Cluster) : Cluster :=
  { k with running := false }

/-- A client takes a step; nothing when there is no such client. -/
def step (k : Cluster) (client : Nat) (next : ClientStep) : Option (Answer × Cluster) :=
  match k.clients client with
  | none => none
  | some c =>
    let ((answer, c), store) := (c.step (serve k.running) next).run k.store
    some (answer, { k.withClient client (some c) with store })

end Cluster
end AtomicKv
