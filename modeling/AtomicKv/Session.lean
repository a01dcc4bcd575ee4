import AtomicKv.ClientError
import AtomicKv.Store
import AtomicKv.Stream.Sink
import AtomicKv.Stream.Source

/-!
# Sessions

A session serves one client of a node: one reply to each request frame, in order. A request
that is no command is told so and the session goes on; a stream that cannot be cut into
frames any more is told so once and ends it. A client that goes away ends it quietly.
-/
namespace AtomicKv.Session

/-- The reply to a request frame, and the store behind it: of the command it holds, or else
the reason why it holds none. -/
def answer (store : Store) (frame : Bytes) : Reply × Store :=
  match Command.decode frame with
  | .ok command => store.execute command
  | .error flaw => (.unknown (ClientError.unknown flaw.message).message, store)

structure Ended where
  store : Store
  sink : Sink
  result : Except Fault Unit

/-- How a session ends that met a fault: quietly when the client went away. -/
def resultOf (f : Fault) : Except Fault Unit :=
  if f.isDisconnect then .ok () else .error f

/-- Serves requests until the client goes away or the stream breaks. -/
def serve (store : Store) (source : Source) (sink : Sink) : Ended :=
  match _frame : source.readFrame with
  | (.error f, _) =>
    if f.isDisconnect then ⟨store, sink, .ok ()⟩
    else ⟨store, (sink.writeFrame (Reply.unknown f.message).encode).2, .error f⟩
  | (.ok frame, source') =>
    let (reply, store) := answer store frame
    match sink.writeFrame reply.encode with
    | (.error f, sink) => ⟨store, sink, resultOf f⟩
    | (.ok _, sink) => serve store source' sink
  termination_by source.rest.length
  decreasing_by
    have ⟨split, header⟩ := Source.rest_of_readFrame _frame
    rw [split, List.length_append]
    simp only [Frame.headerSize] at header
    omega

end AtomicKv.Session
