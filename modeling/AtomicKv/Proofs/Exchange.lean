import AtomicKv.Cluster
import AtomicKv.Proofs.ReplyExact
import AtomicKv.Proofs.SessionRun

/-!
# One exchange between a client and a node

A node answers the request of a command with the reply of its store and then stays silent
(`respond_encode`), and a client that waits with an empty inbox takes that reply and is as it
was before. So a call that fits a frame is one execution of its command on the store, whatever
lies between (`step_call`).
-/
namespace AtomicKv

/-- A session sees the other side go away when nothing more arrives. -/
theorem Fault.isDisconnect_silence : Fault.silence.isDisconnect = true := by
  rw [isDisconnect, kind_silence]

namespace Connection

structure Idle (c : Connection) : Prop where
  opened : c.isOpen = true
  inbox_eq : c.inbox = []

/-- A whole frame in front of what has arrived is taken for the reply; what is behind it stays. -/
theorem receive_of_whole {c : Connection} {d : Delivery} {frame rest : Bytes}
    (sent : d.unsent = none) (whole : Frame.Whole frame)
    (front : c.inbox ++ d.arrived = frame ++ rest) :
    c.receive d = (.ok frame, { c with inbox := rest }) := by
  let source : Source := { rest := c.inbox ++ d.arrived, ending := d.ending }
  have steady : source.pacing.Steady := Pacing.steady_eager
  obtain ⟨t, read, left⟩ := Source.readFrame_of_whole steady whole front
  simp only [receive, sent, source, read, left.rest_eq]

/-- Without one, the fault behind the last whole frame is met and closes the connection. -/
theorem receive_of_stuck {c : Connection} {d : Delivery} (sent : d.unsent = none)
    (stuck : Frame.Incomplete (c.inbox ++ d.arrived) ∨ Frame.Oversized (c.inbox ++ d.arrived)) :
    c.receive d =
      (.error (.ofFault c.node (Session.stop d.ending (c.inbox ++ d.arrived))), c.close) := by
  let source : Source := { rest := c.inbox ++ d.arrived, ending := d.ending }
  have steady : source.pacing.Steady := Pacing.steady_eager
  obtain ⟨t, read⟩ := Session.readFrame_of_stuck steady stuck
  simp only [receive, sent, source, read]

/-- A reply that is all that arrives is taken whole. -/
theorem receive_whole {c : Connection} {frame : Bytes} (idle : c.Idle) (whole : Frame.Whole frame)
    (ending : Ending) : c.receive { arrived := frame, ending } = (.ok frame, c) := by
  have front : c.inbox ++ frame = frame ++ [] := by
    rw [idle.inbox_eq, List.nil_append, List.append_nil]
  have same : { c with inbox := [] } = c := by
    rw [← idle.inbox_eq]
  rw [receive_of_whole rfl whole front, same]

/-- A call that fits, on an open connection, is one request and what is received for it. -/
theorem call_eq {m : Type → Type} [Monad m] [LawfulMonad m] {c : Connection} {call : Call}
    (opened : c.isOpen = true) (fits : call.command.payloadSize ≤ Frame.maxPayload)
    (send : Bytes → m Delivery) :
    c.call send call =
      (fun d => (conclude call (c.receive d).1, (c.receive d).2)) <$>
        send call.command.encode := by
  have request : call.request = .ok call.command.encode := if_neg (Nat.not_lt.mpr fits)
  simp only [Connection.call, roundTrip, opened, if_true, request, bind_pure_comp,
    Functor.map_map]

/-- A call that does not fit is refused on an open connection, and nothing is sent. -/
theorem call_of_large {m : Type → Type} [Monad m] {c : Connection} {call : Call}
    (opened : c.isOpen = true) (large : Frame.maxPayload < call.command.payloadSize)
    (send : Bytes → m Delivery) :
    c.call send call = pure (.error (Call.tooLarge call.command), c) := by
  have request : call.request = .error (Call.tooLarge call.command) := if_pos large
  simp only [Connection.call, opened, if_true, request]

/-- A call on a closed connection is refused, and nothing is sent. -/
theorem call_of_closed {m : Type → Type} [Monad m] {c : Connection} {call : Call}
    (closed : c.isOpen = false) (send : Bytes → m Delivery) :
    c.call send call = pure (.error .closed, c) :=
  if_neg (Bool.eq_false_iff.mp closed)

end Connection

namespace Cluster

/-- A node is sent some whole frames: its session replies to each and then waits for more. -/
theorem respond_of_cut {store : Store} {bs : Bytes} {frames : List Bytes}
    (cut : Frame.Cut bs frames []) :
    respond store bs =
      ({ arrived := ((Session.replies store frames).map Reply.encode).flatten,
         ending := .fault .silence },
        store.after (Session.commands frames)) := by
  have endless : Sink.Endless {} := ⟨rfl, by decide, rfl⟩
  have stopped : Session.stop (.fault .silence) [] = .silence := if_neg (by decide)
  have quiet : Session.farewell .silence = [] := if_pos Fault.isDisconnect_silence
  have result : Session.resultOf .silence = .ok () := if_pos Fault.isDisconnect_silence
  let source : Source := { rest := bs, ending := .fault .silence }
  have steady : source.pacing.Steady := Pacing.steady_eager
  have run := Session.serve_of_cut store {} steady cut (endless.takes _)
  rw [stopped] at run
  have bytes := run.gains.bytes_eq
  rw [quiet, List.append_nil] at bytes
  rw [respond, run.store_eq, run.result_eq, bytes, result]
  rfl

/-- What a session is sent may as well be served in parts, each on the store that the one
before left, as long as it is parted between frames. -/
theorem respond_append {store : Store} {bs bs' : Bytes} {frames frames' : List Bytes}
    (cut : Frame.Cut bs frames []) (cut' : Frame.Cut bs' frames' []) :
    let first := respond store bs
    let second := respond first.2 bs'
    respond store (bs ++ bs') =
      ({ arrived := first.1.arrived ++ second.1.arrived, ending := second.1.ending },
        second.2) := by
  simp only [respond_of_cut cut, respond_of_cut cut', respond_of_cut (cut.append cut'),
    Session.replies_append, Session.commands_append, Session.after_append, List.map_append,
    List.flatten_append]

/-- A request that fits is answered with what the store makes of its command. -/
theorem respond_encode {store : Store} {command : Command}
    (fits : command.payloadSize ≤ Frame.maxPayload) :
    respond store command.encode =
      ({ arrived := (store.execute command).1.encode, ending := .fault .silence },
        (store.execute command).2) := by
  rw [respond_of_cut (Command.cut_encode fits), Session.replies_encode fits,
    Session.commands_encode fits, List.map_singleton, List.flatten_singleton]
  rfl

/-- A client that is put back as it was leaves the others as they were. -/
theorem withClient_self {k : Cluster} {n : Nat} {c : Connection} (client : k.clients n = some c) :
    k.withClient n (some c) = k := by
  have same : (fun other => if other = n then some c else k.clients other) = k.clients := by
    funext other
    by_cases here : other = n
    · rw [if_pos here, here, client]
    · rw [if_neg here]
  rw [withClient, same]

theorem step_of_no_client {k : Cluster} {n : Nat} (gone : k.clients n = none) (next : ClientStep) :
    k.step n next = none := by
  unfold step
  simp only [gone]

theorem step_close {k : Cluster} {n : Nat} {c : Connection} (client : k.clients n = some c) :
    k.step n .close = some (.ok none, k.withClient n (some c.close)) := by
  unfold step
  simp only [client]
  rfl

/-- A step of a client is its call with the node as the other side. -/
theorem step_of_run {k : Cluster} {n : Nat} {c c' : Connection} {call : Call} {answer : Answer}
    {store : Store} (client : k.clients n = some c)
    (called : (c.call (serve k.running) call).run k.store = ((answer, c'), store)) :
    k.step n (.call call) = some (answer, { k.withClient n (some c') with store }) := by
  unfold step
  simp only [client, Connection.step, called]

/-- A call that fits is one execution of its command on the store of the node. -/
theorem step_call {k : Cluster} {n : Nat} {c : Connection} {call : Call}
    (running : k.running = true) (client : k.clients n = some c) (idle : c.Idle)
    (fits : call.command.payloadSize ≤ Frame.maxPayload)
    (reply_fits : (k.store.execute call.command).1.body.length ≤ Frame.maxPayload) :
    k.step n (.call call) =
      some (call.classify (Outcome.ofFrame (k.store.execute call.command).1.encode),
        { k with store := (k.store.execute call.command).2 }) := by
  have received := Connection.receive_whole idle (Reply.whole_encode reply_fits) (.fault .silence)
  have called : (c.call (serve k.running) call).run k.store =
      ((call.classify (Outcome.ofFrame (k.store.execute call.command).1.encode), c),
        (k.store.execute call.command).2) := by
    rw [Connection.call_eq idle.opened fits, serve, if_pos running]
    change (let responded := respond k.store call.command.encode
      let taken := c.receive responded.1
      ((Connection.conclude call taken.1, taken.2), responded.2)) = _
    simp only [respond_encode fits, received, Connection.conclude]
  rw [step_of_run client called, withClient_self client]

/-- A call that does not fit is refused, and nothing happens. -/
theorem step_call_of_large {k : Cluster} {n : Nat} {c : Connection} {call : Call}
    (client : k.clients n = some c) (opened : c.isOpen = true)
    (large : Frame.maxPayload < call.command.payloadSize) :
    k.step n (.call call) = some (.error (Call.tooLarge call.command), k) := by
  have called : (c.call (serve k.running) call).run k.store =
      ((.error (Call.tooLarge call.command), c), k.store) := by
    rw [Connection.call_of_large opened large]
    rfl
  rw [step_of_run client called, withClient_self client]

/-- A call on a closed connection is refused, and nothing happens. -/
theorem step_call_of_closed {k : Cluster} {n : Nat} {c : Connection} {call : Call}
    (client : k.clients n = some c) (closed : c.isOpen = false) :
    k.step n (.call call) = some (.error .closed, k) := by
  have called : (c.call (serve k.running) call).run k.store = ((.error .closed, c), k.store) := by
    rw [Connection.call_of_closed closed]
    rfl
  rw [step_of_run client called, withClient_self client]

/-- A call to a node that has stopped meets the end of the stream, which closes the connection. -/
theorem step_call_of_stopped {k : Cluster} {n : Nat} {c : Connection} {call : Call}
    (stopped : k.running = false) (client : k.clients n = some c) (idle : c.Idle)
    (fits : call.command.payloadSize ≤ Frame.maxPayload) :
    k.step n (.call call) =
      some (.error (.connection (c.node ++ " closed the connection")),
        k.withClient n (some c.close)) := by
  have few : Frame.Incomplete (c.inbox ++ []) := by
    rw [idle.inbox_eq]
    exact Or.inl (by decide)
  have received : c.receive { ending := .finished } =
      (.error (.connection (c.node ++ " closed the connection")), c.close) := by
    rw [Connection.receive_of_stuck rfl (Or.inl few), Session.stop,
      if_neg (Frame.not_oversized_of_incomplete few)]
    rfl
  have called : (c.call (serve k.running) call).run k.store =
      ((.error (.connection (c.node ++ " closed the connection")), c.close), k.store) := by
    rw [Connection.call_eq idle.opened fits, serve, if_neg (Bool.eq_false_iff.mp stopped)]
    change (let taken := c.receive { ending := .finished }
      ((Connection.conclude call taken.1, taken.2), k.store)) = _
    simp only [received, Connection.conclude]
  rw [step_of_run client called]
  rfl

end Cluster
end AtomicKv
