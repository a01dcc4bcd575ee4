import AtomicKv.Proofs.Exchange

/-!
# Runs of a client against any node

What is at the other end of a connection is left open here: it may remember anything, take a request
or fail to, send any bytes, and end or fail in any way. An exchange ends with a fault or with the
frame that is in front of what has arrived (`Exchanged`), and a call does one of four things
(`Called`). A run of steps goes on where an earlier one ended (`steps_append_run`).
-/
namespace AtomicKv

/-- What a frame means is an answer of the node, whatever the frame. -/
theorem Call.isConnectivity_of_classify {call : Call} {o : Outcome} {e : ClientError}
    (failed : call.classify o = .error e) : e.isConnectivity = false := by
  cases call <;> cases o <;> cases failed <;> rfl

namespace Connection

/-- How the exchange of a request for a reply ends: with a fault, or with the reply frame and the
bytes behind it. -/
inductive Exchanged (c : Connection) (d : Delivery) : Except Fault (Bytes × Bytes) → Prop where
  /-- The request could not be sent. -/
  | unsent {f : Fault} (failed : d.unsent = some f) : Exchanged c d (.error f)
  /-- What has arrived does not begin with a whole frame. -/
  | stuck (sent : d.unsent = none)
    (stuck : Frame.Incomplete (c.inbox ++ d.arrived) ∨ Frame.Oversized (c.inbox ++ d.arrived)) :
    Exchanged c d (.error (Session.stop d.ending (c.inbox ++ d.arrived)))
  | reply {frame rest : Bytes} (sent : d.unsent = none) (whole : Frame.Whole frame)
    (front : c.inbox ++ d.arrived = frame ++ rest) : Exchanged c d (.ok (frame, rest))

variable {c c' : Connection} {d : Delivery}

theorem isOpen_close (c : Connection) : c.close.isOpen = false := rfl

theorem exists_exchanged (c : Connection) (d : Delivery) : ∃ result, Exchanged c d result := by
  cases sent : d.unsent with
  | some f => exact ⟨_, .unsent sent⟩
  | none =>
    by_cases stuck :
        Frame.Incomplete (c.inbox ++ d.arrived) ∨ Frame.Oversized (c.inbox ++ d.arrived)
    · exact ⟨_, .stuck sent stuck⟩
    · exact ⟨_, .reply sent (Frame.whole_take stuck).1 (List.take_append_drop _ _).symm⟩

/-- An exchange ends in one way. -/
theorem Exchanged.unique {r r' : Except Fault (Bytes × Bytes)} (h : Exchanged c d r)
    (h' : Exchanged c d r') : r = r' := by
  cases h with
  | unsent failed =>
    cases h' with
    | unsent failed' =>
      rw [failed] at failed'
      cases failed'
      rfl
    | stuck sent | reply sent =>
      rw [failed] at sent
      cases sent
  | stuck sent stuck =>
    cases h' with
    | unsent failed =>
      rw [sent] at failed
      cases failed
    | stuck => rfl
    | reply _ whole front =>
      rw [front] at stuck
      exact absurd stuck (whole.free _)
  | reply sent whole front =>
    cases h' with
    | unsent failed =>
      rw [sent] at failed
      cases failed
    | stuck _ stuck =>
      rw [front] at stuck
      exact absurd stuck (whole.free _)
    | reply _ whole' front' =>
      obtain ⟨rfl, rfl⟩ := whole.append_inj whole' (front.symm.trans front')
      rfl

theorem receive_of_fault {f : Fault} (failed : Exchanged c d (.error f)) :
    c.receive d = (.error (.ofFault c.node f), c.close) := by
  cases failed with
  | unsent failed => simp only [receive, failed]
  | stuck sent stuck => exact receive_of_stuck sent stuck

theorem receive_of_reply {frame rest : Bytes} (replied : Exchanged c d (.ok (frame, rest))) :
    c.receive d = (.ok frame, { c with inbox := rest }) := by
  cases replied with
  | reply sent whole front => exact receive_of_whole sent whole front

section Run

variable {σ : Type}

/-- What a call does in some state of the node: its answer, and the connection and the state behind
it. -/
inductive Called (send : Bytes → StateM σ Delivery) (c : Connection) (s : σ) (call : Call) :
    Answer → Connection → σ → Prop where
  /-- On a closed connection nothing is sent. -/
  | closed (closed : c.isOpen = false) : Called send c s call (.error .closed) c s
  /-- Nor is a request that does not fit a frame. -/
  | refused (opened : c.isOpen = true) (large : Frame.maxPayload < call.command.payloadSize) :
    Called send c s call (.error (Call.tooLarge call.command)) c s
  | failed {d : Delivery} {t : σ} {f : Fault} (opened : c.isOpen = true)
    (fits : call.command.payloadSize ≤ Frame.maxPayload)
    (sent : (send call.command.encode).run s = (d, t)) (exchanged : Exchanged c d (.error f)) :
    Called send c s call (.error (.ofFault c.node f)) c.close t
  | replied {d : Delivery} {t : σ} {frame rest : Bytes} (opened : c.isOpen = true)
    (fits : call.command.payloadSize ≤ Frame.maxPayload)
    (sent : (send call.command.encode).run s = (d, t))
    (exchanged : Exchanged c d (.ok (frame, rest))) :
    Called send c s call (call.classify (Outcome.ofFrame frame)) { c with inbox := rest } t

variable {send : Bytes → StateM σ Delivery} {s t : σ}

/-- A call that fits, on an open connection, sends its request and receives what is delivered. -/
theorem call_run {call : Call} (opened : c.isOpen = true)
    (fits : call.command.payloadSize ≤ Frame.maxPayload)
    (sent : (send call.command.encode).run s = (d, t)) :
    (c.call send call).run s = ((conclude call (c.receive d).1, (c.receive d).2), t) := by
  rw [call_eq opened fits]
  change (let delivered := (send call.command.encode).run s
    ((conclude call (c.receive delivered.1).1, (c.receive delivered.1).2), delivered.2)) = _
  rw [sent]

theorem call_of_fault {call : Call} {f : Fault} (opened : c.isOpen = true)
    (fits : call.command.payloadSize ≤ Frame.maxPayload)
    (sent : (send call.command.encode).run s = (d, t)) (failed : Exchanged c d (.error f)) :
    (c.call send call).run s = ((.error (.ofFault c.node f), c.close), t) := by
  rw [call_run opened fits sent, receive_of_fault failed]
  rfl

theorem call_of_reply {call : Call} {frame rest : Bytes} (opened : c.isOpen = true)
    (fits : call.command.payloadSize ≤ Frame.maxPayload)
    (sent : (send call.command.encode).run s = (d, t))
    (replied : Exchanged c d (.ok (frame, rest))) :
    (c.call send call).run s =
      ((call.classify (Outcome.ofFrame frame), { c with inbox := rest }), t) := by
  rw [call_run opened fits sent, receive_of_reply replied]
  rfl

/-- Every call does one of the four things. -/
theorem call_called (send : Bytes → StateM σ Delivery) (c : Connection) (s : σ) (call : Call) :
    ∃ answer c' t, (c.call send call).run s = ((answer, c'), t) ∧
      Called send c s call answer c' t := by
  cases opened : c.isOpen with
  | false =>
    rw [call_of_closed opened]
    exact ⟨_, _, _, rfl, .closed opened⟩
  | true =>
    by_cases large : Frame.maxPayload < call.command.payloadSize
    · rw [call_of_large opened large]
      exact ⟨_, _, _, rfl, .refused opened large⟩
    · have fits := Nat.le_of_not_lt large
      cases sent : (send call.command.encode).run s with
      | mk d t =>
        obtain ⟨result, exchanged⟩ := exists_exchanged c d
        cases result with
        | error f =>
          exact ⟨_, _, _, call_of_fault opened fits sent exchanged,
            .failed opened fits sent exchanged⟩
        | ok reply =>
          exact ⟨_, _, _, call_of_reply opened fits sent exchanged,
            .replied opened fits sent exchanged⟩

def behindLast (c : Connection) (answers : List (Answer × Connection)) : Connection :=
  answers.foldl (fun _ next => next.2) c

/-- A run is its first step and a run from where that ends, whatever the node does. -/
theorem steps_cons_run {next : ClientStep} {answer : Answer}
    (taken : (c.step send next).run s = ((answer, c'), t)) (later : List ClientStep) :
    (c.steps send (next :: later)).run s =
      ((answer, c') :: ((c'.steps send later).run t).1, ((c'.steps send later).run t).2) := by
  change (let stepped := (c.step send next).run s
    let ran := (stepped.1.2.steps send later).run stepped.2
    (stepped.1 :: ran.1, ran.2)) = _
  rw [taken]

/-- A run goes on where another one ended. -/
theorem steps_append_run {before : List ClientStep} {answers : List (Answer × Connection)}
    (ran : (c.steps send before).run s = (answers, t)) (later : List ClientStep) :
    (c.steps send (before ++ later)).run s =
      (answers ++ (((c.behindLast answers).steps send later).run t).1,
        (((c.behindLast answers).steps send later).run t).2) := by
  induction before generalizing c s answers with
  | nil =>
    cases ran
    rfl
  | cons next before ih =>
    rw [steps_cons_run rfl] at ran
    cases ran
    rw [List.cons_append, steps_cons_run rfl, ih rfl]
    rfl

theorem length_steps_run (send : Bytes → StateM σ Delivery) (c : Connection) (s : σ)
    (steps : List ClientStep) : ((c.steps send steps).run s).1.length = steps.length := by
  induction steps generalizing c s with
  | nil => rfl
  | cons next steps ih =>
    rw [steps_cons_run rfl, List.length_cons, List.length_cons, ih]

/-- A step between others is taken where those before it end. -/
theorem steps_run_getElem {u : σ} {before : List ClientStep}
    {answers : List (Answer × Connection)} {next : ClientStep} {answer : Answer}
    (ran : (c.steps send before).run s = (answers, t))
    (taken : ((c.behindLast answers).step send next).run t = ((answer, c'), u))
    (after : List ClientStep) :
    ((c.steps send (before ++ next :: after)).run s).1[before.length]? = some (answer, c') := by
  have length : answers.length = before.length := by
    rw [← length_steps_run send c s before, ran]
  rw [steps_append_run ran, steps_cons_run taken, ← length,
    List.getElem?_append_right (Nat.le_refl _), Nat.sub_self]
  rfl

end Run

end Connection
end AtomicKv
