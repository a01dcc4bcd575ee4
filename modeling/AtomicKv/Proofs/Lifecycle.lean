import AtomicKv.Proofs.ClientRun

/-!
# The life of a connection

A connection is open until it is closed or an exchange on it fails, and never again. The answer of
a call says which it is, save for one kind: an answer of unknown outcome closes the connection when
a fault of the exchange is behind it and leaves it open otherwise (`Leaves`). That holds at every
step of every run against any node, and from a closed connection a run goes on without one
(`steps_lifecycle`).
-/
namespace AtomicKv

/-- What a step is told on a closed connection. -/
def ClientStep.refusal : ClientStep → Answer
  | .call _ => .error .closed
  | .close => .ok none

/-- A fault on the channel is told as a failure of the channel, unless it is of invalid data. -/
theorem ClientError.ofFault_cases (node : String) (f : Fault) :
    (f.kind = .invalidData ∧ ∃ text, ofFault node f = .unknown text) ∨
      (ofFault node f).isConnectivity = true := by
  by_cases invalid : f.kind = .invalidData
  · refine Or.inl ⟨invalid, "unreadable frame from " ++ node ++ ": " ++ f.message, ?_⟩
    rw [ofFault, invalid]
  · refine Or.inr ?_
    unfold ofFault
    split
    case h_3 invalid' => exact absurd invalid' invalid
    all_goals rfl

namespace Connection

/-- The request of a call is sent, and a fault of invalid data ends the exchange. -/
def Garbled (c : Connection) (call : Call) (d : Delivery) : Prop :=
  call.command.payloadSize ≤ Frame.maxPayload ∧
    ∃ f, Exchanged c d (.error f) ∧ f.kind = .invalidData

/-- The request of a call is refused as too large, or a whole frame is received for it. -/
def Intact (c : Connection) (call : Call) (d : Delivery) : Prop :=
  Frame.maxPayload < call.command.payloadSize ∨
    ∃ frame rest, Exchanged c d (.ok (frame, rest))

/-- How the answer of a call on a connection `c` goes with the connection `c'` behind it, where
`d` is what the node makes of the request if it is sent. -/
def Leaves (c : Connection) (call : Call) (d : Delivery) (answer : Answer) (c' : Connection) :
    Prop :=
  match answer with
  | .ok _ | .error .notFound | .error (.abort _) | .error (.keyChanged _) => c'.isOpen = true
  | .error (.connection _) | .error (.timeout _) => c'.isOpen = false
  | .error (.unknown _) =>
    (c'.isOpen = false ↔ Garbled c call d) ∧ (c'.isOpen = true ↔ Intact c call d)

variable {c c' : Connection} {call : Call} {d : Delivery}

theorem Garbled.not_intact (garbled : Garbled c call d) : ¬ Intact c call d := by
  obtain ⟨fits, f, failed, -⟩ := garbled
  intro intact
  rcases intact with large | ⟨frame, rest, replied⟩
  · exact absurd large (Nat.not_lt.mpr fits)
  · cases failed.unique replied

theorem leaves_of_connectivity {e : ClientError} (failed : e.isConnectivity = true)
    (closed : c'.isOpen = false) : Leaves c call d (.error e) c' := by
  cases e with
  | connection text | timeout text => exact closed
  | notFound | abort reason | keyChanged current | unknown text => cases failed

theorem leaves_of_garbled {text : String} (garbled : Garbled c call d)
    (closed : c'.isOpen = false) : Leaves c call d (.error (.unknown text)) c' := by
  refine ⟨⟨fun _ => garbled, fun _ => closed⟩, fun opened => ?_, fun intact => ?_⟩
  · exact absurd (closed.symm.trans opened) Bool.false_ne_true
  · exact absurd intact garbled.not_intact

theorem leaves_of_intact {answer : Answer} (intact : Intact c call d) (opened : c'.isOpen = true)
    (told : ∀ e, answer = .error e → e.isConnectivity = false) : Leaves c call d answer c' := by
  cases answer with
  | ok value => exact opened
  | error e =>
    have calm := told e rfl
    cases e with
    | notFound | abort reason | keyChanged current => exact opened
    | connection text | timeout text => cases calm
    | unknown text =>
      refine ⟨⟨fun closed => ?_, fun garbled => ?_⟩, fun _ => intact, fun _ => opened⟩
      · exact absurd (closed.symm.trans opened) Bool.false_ne_true
      · exact absurd intact garbled.not_intact

theorem close_of_closed (closed : c.isOpen = false) : c.close = c := by
  have state : c.state ≠ .opened := of_decide_eq_false closed
  obtain ⟨node, name, state', inbox⟩ := c
  cases state' with
  | opened => exact absurd rfl state
  | closed => rfl

section Run

variable {σ : Type} (send : Bytes → StateM σ Delivery)

/-- Each of the four things that a call does goes with its answer. -/
theorem Called.leaves {s t : σ} {answer : Answer} (called : Called send c s call answer c' t) :
    Leaves c call ((send call.command.encode).run s).1 answer c' := by
  cases called with
  | closed closed => exact leaves_of_connectivity rfl closed
  | refused opened large =>
    refine leaves_of_intact (.inl large) opened fun e told => ?_
    cases told
    rfl
  | failed opened fits sent exchanged =>
    rw [sent]
    rcases ClientError.ofFault_cases c.node _ with ⟨invalid, text, unknown⟩ | failed
    · rw [unknown]
      exact leaves_of_garbled ⟨fits, _, exchanged, invalid⟩ (isOpen_close c)
    · exact leaves_of_connectivity failed (isOpen_close c)
  | replied opened fits sent exchanged =>
    rw [sent]
    exact leaves_of_intact (.inr ⟨_, _, exchanged⟩) opened
      fun _ told => Call.isConnectivity_of_classify told

theorem step_of_closed (closed : c.isOpen = false) (s : σ) (next : ClientStep) :
    (c.step send next).run s = ((next.refusal, c), s) := by
  cases next with
  | close =>
    change ((Except.ok none, c.close), s) = ((Except.ok none, c), s)
    rw [close_of_closed closed]
  | call call =>
    rw [step, call_of_closed closed]
    rfl

/-- A closed connection stays as it is, and the node does not notice the steps. -/
theorem steps_of_closed (closed : c.isOpen = false) (s : σ) (steps : List ClientStep) :
    (c.steps send steps).run s = (steps.map fun next => (next.refusal, c), s) := by
  induction steps with
  | nil => rfl
  | cons next steps ih =>
    rw [steps_cons_run (step_of_closed send closed s next), ih, List.map_cons]

/-- A closed connection stays closed and is told so, a close closes, and the answer of a call says
whether the connection behind it is open. -/
theorem steps_lifecycle (start : Connection) (s : σ) (before : List ClientStep) :
    let run (steps : List ClientStep) := (start.steps send steps).run s
    let c := start.behindLast (run before).1
    let t := (run before).2
    (c.isOpen = false → ∀ after : List ClientStep,
      run (before ++ after) =
        ((run before).1 ++ after.map fun next => (next.refusal, c), t)) ∧
    (∀ after : List ClientStep,
      (run (before ++ .close :: after)).1[before.length]? = some (.ok none, c.close)) ∧
    ∀ (call : Call) (after : List ClientStep), ∃ answer c',
      (run (before ++ .call call :: after)).1[before.length]? = some (answer, c') ∧
        Leaves c call ((send call.command.encode).run t).1 answer c' := by
  intro run c t
  have ran : (start.steps send before).run s = ((run before).1, t) := rfl
  refine ⟨fun closed after => ?_, fun after => ?_, fun call after => ?_⟩
  · change (start.steps send (before ++ after)).run s = _
    rw [steps_append_run ran, steps_of_closed send closed]
  · exact steps_run_getElem ran rfl after
  · obtain ⟨answer, c', u, called, what⟩ := call_called send c t call
    have taken : (c.step send (.call call)).run t = ((answer, c'), u) := called
    exact ⟨answer, c', steps_run_getElem ran taken after, what.leaves⟩

end Run

/-- A node announces a reply past the limit. The outcome of the read is unknown, and the steps
behind it find the connection closed. -/
theorem steps_lifecycle_oversized :
    let start : Connection := { node := "node", name := "client" }
    let entries : List Script.Entry := [{ reply := [0, 255, 255, 255, 255, 0, 0, 0, 0] }]
    let run (steps : List ClientStep) := (start.steps Script.serve steps).run { entries }
    let read : Call := .read ⟨[1]⟩
    ∃ text c t, run [.call read] = ([(.error (.unknown text), c)], t) ∧ c.isOpen = false ∧
      run [.call read, .close, .call read] =
        ([(.error (.unknown text), c), (.ok none, c), (.error .closed, c)], t) := by
  intro start entries run read
  let d : Delivery :=
    { arrived := [0, 255, 255, 255, 255, 0, 0, 0, 0], ending := .fault .silence }
  let t : Script := { entries := [], requests := [read.command.encode] }
  have fits : read.command.payloadSize ≤ Frame.maxPayload := by decide
  have sent : (Script.serve read.command.encode).run { entries } = (d, t) := rfl
  have oversized : Frame.Oversized (start.inbox ++ d.arrived) := by decide
  have failed : Exchanged start d (.error (Session.stop d.ending (start.inbox ++ d.arrived))) :=
    .stuck rfl (.inr oversized)
  rw [Session.stop, if_pos oversized] at failed
  have taken : (start.step Script.serve (.call read)).run { entries } = _ :=
    call_of_fault rfl fits sent failed
  have ran : (start.steps Script.serve [.call read]).run { entries } =
      ([(.error (.unknown _), start.close)], t) :=
    steps_cons_run taken []
  have lifecycle := steps_lifecycle Script.serve start { entries } [.call read]
  dsimp only at lifecycle
  rw [ran] at lifecycle
  exact ⟨_, start.close, t, ran, isOpen_close start,
    lifecycle.1 (isOpen_close start) [.close, .call read]⟩

end Connection
end AtomicKv
