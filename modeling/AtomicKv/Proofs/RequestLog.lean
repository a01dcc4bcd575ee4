import AtomicKv.Proofs.Lifecycle

/-!
# The requests of a client

A step sends at most one request, and which one is settled before it is taken: by the call and
by whether the connection is open (`sends`). Nothing is sent again. The node is therefore, behind
a run, where the requests that the steps issue take it, each once and in the order of the steps
(`steps_issue`), and a node that writes down what it receives has written down just these
(`requests_eq_issued`). A connection is open as long as no step closes it and no exchange on it
fails (`isOpen_steps_iff`).
-/
namespace AtomicKv.Connection

/-- The request that a step sends: none on a closed connection, and none that does not fit a
frame. -/
def sends (c : Connection) : ClientStep → Option Bytes
  | .call call =>
    if c.isOpen = true ∧ call.command.payloadSize ≤ Frame.maxPayload then some call.command.encode
    else none
  | .close => none

/-- The requests that the steps of a run send, in order. Each step is taken on the connection
that is behind the answer before it. -/
def issued (c : Connection) (steps : List ClientStep) (answers : List (Answer × Connection)) :
    List Bytes :=
  (steps.zip (c :: answers.map Prod.snd)).filterMap fun (next, c) => c.sends next

/-- Where some requests, one after another, take a node. -/
def stateBehind {σ : Type} (send : Bytes → StateM σ Delivery) (s : σ) (requests : List Bytes) : σ :=
  requests.foldl (fun s request => ((send request).run s).2) s

variable {c : Connection}

theorem sends_call {call : Call} (opened : c.isOpen = true)
    (fits : call.command.payloadSize ≤ Frame.maxPayload) :
    c.sends (.call call) = some call.command.encode :=
  if_pos ⟨opened, fits⟩

theorem sends_of_closed (closed : c.isOpen = false) (next : ClientStep) : c.sends next = none := by
  cases next with
  | close => rfl
  | call call => exact if_neg fun h => Bool.false_ne_true (closed.symm.trans h.1)

theorem sends_of_large {call : Call} (large : Frame.maxPayload < call.command.payloadSize) :
    c.sends (.call call) = none :=
  if_neg fun h => Nat.not_le.mpr large h.2

/-- What a step sends is one whole frame. -/
theorem whole_of_sends {next : ClientStep} {request : Bytes} (sent : c.sends next = some request) :
    Frame.Whole request := by
  cases next with
  | close => cases sent
  | call call =>
    simp only [sends, Option.ite_none_right_eq_some, Option.some.injEq] at sent
    obtain ⟨⟨-, fits⟩, rfl⟩ := sent
    exact Command.whole_encode fits

theorem issued_cons (next : ClientStep) (steps : List ClientStep) (answer : Answer)
    (c' : Connection) (answers : List (Answer × Connection)) :
    c.issued (next :: steps) ((answer, c') :: answers) =
      (c.sends next).toList ++ c'.issued steps answers := by
  unfold issued
  rw [List.map_cons, List.zip_cons_cons, List.filterMap_cons]
  cases sent : c.sends next with
  | none | some request =>
    simp only [sent]
    rfl

/-- The requests of a run are the frames of the byte string that they make up. -/
theorem cut_issued (c : Connection) (steps : List ClientStep)
    (answers : List (Answer × Connection)) :
    Frame.Cut (c.issued steps answers).flatten (c.issued steps answers) [] where
  joined := (List.append_nil _).symm
  whole request member := by
    obtain ⟨⟨next, before⟩, -, sent⟩ := List.mem_filterMap.mp member
    exact whole_of_sends sent
  stuck := Or.inl (by decide)

section Run

variable {σ : Type} (send : Bytes → StateM σ Delivery)

theorem stateBehind_append (s : σ) (requests more : List Bytes) :
    stateBehind send s (requests ++ more) = stateBehind send (stateBehind send s requests) more :=
  List.foldl_append

/-- A step makes a node take the request that it sends, once, and nothing else. -/
theorem step_sends (c : Connection) (s : σ) (next : ClientStep) :
    ((c.step send next).run s).2 = stateBehind send s (c.sends next).toList := by
  cases next with
  | close => rfl
  | call call =>
    obtain ⟨answer, c', t, run, called⟩ := call_called send c s call
    have ran : ((c.step send (.call call)).run s).2 = t := congrArg Prod.snd run
    rw [ran]
    cases called with
    | closed closed =>
      rw [sends_of_closed closed]
      rfl
    | refused opened large =>
      rw [sends_of_large large]
      rfl
    | failed opened fits sent | replied opened fits sent =>
      rw [sends_call opened fits]
      exact (congrArg Prod.snd sent).symm

/-- Whether a step ends the life of an open connection: a close, or a call whose request goes out
and whose exchange ends with a fault. -/
def Closes (c : Connection) (s : σ) : ClientStep → Prop
  | .close => True
  | .call call =>
    call.command.payloadSize ≤ Frame.maxPayload ∧
      ∃ f, Exchanged c ((send call.command.encode).run s).1 (.error f)

theorem isOpen_step_iff (c : Connection) (s : σ) (next : ClientStep) :
    ((c.step send next).run s).1.2.isOpen = true ↔
      c.isOpen = true ∧ ¬ Closes send c s next := by
  cases next with
  | close => exact ⟨fun opened => absurd opened Bool.false_ne_true, fun h => absurd trivial h.2⟩
  | call call =>
    obtain ⟨answer, c', t, run, called⟩ := call_called send c s call
    have behind : ((c.step send (.call call)).run s).1.2 = c' := congrArg (·.1.2) run
    rw [behind]
    cases called with
    | closed closed => simp [closed]
    | refused opened large =>
      refine iff_of_true opened ⟨opened, fun ends => ?_⟩
      exact Nat.not_le.mpr large ends.1
    | failed opened fits sent exchanged =>
      refine iff_of_false Bool.false_ne_true fun stays => stays.2 ⟨fits, ?_⟩
      rw [sent]
      exact ⟨_, exchanged⟩
    | replied opened fits sent exchanged =>
      refine iff_of_true opened ⟨opened, fun ⟨_, f, failed⟩ => ?_⟩
      rw [sent] at failed
      cases exchanged.unique failed

/-- Behind a run a connection is open exactly when it was before and no step of the run was a close
or met a fault. -/
theorem isOpen_steps_iff (c : Connection) (s : σ) (steps : List ClientStep) :
    (c.behindLast ((c.steps send steps).run s).1).isOpen = true ↔
      c.isOpen = true ∧ ∀ before next, before ++ [next] <+: steps →
        let ran := (c.steps send before).run s
        ¬ Closes send (c.behindLast ran.1) ran.2 next := by
  induction steps generalizing c s with
  | nil =>
    refine ⟨fun opened => ⟨opened, fun before next front => ?_⟩, And.left⟩
    exact absurd (List.prefix_nil.mp front) (List.concat_ne_nil next before)
  | cons first steps ih =>
    have behind := ih ((c.step send first).run s).1.2 ((c.step send first).run s).2
    rw [isOpen_step_iff] at behind
    rw [steps_cons_run rfl]
    refine behind.trans ⟨?_, ?_⟩
    · rintro ⟨⟨opened, stays⟩, later⟩
      refine ⟨opened, fun before next front => ?_⟩
      cases before with
      | nil =>
        obtain ⟨rfl, -⟩ := List.cons_prefix_cons.mp front
        exact stays
      | cons early before =>
        obtain ⟨rfl, among⟩ := List.cons_prefix_cons.mp front
        rw [steps_cons_run rfl]
        exact later before next among
    · rintro ⟨opened, stays⟩
      refine ⟨⟨opened, stays [] first ⟨steps, rfl⟩⟩, fun before next among => ?_⟩
      have still := stays (first :: before) next (List.cons_prefix_cons.mpr ⟨rfl, among⟩)
      rw [steps_cons_run rfl] at still
      exact still

/-- Behind a run a node is where the requests of its steps take it. -/
theorem steps_issue (c : Connection) (s : σ) (steps : List ClientStep) :
    ((c.steps send steps).run s).2 =
      stateBehind send s (c.issued steps ((c.steps send steps).run s).1) := by
  induction steps generalizing c s with
  | nil => rfl
  | cons next steps ih =>
    have behind := ih ((c.step send next).run s).1.2 ((c.step send next).run s).2
    rw [steps_cons_run rfl, issued_cons, stateBehind_append, ← step_sends]
    exact behind

end Run

/-- A node that performs a script has received the requests that it took. -/
theorem requests_stateBehind (s : Script) (requests : List Bytes) :
    (stateBehind Script.serve s requests).requests = s.requests ++ requests := by
  induction requests generalizing s with
  | nil => exact (List.append_nil _).symm
  | cons request requests ih =>
    have received : (s.perform request).2.requests = s.requests ++ [request] := by
      unfold Script.perform
      split <;> rfl
    change (stateBehind Script.serve (s.perform request).2 requests).requests = _
    rw [ih, received, List.append_assoc]
    rfl

/-- What a node receives in a run is the request frames of the calls that are made while the
connection is open and that fit a frame, each once and in order. -/
theorem requests_eq_issued (start : Connection) (steps : List ClientStep) :
    (∀ script : Script,
      let ran := (start.steps Script.serve steps).run script
      let requests := start.issued steps ran.1
      ran.1.length = steps.length ∧ ran.2.requests = script.requests ++ requests ∧
        Frame.Cut requests.flatten requests []) ∧
    ∀ (σ : Type) (send : Bytes → StateM σ Delivery) (s : σ),
      let ran := (start.steps send steps).run s
      let requests := start.issued steps ran.1
      ran.1.length = steps.length ∧ ran.2 = stateBehind send s requests ∧
        Frame.Cut requests.flatten requests [] := by
  constructor
  · intro script
    refine ⟨length_steps_run _ start script steps, ?_, cut_issued start steps _⟩
    rw [← requests_stateBehind, ← steps_issue]
  · intro σ send s
    exact ⟨length_steps_run send start s steps, steps_issue send start s steps,
      cut_issued start steps _⟩

/-- A missing key, a refused request, a hangup, a call on the closed connection and a close: the
node has received two requests. -/
theorem requests_eq_issued_hangup :
    let past : Bytes := List.replicate Frame.maxPayload 0
    let read (key : Bytes) : Call := .read ⟨key⟩
    let start : Connection := { node := "node", name := "client" }
    let entries : List Script.Entry := [{ reply := Reply.notFound.encode }, { hangup := true }]
    ((start.steps Script.serve
      [.call (read [1]), .call (read past), .call (read [2]), .call (read [3]), .close]).run
        { entries }).2.requests =
      [(Command.read [1]).encode, (Command.read [2]).encode] := by
  intro past read start entries
  have past_length : past.length = Frame.maxPayload := List.length_replicate
  clear_value past
  have large : Frame.maxPayload < (read past).command.payloadSize := by
    have size : (read past).command.payloadSize = 4 + past.length :=
      Command.payloadSize_read past
    rw [size, past_length]
    decide
  have fits_one : (read [1]).command.payloadSize ≤ Frame.maxPayload := by decide
  have fits_two : (read [2]).command.payloadSize ≤ Frame.maxPayload := by decide
  let one : Bytes := (Command.read [1]).encode
  let two : Bytes := (Command.read [2]).encode
  let answer : Delivery := { arrived := Reply.notFound.encode, ending := .fault .silence }
  let answered : Script := { entries := [{ hangup := true }], requests := [one] }
  let ended : Script := { entries := [], ended := true, requests := [one, two] }
  have replied : Exchanged start answer (.ok (Reply.notFound.encode, [])) :=
    .reply rfl (Reply.whole_encode (by decide)) (List.append_nil _).symm
  have failed : Exchanged start { ending := .finished } (.error (Session.stop .finished [])) :=
    .stuck rfl (.inl (by decide))
  have sent_one : (Script.serve one).run { entries } = (answer, answered) := rfl
  have sent_two : (Script.serve two).run answered = ({ ending := .finished }, ended) := rfl
  have first : (start.step Script.serve (.call (read [1]))).run { entries } = _ :=
    call_of_reply rfl fits_one sent_one replied
  have second : (start.step Script.serve (.call (read past))).run answered =
      ((.error (Call.tooLarge (read past).command), start), answered) := by
    rw [step, call_of_large rfl large]
    rfl
  have third : (start.step Script.serve (.call (read [2]))).run answered = _ :=
    call_of_fault rfl fits_two sent_two failed
  have rest := steps_of_closed Script.serve (isOpen_close start) ended
    [.call (read [3]), .close]
  obtain ⟨-, received, -⟩ := (requests_eq_issued start _).1 { entries }
  rw [received, steps_cons_run first, steps_cons_run second, steps_cons_run third, rest]
  simp only [List.map_cons, List.map_nil, issued_cons]
  rw [sends_call rfl fits_one, sends_of_large large, sends_call rfl fits_two,
    sends_of_closed (isOpen_close start), sends_of_closed (isOpen_close start)]
  rfl

end AtomicKv.Connection
