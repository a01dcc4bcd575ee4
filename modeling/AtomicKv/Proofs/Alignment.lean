import AtomicKv.Proofs.ClientRun

/-!
# Calls stay aligned with the stream of replies

A client takes what a node sends frame by frame, one frame for each request, however the node
sends it: for one request it may send part of a frame, several frames or what is none. While
the connection is open, the bytes taken off the stream are exactly as many whole frames as
there were requests (`Follows`). Every step keeps that (`step_follows`), and so does a run of
steps (`steps_follow`). A call therefore answers what its own frame means, or else the fault
that it met, and in that case the connection is closed (`steps_aligned`).
-/
namespace AtomicKv

namespace Script

/-- The bytes that a node sends for some entries: none behind the end of its sending side. -/
def sent : List Entry → Bytes
  | [] => []
  | entry :: entries => entry.reply ++ if entry.hangup then [] else sent entries

/-- Whether a node ends its sending side within some entries. -/
def hasEnded (entries : List Entry) : Bool :=
  entries.any Entry.hangup

theorem sent_append (entries more : List Entry) :
    sent (entries ++ more) = sent entries ++ if hasEnded entries then [] else sent more := by
  induction entries with
  | nil => rfl
  | cons entry entries ih =>
    rw [List.cons_append, sent, sent, hasEnded, List.any_cons, List.append_assoc]
    cases entry.hangup with
    | true => rfl
    | false =>
      rw [Bool.false_or, if_neg Bool.false_ne_true, if_neg Bool.false_ne_true, ih]
      rfl

theorem hasEnded_append (entries more : List Entry) :
    hasEnded (entries ++ more) = (hasEnded entries || hasEnded more) :=
  List.any_append

/-- A node that is in its script where the number of requests says. -/
structure Performed (entries : List Entry) (s : Script) : Prop where
  entries_eq : s.entries = entries.drop s.requests.length
  ended_eq : s.ended = hasEnded (entries.take s.requests.length)

theorem performed_start (entries : List Entry) : Performed entries { entries } where
  entries_eq := rfl
  ended_eq := rfl

/-- A request makes a node send what the next entry says, if there is one. -/
theorem perform_eq (request : Bytes) (s : Script) :
    let next := s.entries.head?.toList
    s.perform request =
      ({ arrived := if s.ended then [] else sent next,
         ending := ending (s.ended || hasEnded next) },
        { entries := s.entries.tail, ended := s.ended || hasEnded next,
          requests := s.requests ++ [request] }) := by
  obtain ⟨entries, ended, requests⟩ := s
  cases entries with
  | nil => simp [perform, sent, hasEnded]
  | cons entry entries => simp [perform, sent, hasEnded]

/-- What has been sent grows by what a request makes a node send. -/
theorem Performed.perform {entries : List Entry} {s : Script} (performed : Performed entries s)
    (request : Bytes) :
    ∃ d t, s.perform request = (d, t) ∧ t.requests = s.requests ++ [request] ∧
      Performed entries t ∧ d.unsent = none ∧
      d.ending = ending (hasEnded (entries.take (s.requests.length + 1))) ∧
      sent (entries.take (s.requests.length + 1)) =
        sent (entries.take s.requests.length) ++ d.arrived := by
  have one_more : entries.take (s.requests.length + 1) =
      entries.take s.requests.length ++ s.entries.head?.toList := by
    rw [List.take_add_one, performed.entries_eq, List.head?_drop]
  have ended : (s.ended || hasEnded s.entries.head?.toList) =
      hasEnded (entries.take (s.requests.length + 1)) := by
    rw [one_more, hasEnded_append, performed.ended_eq]
  have longer : (s.requests ++ [request]).length = s.requests.length + 1 := by
    rw [List.length_append, List.length_singleton]
  refine ⟨_, _, perform_eq request s, rfl, ⟨?_, ?_⟩, rfl, ?_, ?_⟩
  · rw [longer, performed.entries_eq, List.tail_drop]
  · rw [longer, ended]
  · rw [ended]
  · rw [one_more, sent_append, performed.ended_eq]

end Script

/-- What a call answers that is the next to take a frame: what the frame means or, without one,
the fault that is met behind the last frame. -/
def Call.answered (call : Call) (node : String) (ended : Bool) (rest : Bytes) :
    Option Bytes → Answer
  | some frame => call.classify (Outcome.ofFrame frame)
  | none =>
    if Frame.Oversized rest then
      .error (.unknown ("unreadable frame from " ++ node ++ ": "
        ++ Frame.tooLargeMessage (Frame.announced rest)))
    else if ended then .error (.connection (node ++ " closed the connection"))
    else .error (.timeout ("no response from " ++ node ++ " within the configured bound"))

theorem Call.answered_none (call : Call) (node : String) (ended : Bool) (rest : Bytes) :
    call.answered node ended rest none =
      .error (.ofFault node (Session.stop (Script.ending ended) rest)) := by
  unfold answered Session.stop
  by_cases many : Frame.Oversized rest
  · rw [if_pos many, if_pos many]
    rfl
  · rw [if_neg many, if_neg many]
    cases ended <;> rfl

/-- A failure of the channel is answered exactly when there is no frame and no header past the
limit. -/
theorem Call.answered_connectivity_iff {call : Call} {node : String} {ended : Bool} {rest : Bytes}
    {next : Option Bytes} :
    (∃ e, call.answered node ended rest next = .error e ∧ e.isConnectivity = true) ↔
      next = none ∧ ¬ Frame.Oversized rest := by
  cases next with
  | some frame =>
    simp only [reduceCtorEq, false_and, iff_false]
    intro h
    obtain ⟨e, failed, connectivity⟩ := h
    rw [Call.isConnectivity_of_classify failed] at connectivity
    cases connectivity
  | none =>
    unfold answered
    by_cases many : Frame.Oversized rest
    · simp [many, ClientError.isConnectivity, ClientError.kind]
    · cases ended <;> simp [many, ClientError.isConnectivity, ClientError.kind]

namespace Connection

/-- A call that sends request number `j` (from zero) takes frame number `j` of those that the node
has sent by then, if there is one. -/
structure Aligned (node : String) (entries : List Script.Entry) (j : Nat) (call : Call)
    (c c' : Connection) (answer : Answer) (taken more : List Bytes) (rest : Bytes) : Prop where
  count : taken.length = j
  before : Script.sent (entries.take j) = taken.flatten ++ c.inbox
  cut : Frame.Cut (Script.sent (entries.take (j + 1))) (taken ++ more) rest
  answer_eq :
    answer = call.answered node (Script.hasEnded (entries.take (j + 1))) rest more.head?
  isOpen_eq : c'.isOpen = more.head?.isSome
  behind : c'.isOpen = true → c'.inbox = more.tail.flatten ++ rest

/-- However what the node sent is cut, the call takes the frame of its own number. -/
theorem Aligned.frames_eq {node : String} {entries : List Script.Entry} {j : Nat} {call : Call}
    {c c' : Connection} {answer : Answer} {taken more frames : List Bytes} {rest rest' : Bytes}
    (aligned : Aligned node entries j call c c' answer taken more rest)
    (cut : Frame.Cut (Script.sent (entries.take (j + 1))) frames rest') :
    more = frames.drop j ∧ rest = rest' := by
  obtain ⟨joined, same⟩ := aligned.cut.unique cut
  refine ⟨?_, same⟩
  rw [← joined, ← aligned.count, List.drop_left]

/-- A client whose connection, if it is open, has taken one whole frame for each request. -/
structure Follows (node : String) (entries : List Script.Entry) (c : Connection) (s : Script) :
    Prop where
  node_eq : c.node = node
  performed : Script.Performed entries s
  taken : c.isOpen = true → ∃ taken : List Bytes, taken.length = s.requests.length ∧
    (∀ frame ∈ taken, Frame.Whole frame) ∧
    Script.sent (entries.take s.requests.length) = taken.flatten ++ c.inbox

theorem follows_start (node name : String) (entries : List Script.Entry) :
    Follows node entries { node, name } { entries } where
  node_eq := rfl
  performed := Script.performed_start entries
  taken _ := ⟨[], rfl, fun _ none => absurd none List.not_mem_nil, by simp [Script.sent]⟩

variable {node : String} {entries : List Script.Entry}

theorem Follows.close {c : Connection} {s t : Script} (follows : Follows node entries c s)
    (performed : Script.Performed entries t) : Follows node entries c.close t where
  node_eq := follows.node_eq
  performed := performed
  taken opened := by
    rw [isOpen_close] at opened
    cases opened

/-- A call that is sent takes the frame of its own, or closes the connection. -/
theorem call_follows {c : Connection} {s : Script} {call : Call}
    (follows : Follows node entries c s) (opened : c.isOpen = true)
    (fits : call.command.payloadSize ≤ Frame.maxPayload) :
    ∃ answer c' t taken more rest, (c.call Script.serve call).run s = ((answer, c'), t) ∧
      t.requests = s.requests ++ [call.command.encode] ∧
      Aligned node entries s.requests.length call c c' answer taken more rest ∧
      Follows node entries c' t := by
  obtain ⟨taken, count, whole, before⟩ := follows.taken opened
  obtain ⟨d, t, performs, requests, performed, unsent, ending, arrived⟩ :=
    follows.performed.perform call.command.encode
  rw [before, List.append_assoc] at arrived
  have sent : (Script.serve call.command.encode).run s = (d, t) := performs
  -- the frames that are still to be taken stand in the inbox and in what arrives now
  obtain ⟨more, rest, cut⟩ := Frame.exists_cut (c.inbox ++ d.arrived)
  have cut_all := cut.behind whole
  rw [← arrived] at cut_all
  cases more with
  | nil =>
    have all : c.inbox ++ d.arrived = rest := cut.joined
    have failed := call_of_fault opened fits sent (.stuck unsent (all ▸ cut.stuck))
    refine ⟨.error (.ofFault c.node (Session.stop d.ending rest)), c.close, t, taken, [], rest,
      ?_, requests, ⟨count, before, cut_all, ?_, isOpen_close c, ?_⟩, follows.close performed⟩
    · rw [failed, all]
    · rw [List.head?_nil, Call.answered_none, ending, follows.node_eq]
    · intro opened'
      rw [isOpen_close] at opened'
      cases opened'
  | cons frame more =>
    obtain ⟨whole_frame, behind, front, cut_behind⟩ := cut.tail
    have replied := call_of_reply opened fits sent (.reply unsent whole_frame front)
    refine ⟨call.classify (Outcome.ofFrame frame), { c with inbox := behind }, t, taken,
      frame :: more, rest, replied, requests, ⟨count, before, cut_all, rfl, opened, ?_⟩,
      ⟨follows.node_eq, performed, fun _ => ⟨taken ++ [frame], ?_, ?_, ?_⟩⟩⟩
    · intro _
      exact cut_behind.joined
    · rw [requests, List.length_append, List.length_append, count]
      rfl
    · exact List.forall_mem_append.mpr ⟨whole, List.forall_mem_singleton.mpr whole_frame⟩
    · rw [requests, List.length_append, List.length_singleton, arrived, front,
        List.flatten_append, List.flatten_singleton, List.append_assoc]

/-- Every step of a client keeps it aligned. -/
theorem step_follows {c : Connection} {s : Script} (follows : Follows node entries c s)
    (next : ClientStep) :
    ∃ answer c' t, (c.step Script.serve next).run s = ((answer, c'), t) ∧
      Follows node entries c' t := by
  cases next with
  | close => exact ⟨.ok none, c.close, s, rfl, follows.close follows.performed⟩
  | call call =>
    by_cases opened : c.isOpen = true
    · by_cases large : Frame.maxPayload < call.command.payloadSize
      · refine ⟨.error (Call.tooLarge call.command), c, s, ?_, follows⟩
        rw [step, call_of_large opened large]
        rfl
      · obtain ⟨answer, c', t, -, -, -, called, -, -, follows'⟩ :=
          call_follows follows opened (Nat.le_of_not_lt large)
        exact ⟨answer, c', t, called, follows'⟩
    · refine ⟨.error .closed, c, s, ?_, follows⟩
      rw [step, call_of_closed (Bool.eq_false_iff.mpr opened)]
      rfl

theorem steps_follow {c : Connection} {s : Script} (follows : Follows node entries c s)
    (steps : List ClientStep) :
    ∃ answers t, (c.steps Script.serve steps).run s = (answers, t) ∧
      answers.length = steps.length ∧ Follows node entries (c.behindLast answers) t ∧
      ∀ later : List ClientStep,
        let ran := ((c.behindLast answers).steps Script.serve later).run t
        (c.steps Script.serve (steps ++ later)).run s = (answers ++ ran.1, ran.2) := by
  induction steps generalizing c s with
  | nil => exact ⟨[], s, rfl, rfl, follows, fun _ => rfl⟩
  | cons next steps ih =>
    obtain ⟨answer, c', s', taken, follows'⟩ := step_follows follows next
    obtain ⟨answers, t, ran, length, follows'', -⟩ := ih follows'
    have ran_all : (c.steps Script.serve (next :: steps)).run s = ((answer, c') :: answers, t) := by
      rw [steps_cons_run taken, ran]
    refine ⟨(answer, c') :: answers, t, ran_all, ?_, follows'', steps_append_run ran_all⟩
    rw [List.length_cons, List.length_cons, length]

/-- Answers stay aligned with what the node sends: a call takes the frame whose number is that of
its request, and closes the connection if there is none. -/
theorem steps_aligned (node name : String) (entries : List Script.Entry)
    (before after : List ClientStep) (call : Call) :
    let start : Connection := { node, name }
    let run (steps : List ClientStep) := (start.steps Script.serve steps).run { entries }
    let c := start.behindLast (run before).1
    let requests := (run before).2.requests
    c.isOpen = true → call.command.payloadSize ≤ Frame.maxPayload →
      ∃ answer c' taken more rest,
        (run (before ++ .call call :: after)).1[before.length]? = some (answer, c') ∧
        (run (before ++ [.call call])).2.requests = requests ++ [call.command.encode] ∧
        Aligned node entries requests.length call c c' answer taken more rest ∧
        ((∃ e, answer = .error e ∧ e.isConnectivity = true) ↔
          more = [] ∧ ¬ Frame.Oversized rest) ∧
        ∀ frames rest',
          Frame.Cut (Script.sent (entries.take (requests.length + 1))) frames rest' →
            answer = call.answered node (Script.hasEnded (entries.take (requests.length + 1)))
              rest' frames[requests.length]? := by
  intro start run c requests opened fits
  obtain ⟨answers, s, ran, length, follows, rejoin⟩ :=
    steps_follow (follows_start node name entries) before
  have ran_before : run before = (answers, s) := ran
  have c_eq : c = start.behindLast answers := congrArg (fun r => start.behindLast r.1) ran_before
  have requests_eq : requests = s.requests := congrArg (fun r => r.2.requests) ran_before
  rw [c_eq] at opened ⊢
  rw [requests_eq]
  obtain ⟨answer, c', t, taken, more, rest, called, one_more, aligned, -⟩ :=
    call_follows follows opened fits
  have stepped : ((start.behindLast answers).step Script.serve (.call call)).run s =
      ((answer, c'), t) := called
  refine ⟨answer, c', taken, more, rest, ?_, ?_, aligned, ?_, ?_⟩
  · change ((start.steps Script.serve (before ++ .call call :: after)).run { entries }).1[_]? = _
    rw [rejoin, steps_cons_run stepped, ← length, List.getElem?_append_right (Nat.le_refl _),
      Nat.sub_self]
    rfl
  · change ((start.steps Script.serve (before ++ [.call call])).run { entries }).2.requests = _
    rw [rejoin, steps_cons_run stepped, ← one_more]
    rfl
  · rw [aligned.answer_eq, Call.answered_connectivity_iff, List.head?_eq_none_iff]
  · intro frames rest' cut
    obtain ⟨rfl, rfl⟩ := aligned.frames_eq cut
    rw [aligned.answer_eq, List.head?_drop]

/-- A node sends its first reply with a part of another frame behind it, and then one byte more
before it ends its sending side. -/
theorem steps_aligned_hangup :
    let done := (Reply.ok none).encode
    let entries : List Script.Entry :=
      [{ reply := done ++ [0, 0, 0] }, { reply := [0], hangup := true }]
    let start : Connection := { node := "node", name := "client" }
    let run (steps : List ClientStep) := (start.steps Script.serve steps).run { entries }
    let write : Call := .write ⟨[1]⟩ (.bool true)
    let read : Call := .read ⟨[1]⟩
    (start.behindLast (run [.call write]).1).isOpen = true ∧
      read.command.payloadSize ≤ Frame.maxPayload ∧
      ∃ c c', (run [.call write, .call read]).1[0]? = some (.ok none, c) ∧ c.inbox = [0, 0, 0] ∧
        (run [.call write, .call read]).1[1]? =
          some (.error (.connection "node closed the connection"), c') ∧ c'.isOpen = false := by
  intro done entries start run write read
  have write_fits : write.command.payloadSize ≤ Frame.maxPayload := by
    simp [write, Call.command, Command.payloadSize, Command.fields, Value.wire_eq, Value.wireHead,
      Value.items, Frame.maxPayload]
  have read_fits : read.command.payloadSize ≤ Frame.maxPayload := by decide
  have done_fits : (Reply.ok none).body.length ≤ Frame.maxPayload := Nat.zero_le _
  have wholes : ∀ frame ∈ [done], Frame.Whole frame :=
    List.forall_mem_singleton.mpr (Reply.whole_encode done_fits)
  obtain ⟨answer, c, t, stepped, -⟩ :=
    step_follows (follows_start "node" "client" entries) (.call write)
  have ran : ∀ later, (run (.call write :: later)).1 = (answer, c) :: _ :=
    fun later => congrArg Prod.fst (steps_cons_run stepped later)
  have behind : start.behindLast (run [.call write]).1 = c := by
    rw [ran []]
    rfl
  obtain ⟨answer', c', _, _, _, first, requests, aligned, -⟩ :=
    steps_aligned "node" "client" entries [] [.call read] write rfl write_fits
  have same : (answer, c) = (answer', c') := by
    have at_zero := (congrArg (·[0]?) (ran [.call read])).symm.trans first
    exact Option.some.inj at_zero
  obtain ⟨rfl, rfl⟩ := Prod.mk.inj same
  have cut : Frame.Cut (Script.sent (entries.take 1)) [done] [0, 0, 0] :=
    ⟨rfl, wholes, Or.inl (by decide)⟩
  obtain ⟨rfl, rfl⟩ := aligned.frames_eq cut
  have opened : c.isOpen = true := aligned.isOpen_eq
  have inbox : c.inbox = [0, 0, 0] := aligned.behind opened
  have answered : answer = write.classify (Outcome.ofFrame done) := aligned.answer_eq
  rw [Outcome.ofFrame_of_standsFor .done done_fits] at answered
  rw [← behind] at opened
  obtain ⟨answer₂, c₂, _, _, _, second, -, aligned₂, -⟩ :=
    steps_aligned "node" "client" entries [.call write] [] read opened read_fits
  have count : (run [.call write]).2.requests.length = 1 := congrArg List.length requests
  have cut₂ : Frame.Cut (Script.sent (entries.take 2)) [done] [0, 0, 0, 0] :=
    ⟨rfl, wholes, Or.inl (by decide)⟩
  rw [count] at aligned₂
  obtain ⟨rfl, rfl⟩ := aligned₂.frames_eq cut₂
  have refused : answer₂ = .error (.connection "node closed the connection") :=
    aligned₂.answer_eq
  have closed : c₂.isOpen = false := aligned₂.isOpen_eq
  rw [refused] at second
  rw [answered] at first
  exact ⟨opened, read_fits, c, c₂, first, inbox, second, closed⟩

end Connection
end AtomicKv
