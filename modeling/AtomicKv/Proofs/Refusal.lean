import AtomicKv.Proofs.RequestLog

/-!
# Refused calls

A client refuses a call by the length that the payload of its frame would have, and the limit is
the one of those who read frames: a request that is sent is read whole off a stream and taken for
the command of the call (`request_exact`). A refused call changes neither the connection nor the
node, so a run goes on as if it had not been made (`steps_insert_run`).
-/
namespace AtomicKv

/-- The payload of the frame of a command is as long as was counted beforehand. -/
theorem Command.length_payload (c : Command) :
    (c.encode.drop Frame.headerSize).length = c.payloadSize := by
  rw [List.length_drop, length_encode, Nat.add_sub_cancel_left]

namespace Call

variable {call : Call}

theorem request_eq_ok_iff {frame : Bytes} :
    call.request = .ok frame ↔
      frame = call.command.encode ∧ call.command.payloadSize ≤ Frame.maxPayload := by
  unfold request
  by_cases large : Frame.maxPayload < call.command.payloadSize
  · simp [large, Nat.not_le.mpr large]
  · simp [large, Nat.le_of_not_lt large, eq_comm]

theorem request_eq_error_iff {e : ClientError} :
    call.request = .error e ↔
      e = tooLarge call.command ∧ Frame.maxPayload < call.command.payloadSize := by
  unfold request
  by_cases large : Frame.maxPayload < call.command.payloadSize
  · simp [large, eq_comm]
  · simp [large]

/-- What a call makes of a command: its frame, which is read whole and taken for that command, as
long as the payload is within the limit, and an unknown outcome past it. -/
structure Requests (call : Call) (command : Command) : Prop where
  ok_iff : ∀ frame, call.request = .ok frame ↔
    frame = command.encode ∧
      (command.encode.drop Frame.headerSize).length ≤ Frame.maxPayload
  taken : ∀ frame, call.request = .ok frame → Command.decode frame = .ok command
  read_whole : ∀ frame, call.request = .ok frame →
    ∀ (source : Source) (rest : Bytes), source.pacing.Steady → source.rest = frame ++ rest →
      ∃ source', source.readFrame = (.ok frame, source') ∧ source.Leaves rest source'
  refused : Frame.maxPayload < (command.encode.drop Frame.headerSize).length →
    ∃ text, call.request = .error (.unknown text)

theorem requests_command (call : Call) : call.Requests call.command where
  ok_iff frame := by
    rw [Command.length_payload]
    exact request_eq_ok_iff
  taken frame requested := by
    obtain ⟨rfl, fits⟩ := request_eq_ok_iff.mp requested
    exact Command.decode_encode fits
  read_whole frame requested source rest steady front := by
    obtain ⟨rfl, fits⟩ := request_eq_ok_iff.mp requested
    exact Source.readFrame_of_whole steady (Command.whole_encode fits) front
  refused large := by
    rw [Command.length_payload] at large
    exact ⟨_, request_eq_error_iff.mpr ⟨rfl, large⟩⟩

end Call

namespace Connection

variable {σ : Type} {send : Bytes → StateM σ Delivery} {c : Connection} {s t : σ}

/-- A step that changes neither the connection nor the node adds its own answer to a run, in its
place, and nothing else. -/
theorem steps_insert_run {before : List ClientStep} {answers : List (Answer × Connection)}
    {next : ClientStep} {answer : Answer} (ran : (c.steps send before).run s = (answers, t))
    (still : ((c.behindLast answers).step send next).run t =
      ((answer, c.behindLast answers), t)) (after : List ClientStep) :
    (c.steps send (before ++ next :: after)).run s =
      (((c.steps send (before ++ after)).run s).1.insertIdx before.length
        (answer, c.behindLast answers), ((c.steps send (before ++ after)).run s).2) := by
  have length : answers.length = before.length := by
    rw [← length_steps_run send c s before, ran]
  have inserted (later : List (Answer × Connection)) (entry : Answer × Connection) :
      (answers ++ later).insertIdx before.length entry = answers ++ entry :: later := by
    rw [← length]
    exact List.modifyTailIdx_add (List.cons entry) 0 answers later
  rw [steps_append_run ran, steps_append_run ran, steps_cons_run still, inserted]

/-- A refused call is told why, or that the connection is closed, and nothing happens. -/
theorem step_of_refused {call : Call} {e : ClientError} (refused : call.request = .error e)
    (send : Bytes → StateM σ Delivery) (c : Connection) (s : σ) :
    (c.step send (.call call)).run s =
      ((.error (if c.isOpen then e else .closed), c), s) := by
  obtain ⟨rfl, large⟩ := Call.request_eq_error_iff.mp refused
  cases opened : c.isOpen with
  | true =>
    rw [step, call_of_large opened large]
    rfl
  | false =>
    rw [step, call_of_closed opened]
    rfl

end Connection

/-- A client and those who read its frames agree on the limit and on what is asked for. A refused
call, put anywhere in any run, adds its own answer and changes nothing else. -/
theorem Call.request_exact :
    (∀ key : Key, (Call.read key).Requests (.read key.bytes)) ∧
    (∀ (key : Key) (value : Value),
      (Call.write key value).Requests (.write key.bytes value.wire)) ∧
    (∀ (key : Key) (expected value : Value),
      (Call.testAndSet key expected value).Requests
        (.testAndSet key.bytes expected.wire value.wire)) ∧
    ∀ (call : Call) (e : ClientError), call.request = .error e →
      (∃ text, e = .unknown text) ∧
      ∀ (σ : Type) (send : Bytes → StateM σ Delivery) (start : Connection) (s : σ)
        (before after : List ClientStep),
        let run (steps : List ClientStep) := (start.steps send steps).run s
        let c := start.behindLast (run before).1
        let answer : Answer := .error (if c.isOpen then e else .closed)
        run (before ++ .call call :: after) =
          ((run (before ++ after)).1.insertIdx before.length (answer, c),
            (run (before ++ after)).2) := by
  refine ⟨fun key => requests_command (.read key),
    fun key value => requests_command (.write key value),
    fun key expected value => requests_command (.testAndSet key expected value), ?_⟩
  intro call e refused
  refine ⟨⟨_, (request_eq_error_iff.mp refused).1⟩, ?_⟩
  intro σ send start s before after run c answer
  have still := Connection.step_of_refused refused send c (run before).2
  exact Connection.steps_insert_run rfl still after

/-- A write up to the last byte of the limit is taken with its value, a test-and-set of one byte more
is refused: as the first step of a run, and behind a close. -/
theorem Call.request_exact_last_byte :
    let most : Bytes := List.replicate (Frame.maxPayload - 13) 7
    let past : Bytes := List.replicate (Frame.maxPayload - 21) 7
    let full : Call := .write ⟨most⟩ (.bool true)
    let swap : Call := .testAndSet ⟨[1]⟩ (.bool false) (.bool true)
    let large : Call := .testAndSet ⟨past⟩ (.bool false) (.bool true)
    let start : Connection := { node := "node", name := "client" }
    let entries : List Script.Entry := [{ reply := Reply.notFound.encode }]
    let run (steps : List ClientStep) := (start.steps Script.serve steps).run { entries }
    (∃ frame, full.request = .ok frame ∧
      Command.decode frame = .ok (.write most [3, 0, 0, 0, 1])) ∧
    (∃ frame, swap.request = .ok frame ∧
      Command.decode frame = .ok (.testAndSet [1] [3, 0, 0, 0, 0] [3, 0, 0, 0, 1]) ∧
      let source : Source :=
        { rest := frame ++ [7], ending := .finished, pacing := .uniform 1 1 }
      ∃ source', source.readFrame = (.ok frame, source') ∧ source.Leaves [7] source') ∧
    ∃ text, large.request = .error (.unknown text) ∧ ∀ after : List ClientStep,
      run (.call large :: after) =
          ((.error (.unknown text), start) :: (run after).1, (run after).2) ∧
        run (.close :: .call large :: after) =
          ((run (.close :: after)).1.insertIdx 1 (.error .closed, start.close),
            (run (.close :: after)).2) := by
  intro most past full swap large start entries run
  have most_length : most.length = Frame.maxPayload - 13 := List.length_replicate
  have past_length : past.length = Frame.maxPayload - 21 := List.length_replicate
  -- from here on the lengths are all that is known of the two keys
  clear_value most past
  obtain ⟨-, writes, swaps, traceless⟩ := Call.request_exact
  have written := writes ⟨most⟩ (.bool true)
  have swapped := swaps ⟨[1]⟩ (.bool false) (.bool true)
  have refused := swaps ⟨past⟩ (.bool false) (.bool true)
  have full_fits : ((Command.write most (Value.bool true).wire).encode.drop
      Frame.headerSize).length ≤ Frame.maxPayload := by
    rw [Command.length_payload, Command.payloadSize_write, most_length]
    decide
  have swap_fits : ((Command.testAndSet [1] (Value.bool false).wire
      (Value.bool true).wire).encode.drop Frame.headerSize).length ≤ Frame.maxPayload := by
    rw [Command.length_payload, Command.payloadSize_testAndSet]
    decide
  have large_past : Frame.maxPayload < ((Command.testAndSet past (Value.bool false).wire
      (Value.bool true).wire).encode.drop Frame.headerSize).length := by
    rw [Command.length_payload, Command.payloadSize_testAndSet, past_length]
    decide
  have full_request := (written.ok_iff _).mpr ⟨rfl, full_fits⟩
  have swap_request := (swapped.ok_iff _).mpr ⟨rfl, swap_fits⟩
  have steady : (Pacing.uniform 1 1).Steady := Pacing.steady_uniform.mpr Nat.one_pos
  obtain ⟨text, unknown⟩ := refused.refused large_past
  obtain ⟨-, still⟩ := traceless large _ unknown
  refine ⟨⟨_, full_request, written.taken _ full_request⟩,
    ⟨_, swap_request, swapped.taken _ swap_request,
      swapped.read_whole _ swap_request _ [7] steady rfl⟩,
    text, unknown, fun after => ⟨?_, ?_⟩⟩
  · exact still Script Script.serve start { entries } [] after
  · exact still Script Script.serve start { entries } [.close] after

end AtomicKv
