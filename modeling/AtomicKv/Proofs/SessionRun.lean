import AtomicKv.Proofs.CommandExact
import AtomicKv.Proofs.FrameReading
import AtomicKv.Proofs.FrameWriting
import AtomicKv.Session

/-!
# What a session does

A session carries out the commands among the frames that it is sent, in order, and replies once
to each frame (`Run`, `serve_of_cut`). A frame that holds no command is told so and is nothing
else: neither the store nor a reply to a later frame depends on it. The bytes behind the last
whole frame say no more than how the session ends.
-/
namespace AtomicKv

def Store.after (store : Store) (commands : List Command) : Store :=
  commands.foldl (fun store command => (store.execute command).2) store

/-- Commands on other keys leave the value under a key as it was. -/
theorem Store.get?_after_of_ne (store : Store) {commands : List Command} {k : Bytes}
    (others : ∀ c ∈ commands, c.key ≠ k) : (store.after commands).get? k = store.get? k := by
  induction commands generalizing store with
  | nil => rfl
  | cons c commands ih =>
    obtain ⟨first, rest⟩ := List.forall_mem_cons.mp others
    exact (ih _ rest).trans (store.get?_execute_of_ne first)

namespace Session

/-- The commands that some frames hold; those that hold none are passed over. -/
def commands (frames : List Bytes) : List Command :=
  frames.filterMap fun frame => (Command.decode frame).toOption

/-- The reply to one frame: of the command it holds, or else the reason why it holds none. -/
def replyTo (store : Store) (frame : Bytes) : Reply :=
  match Command.decode frame with
  | .ok command => (store.execute command).1
  | .error flaw => .unknown (ClientError.unknown flaw.message).message

/-- One reply to each frame, after the commands in the frames before it. -/
def replies (store : Store) (frames : List Bytes) : List Reply :=
  frames.mapIdx fun j frame => replyTo (store.after (commands (frames.take j))) frame

/-- The replies to a fault: none when the client went away, else that it was met. -/
def farewell (f : Fault) : List Reply :=
  if f.isDisconnect then [] else [Reply.unknown f.message]

/-- The fault behind the last whole frame. -/
def stop (ending : Ending) (rest : Bytes) : Fault :=
  if Frame.Oversized rest then ⟨.invalidData, Frame.tooLargeMessage (Frame.announced rest)⟩
  else ending.cause

/-- What is left behind by a session that is sent some whole frames and then meets a fault. -/
structure Run (store : Store) (sink : Sink) (frames : List Bytes) (f : Fault) (ended : Ended) :
    Prop where
  store_eq : ended.store = store.after (commands frames)
  gains : sink.Gains ((replies store frames ++ farewell f).map Reply.encode) ended.sink
  result_eq : ended.result = resultOf f

theorem commands_append (frames frames' : List Bytes) :
    commands (frames ++ frames') = commands frames ++ commands frames' :=
  List.filterMap_append

theorem after_append (store : Store) (cs ds : List Command) :
    store.after (cs ++ ds) = (store.after cs).after ds :=
  List.foldl_append

theorem after_commands_cons (store : Store) (frame : Bytes) (frames : List Bytes) :
    store.after (commands (frame :: frames)) =
      (store.after (commands [frame])).after (commands frames) := by
  rw [← after_append, ← commands_append, List.singleton_append]

/-- The replies to all frames but the first are those of a session that begins behind it. -/
theorem replies_cons (store : Store) (frame : Bytes) (frames : List Bytes) :
    replies store (frame :: frames) =
      replyTo store frame :: replies (store.after (commands [frame])) frames := by
  have later : ∀ j, store.after (commands ((frame :: frames).take (j + 1))) =
      (store.after (commands [frame])).after (commands (frames.take j)) :=
    fun j => after_commands_cons store frame (frames.take j)
  unfold replies
  rw [List.mapIdx_cons]
  simp only [later]
  rfl

theorem replies_append (store : Store) (frames frames' : List Bytes) :
    replies store (frames ++ frames') =
      replies store frames ++ replies (store.after (commands frames)) frames' := by
  induction frames generalizing store with
  | nil => rfl
  | cons frame frames ih =>
    rw [List.cons_append, replies_cons, replies_cons, ih, ← after_commands_cons, List.cons_append]

theorem commands_encode {c : Command} (fits : c.payloadSize ≤ Frame.maxPayload) :
    commands [c.encode] = [c] := by
  simp [commands, Command.decode_encode fits, Except.toOption]

theorem replies_encode {c : Command} (fits : c.payloadSize ≤ Frame.maxPayload) (store : Store) :
    replies store [c.encode] = [(store.execute c).1] := by
  rw [replies_cons]
  simp [replyTo, Command.decode_encode fits, replies]

theorem answer_eq (store : Store) (frame : Bytes) :
    answer store frame = (replyTo store frame, store.after (commands [frame])) := by
  unfold answer replyTo
  cases held : Command.decode frame with
  | error flaw => simp [commands, held, Except.toOption, Store.after]
  | ok command => simp [commands, held, Except.toOption, Store.after]

/-- A session goes on behind a frame it has replied to as one that begins there. -/
theorem serve_of_frame {store : Store} {source source' : Source} {sink sink' : Sink} {frame : Bytes}
    (read : source.readFrame = (.ok frame, source'))
    (written : sink.writeFrame (replyTo store frame).encode = (.ok (), sink')) :
    serve store source sink = serve (store.after (commands [frame])) source' sink' := by
  rw [serve]
  split
  · rename_i f t failed
    rw [read] at failed
    cases failed
  · rename_i frame' t read'
    rw [read] at read'
    cases read'
    simp only [answer_eq, written]

/-- A session that cannot read a frame ends. -/
theorem serve_of_fault {store : Store} {source t : Source} {sink : Sink} {f : Fault}
    (read : source.readFrame = (.error f, t)) (takes : sink.Takes ((farewell f).map Reply.encode)) :
    Run store sink [] f (serve store source sink) := by
  unfold farewell at takes
  rw [serve]
  split
  · rename_i f' t' failed
    rw [read] at failed
    cases failed
    by_cases gone : f.isDisconnect
    · rw [if_pos gone]
      refine ⟨rfl, ?_, ?_⟩
      · rw [farewell, if_pos gone]
        exact sink.gains_nil
      · rw [resultOf, if_pos gone]
    · rw [if_neg gone] at takes ⊢
      obtain ⟨sink', written, gains, -⟩ := Sink.takes_cons.mp takes
      refine ⟨rfl, ?_, ?_⟩
      · rw [farewell, if_neg gone, written]
        exact gains
      · rw [resultOf, if_neg gone]
  · rename_i frame t' read'
    rw [read] at read'
    cases read'

/-- What stands behind the last whole frame is met as one fault. -/
theorem readFrame_of_stuck {source : Source} (steady : source.pacing.Steady)
    (stuck : Frame.Incomplete source.rest ∨ Frame.Oversized source.rest) :
    ∃ t, source.readFrame = (.error (stop source.ending source.rest), t) := by
  unfold stop
  cases stuck with
  | inl few =>
    obtain ⟨t, read, -⟩ := Source.readFrame_of_incomplete steady few
    rw [if_neg (Frame.not_oversized_of_incomplete few)]
    exact ⟨t, read⟩
  | inr many =>
    obtain ⟨t, read, -⟩ := Source.readFrame_of_oversized steady many
    rw [if_pos many]
    exact ⟨t, read⟩

/-- A session serves the whole frames that its stream is cut into, and ends as the rest of the
stream says. -/
theorem serve_of_cut (store : Store) {source : Source} (sink : Sink) {frames : List Bytes}
    {rest : Bytes} (steady : source.pacing.Steady) (cut : Frame.Cut source.rest frames rest)
    (takes : sink.Takes
      ((replies store frames ++ farewell (stop source.ending rest)).map Reply.encode)) :
    Run store sink frames (stop source.ending rest) (serve store source sink) := by
  -- a frame that is served leaves another store, source and sink to serve the next ones with
  induction frames generalizing store source sink with
  | nil =>
    have all : source.rest = rest := cut.joined
    obtain ⟨t, read⟩ := readFrame_of_stuck steady (all ▸ cut.stuck)
    rw [all] at read
    exact serve_of_fault read takes
  | cons frame frames ih =>
    obtain ⟨whole, behind, front, cut'⟩ := cut.tail
    obtain ⟨source', read, left⟩ := Source.readFrame_of_whole steady whole front
    rw [replies_cons, List.cons_append, List.map_cons] at takes
    obtain ⟨sink', written, gains, takes'⟩ := Sink.takes_cons.mp takes
    rw [← left.rest_eq] at cut'
    rw [← left.ending_eq] at takes' ⊢
    have run := ih _ sink' (left.steady steady) cut' takes'
    rw [serve_of_frame read written]
    refine ⟨?_, ?_, run.result_eq⟩
    · rw [run.store_eq, ← after_commands_cons]
    · rw [replies_cons, List.cons_append, List.map_cons]
      exact gains.trans run.gains

/-- A session on a stream that its client closed refines the execution of the stream's frames one by
one, however the stream arrives. -/
theorem serve_refines (store : Store) {source : Source} (sink : Sink)
    (steady : source.pacing.Steady) (closed : source.ending = .finished) :
    ∃ frames rest, Frame.Cut source.rest frames rest ∧
      (∀ frames' rest', Frame.Cut source.rest frames' rest' → frames' = frames ∧ rest' = rest) ∧
      (Frame.Incomplete rest →
        let sent := (replies store frames).map Reply.encode
        sink.Takes sent →
          let ended := serve store source sink
          ended.store = store.after (commands frames) ∧ sink.Gains sent ended.sink ∧
            ended.result = .ok ()) ∧
      (Frame.Oversized rest →
        let text := Frame.tooLargeMessage (Frame.announced rest)
        let sent := (replies store frames ++ [Reply.unknown text]).map Reply.encode
        sink.Takes sent →
          let ended := serve store source sink
          ended.store = store.after (commands frames) ∧ sink.Gains sent ended.sink ∧
            ended.result = .error ⟨.invalidData, text⟩) := by
  obtain ⟨frames, rest, cut⟩ := Frame.exists_cut source.rest
  refine ⟨frames, rest, cut, fun _ _ cut' => cut'.unique cut, ?_, ?_⟩
  · intro few sent takes
    have quiet : stop source.ending rest = .endOfStream := by
      rw [stop, if_neg (Frame.not_oversized_of_incomplete few), closed]
      rfl
    have none_more : replies store frames ++ farewell .endOfStream = replies store frames :=
      List.append_nil _
    have run := serve_of_cut store sink steady cut
      (by rw [quiet, none_more]; exact takes)
    rw [quiet] at run
    have gains := run.gains
    rw [none_more] at gains
    exact ⟨run.store_eq, gains, run.result_eq⟩
  · intro many text sent takes
    have fault : stop source.ending rest = ⟨.invalidData, text⟩ := if_pos many
    have run := serve_of_cut store sink steady cut
      (by rw [fault]; exact takes)
    rw [fault] at run
    exact ⟨run.store_eq, run.gains, run.result_eq⟩

/-- A write that arrives byte by byte, and the first byte of another request. -/
theorem serve_refines_write :
    let request := (Command.write [1] [2]).encode
    let source : Source :=
      { rest := request ++ [2], ending := .finished, pacing := .uniform 1 1 }
    source.pacing.Steady ∧ source.ending = .finished ∧
      let ended := serve .empty source {}
      ended.store.get? [1] = some [2] ∧ ended.sink.bytes = (Reply.ok none).encode ∧
        ended.result = .ok () := by
  intro request source
  have steady : source.pacing.Steady := Pacing.steady_uniform.mpr Nat.one_pos
  have fits : (Command.write [1] [2]).payloadSize ≤ Frame.maxPayload := by decide
  obtain ⟨frames, rest, -, unique, quiet, -⟩ := serve_refines .empty {} steady rfl
  have cut : Frame.Cut source.rest [request] [2] :=
    ⟨rfl, List.forall_mem_singleton.mpr (Command.whole_encode fits), Or.inl (by decide)⟩
  obtain ⟨rfl, rfl⟩ := unique _ _ cut
  have endless : Sink.Endless {} := ⟨rfl, by decide, rfl⟩
  obtain ⟨store, gains, result⟩ := quiet (Or.inl (by decide)) (endless.takes _)
  refine ⟨steady, rfl, ?_, ?_, result⟩
  · rw [store, commands_encode fits]
    rfl
  · rw [gains.bytes_eq, replies_encode fits]
    simp [Sink.bytes, Store.execute]

end Session
end AtomicKv
