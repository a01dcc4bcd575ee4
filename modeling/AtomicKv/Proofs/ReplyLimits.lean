import AtomicKv.Proofs.Reachable
import AtomicKv.Proofs.ShortTexts
import AtomicKv.Proofs.StreamWriting

/-!
# Every reply fits a frame

Replies are written without a look at their size. That they fit is due to what they are made of: a
key and a value come into the store by a command only that has a frame of its own (`Fitting`), and
the reasons for a refusal are short texts. So the replies of a session, whatever it reads, come back
one by one from what it wrote (`replies_fit`).
-/
namespace AtomicKv

/-- Every key fits a frame together with its value and the lengths of both. -/
def Store.Fitting (store : Store) : Prop :=
  ∀ key value, store.get? key = some value → key.length + value.length + 8 ≤ Frame.maxPayload

namespace Store

theorem Fitting.empty : Fitting .empty :=
  fun _ _ none_stored => nomatch none_stored

/-- A command that has a frame leaves nothing behind that would not have one. -/
theorem Fitting.keeps : Keeps Fitting := by
  intro store c fitting fits key value stored
  obtain before | brought := get?_execute_cases stored
  · exact fitting key value before
  · exact Nat.le_trans brought fits

end Store

/-- A source whose own fault, if it ends with one, has a text that fits a frame. The faults of the
system have (`brief_of_system`). -/
def Source.Brief (s : Source) : Prop :=
  ∀ f, s.ending = .fault f → f.message.utf8ByteSize ≤ Frame.maxPayload

theorem Source.brief_of_system {s : Source} {number : Nat} (small : number < 10 ^ 10)
    (ending : s.ending = .fault (.ofSystem number)) : s.Brief := by
  intro f same
  rw [ending] at same
  cases same
  exact Nat.le_trans (Fault.size_ofSystem_le small) (by decide)

/-- Replies that fit are read back one by one. -/
theorem Source.yield_of_replies {reader : Source} {replies : List Reply}
    (steady : reader.pacing.Steady) (finished : reader.ending = .finished)
    (fit : ∀ r ∈ replies, r.body.length ≤ Frame.maxPayload)
    (holds : reader.rest = (replies.map Reply.encode).flatten) :
    reader.yield = (replies.map Reply.encode, .endOfStream, []) := by
  have few : Frame.Incomplete [] := Or.inl (by decide)
  have cut : Frame.Cut reader.rest (replies.map Reply.encode) [] := by
    refine ⟨?_, ?_, Or.inl few⟩
    · rw [holds, List.append_nil]
    · exact List.forall_mem_map.mpr fun r sent => Reply.whole_encode (fit r sent)
  obtain ⟨f, left, read, stopped⟩ := yield_of_cut steady cut
  rw [finished] at stopped
  obtain ⟨rfl, rfl⟩ := stopped.unique (.exhausted few)
  exact read

namespace Session

/-- The replies of a session: one to each frame that it reads, and one to the fault that keeps it
from reading more, unless the client went away. -/
def owed (store : Store) (source : Source) : List Reply :=
  replies store source.yield.1 ++ farewell source.yield.2.1

/-- The store after some sessions, one after another, on a store that held nothing. -/
def storeBehind (sessions : List (Source × Sink)) : Store :=
  sessions.foldl (fun store session => (serve store session.1 session.2).store) .empty

theorem fitting_commands {store : Store} (fitting : store.Fitting) (frames : List Bytes) :
    (store.after (commands frames)).Fitting :=
  Store.Fitting.keeps.after fitting fun _ held => fits_of_mem_commands held

theorem fitting_storeBehind (sessions : List (Source × Sink)) : (storeBehind sessions).Fitting := by
  unfold storeBehind
  generalize start : Store.empty = store
  have fitting : store.Fitting := start ▸ Store.Fitting.empty
  clear start
  induction sessions generalizing store with
  | nil => exact fitting
  | cons session sessions ih =>
    rw [List.foldl_cons]
    exact ih _ (serve_keeps Store.Fitting.keeps fitting session.1 session.2)

theorem size_replyTo_le {store : Store} (fitting : store.Fitting) {frame : Bytes}
    (whole : Frame.Whole frame) : (replyTo store frame).body.length ≤ Frame.maxPayload := by
  unfold replyTo
  split
  · rename_i command held
    obtain nothing | current := store.body_execute command
    · rw [nothing]
      exact Nat.zero_le _
    · have both := fitting command.key _ current
      omega
  · rename_i flaw refused
    have length := whole.length_eq
    have within := whole.within
    have text := Command.Flaw.size_message_le (Command.decode_numbers (by omega) refused)
    have front : "Unknown error: ".utf8ByteSize ≤ 20 := by decide
    exact Nat.le_trans (size_append_le front text) (by decide)

theorem size_replies_le {store : Store} (fitting : store.Fitting) {frames : List Bytes}
    (wholes : ∀ frame ∈ frames, Frame.Whole frame) :
    ∀ r ∈ replies store frames, r.body.length ≤ Frame.maxPayload := by
  intro r sent
  obtain ⟨j, bound, rfl⟩ := List.mem_mapIdx.mp sent
  exact size_replyTo_le (fitting_commands fitting _) (wholes _ (List.getElem_mem bound))

theorem size_owed_le {store : Store} (fitting : store.Fitting) {source : Source}
    (brief : source.Brief) : ∀ r ∈ owed store source, r.body.length ≤ Frame.maxPayload := by
  obtain ⟨wholes, stopped⟩ := source.wholes_of_yield
  intro r sent
  cases List.mem_append.mp sent with
  | inl reply => exact size_replies_le fitting wholes r reply
  | inr last =>
    unfold farewell at last
    split at last
    · cases last
    · rename_i stays
      cases List.mem_singleton.mp last
      obtain ended | own | ⟨n, small, refused⟩ := stopped
      · rw [ended] at stays
        exact absurd rfl stays
      · exact brief _ own
      · rw [refused]
        exact Nat.le_trans (Frame.size_tooLargeMessage_le (by omega)) (by decide)

theorem owed_of_frame {source t : Source} {frame : Bytes} (read : source.readFrame = (.ok frame, t))
    (store : Store) :
    owed store source = replyTo store frame :: owed (store.after (commands [frame])) t := by
  unfold owed
  rw [Source.yield_of_frame read, replies_cons, List.cons_append]

theorem owed_of_fault {source t : Source} {f : Fault} (read : source.readFrame = (.error f, t))
    (store : Store) : owed store source = farewell f := by
  unfold owed
  rw [Source.yield_of_fault read]
  rfl

/-- How far a session gets: it has tried some of its replies, in order, and carried out the commands
that they reply to. It stops at the first reply that cannot be written, and not before. -/
structure Served (store : Store) (source : Source) (sink : Sink) (tried : Nat) (ended : Ended) :
    Prop where
  store_eq : ended.store = store.after (commands (source.yield.1.take tried))
  sink_eq : ended.sink = sink.after (((owed store source).take tried).map Reply.encode)
  /-- All but the last were written. -/
  before : sink.Takes (((owed store source).take (tried - 1)).map Reply.encode)
  /-- If the last was written too, there are no more. -/
  enough : sink.Takes (((owed store source).take tried).map Reply.encode) →
    (owed store source).length ≤ tried

theorem exists_served (store : Store) (source : Source) (sink : Sink) :
    ∃ tried, Served store source sink tried (serve store source sink) := by
  fun_induction serve store source sink with
  | case1 store source sink f t read gone =>
    have nothing : owed store source = [] := by rw [owed_of_fault read, farewell, if_pos gone]
    exact ⟨0, rfl, rfl, sink.takes_nil, fun _ => by rw [nothing]; exact Nat.le_refl 0⟩
  | case2 store source sink f t read stays =>
    have one : owed store source = [Reply.unknown f.message] := by
      rw [owed_of_fault read, farewell, if_neg stays]
    refine ⟨1, ?_, ?_, sink.takes_nil, ?_⟩
    · rw [Source.yield_of_fault read]
      rfl
    · rw [one]
      rfl
    · rw [one]
      exact fun _ => Nat.le_refl 1
  | case3 store source sink frame t read reply store' answered f sink' unwritten =>
    rw [answer_eq] at answered
    cases answered
    refine ⟨1, ?_, ?_, sink.takes_nil, ?_⟩
    · rw [Source.yield_of_frame read]
      rfl
    · rw [owed_of_frame read, List.take_succ_cons, List.map_cons, Sink.after_cons, unwritten]
      rfl
    · rw [owed_of_frame read, List.take_succ_cons, List.map_cons, Sink.takes_cons]
      intro takes
      obtain ⟨_, written, -⟩ := takes
      rw [unwritten] at written
      cases written
  | case4 store source sink frame t read reply store' answered done sink' written ih =>
    rw [answer_eq] at answered
    cases answered
    obtain ⟨tried, served⟩ := ih
    refine ⟨tried + 1, ?_, ?_, ?_, ?_⟩
    · rw [Source.yield_of_frame read, List.take_succ_cons]
      exact served.store_eq.trans (after_commands_cons store frame _).symm
    · rw [owed_of_frame read, List.take_succ_cons, List.map_cons, Sink.after_cons, written]
      exact served.sink_eq
    · cases tried with
      | zero => exact sink.takes_nil
      | succ tried =>
        rw [owed_of_frame read, Nat.add_sub_cancel, List.take_succ_cons, List.map_cons]
        exact Sink.takes_cons.mpr ⟨sink', written, Sink.writeFrame_eq_ok written, served.before⟩
    · rw [owed_of_frame read, List.take_succ_cons, List.map_cons, Sink.takes_cons]
      intro takes
      obtain ⟨_, written', -, takes'⟩ := takes
      rw [written] at written'
      cases written'
      exact Nat.succ_le_succ (served.enough takes')

/-- What a session wrote to a sink that held nothing reads back as replies of the session, from the
first one on; as all of them, where all could be written. -/
theorem yield_served {store : Store} {source : Source} {sink : Sink} {tried : Nat} {ended : Ended}
    (served : Served store source sink tried ended)
    (fit : ∀ r ∈ owed store source, r.body.length ≤ Frame.maxPayload) (fresh : sink.bytes = [])
    (takes : 0 < sink.portion) :
    ∃ n, (sink.Takes ((owed store source).map Reply.encode) → (owed store source).length ≤ n) ∧
      ∀ reader : Source, reader.pacing.Steady → reader.ending = .finished →
        reader.rest = ended.sink.bytes →
          reader.yield = (((owed store source).take n).map Reply.encode, .endOfStream, []) := by
  rw [served.sink_eq]
  by_cases all : sink.Takes ((owed store source).map Reply.encode)
  · refine ⟨_, fun _ => Nat.le_refl _, fun reader steady finished holds => ?_⟩
    have enough := served.enough (List.map_take ▸ all.take tried)
    rw [List.take_of_length_le enough, (Sink.gains_after all).bytes_eq, fresh,
      List.nil_append] at holds
    rw [List.take_length]
    exact Source.yield_of_replies steady finished fit holds
  · have wholes : ∀ frame ∈ ((owed store source).take tried).map Reply.encode,
        Frame.Whole frame :=
      List.forall_mem_map.mpr fun r sent => Reply.whole_encode (fit r (List.mem_of_mem_take sent))
    obtain ⟨n, -, reads⟩ := Sink.yield_accepted fresh takes wholes
    refine ⟨min n tried, fun takes' => absurd takes' all, ?_⟩
    rw [← List.take_take, List.map_take (i := n)]
    exact reads

/-- Every reply of every session fits a frame, and its header and payload read back; so do the
replies behind each other, and those of them that were written whole. -/
theorem replies_fit (earlier : List (Source × Sink)) {source : Source} (brief : source.Brief)
    (sink : Sink) :
    let store := storeBehind earlier
    let frames := source.yield.1
    let sent := owed store source
    let ended := serve store source sink
    (∀ j key value, (store.after (commands (frames.take j))).get? key = some value →
      key.length + value.length ≤ Frame.maxPayload - 8) ∧
    (∀ r ∈ sent, r.body.length ≤ Frame.maxPayload ∧
      Frame.header? r.encode =
        some (⟨r.status.tag, r.body.length, (crc32 r.body).toNat⟩, r.body) ∧
      Frame.decode r.encode = .ok (r.status.tag, r.body)) ∧
    (∀ reader : Source, reader.pacing.Steady → reader.ending = .finished →
      reader.rest = (sent.map Reply.encode).flatten →
        reader.yield = (sent.map Reply.encode, .endOfStream, [])) ∧
    (∃ tried, Served store source sink tried ended) ∧
    (sink.bytes = [] → 0 < sink.portion →
      ∃ n, (sink.Takes (sent.map Reply.encode) → sent.length ≤ n) ∧
        ∀ reader : Source, reader.pacing.Steady → reader.ending = .finished →
          reader.rest = ended.sink.bytes →
            reader.yield = ((sent.take n).map Reply.encode, .endOfStream, [])) := by
  intro store frames sent ended
  have fitting := fitting_storeBehind earlier
  have fit := size_owed_le fitting brief
  obtain ⟨tried, served⟩ := exists_served store source sink
  refine ⟨fun j key value stored => ?_, fun r reply => ?_,
    fun reader steady finished => Source.yield_of_replies steady finished fit, ⟨tried, served⟩,
    yield_served served fit⟩
  · exact Nat.le_sub_of_add_le (fitting_commands fitting _ key value stored)
  · have within := fit r reply
    refine ⟨within, ?_, Frame.decode_eq_ok_iff.mpr (Reply.holds_encode within)⟩
    exact Frame.header?_eq_some_iff.mpr
      ⟨Frame.encode_eq _ _, Frame.lt_of_within within, (crc32 r.body).toNat_lt⟩

/-- A value that an earlier session wrote is read, and then the source fails within a header. -/
theorem replies_fit_unreachable :
    let writer : Source := { rest := (Command.write [1] [2]).encode, ending := .finished }
    let earlier : List (Source × Sink) := [(writer, {})]
    let source : Source :=
      { rest := (Command.read [1]).encode ++ [2], ending := .fault (.ofSystem 113),
        pacing := .uniform 1 3 }
    let reader : Source :=
      { rest := (serve (storeBehind earlier) source {}).sink.bytes, ending := .finished }
    source.Brief ∧ Sink.bytes {} = [] ∧ 0 < Sink.portion {} ∧ reader.pacing.Steady ∧
      reader.yield.1 = [(Reply.ok (some [2])).encode,
        (Reply.unknown "No route to host (os error 113)").encode] := by
  intro writer earlier source reader
  have brief : source.Brief := source.brief_of_system (by decide : 113 < 10 ^ 10) rfl
  have endless : Sink.Endless {} := ⟨rfl, by decide, rfl⟩
  have stored : (storeBehind earlier).get? [1] = some [2] := by
    have fits : (Command.write [1] [2]).payloadSize ≤ Frame.maxPayload := by decide
    have steady : writer.pacing.Steady := Pacing.steady_eager
    have run := serve_of_cut .empty {} steady (Command.cut_encode fits) (endless.takes _)
    have left := run.store_eq
    rw [commands_encode fits] at left
    exact congrArg (Store.get? · [1]) left
  have sent : owed (storeBehind earlier) source =
      [.ok (some [2]), .unknown "No route to host (os error 113)"] := by
    have fits : (Command.read [1]).payloadSize ≤ Frame.maxPayload := by decide
    have few : Frame.Incomplete [2] := Or.inl (by decide)
    have cut : Frame.Cut source.rest [(Command.read [1]).encode] [2] :=
      ⟨rfl, List.forall_mem_singleton.mpr (Command.whole_encode fits), Or.inl few⟩
    obtain ⟨f, left, read, stopped⟩ :=
      Source.yield_of_cut (Pacing.steady_uniform.mpr (by decide)) cut
    obtain ⟨rfl, rfl⟩ := stopped.unique (.exhausted few)
    rw [owed, read, replies_encode fits, Store.execute_read_of_held stored]
    decide
  obtain ⟨-, -, -, -, reads⟩ := replies_fit earlier brief {}
  obtain ⟨n, all, reads⟩ := reads rfl (by decide)
  refine ⟨brief, rfl, by decide, Pacing.steady_eager, ?_⟩
  have enough := List.take_of_length_le (all (endless.takes _))
  rw [reads reader Pacing.steady_eager rfl rfl, enough, sent]
  rfl

end Session
end AtomicKv
