import AtomicKv.Proofs.Exchange

/-!
# What a node and its clients come to

The store of a node changes by commands that fit a frame only, whoever sends them and whatever
else they send (`serve_store`). So every value in it fits a frame, and every reply that hands one
out does. A client that waits for one reply at a time finds nothing left over from earlier ones.
Both hold at first and are kept by whatever happens (`Settled`, `settled_of_reached`).
-/
namespace AtomicKv

/-- A store whose values all fit a frame. -/
def Store.Short (store : Store) : Prop :=
  ∀ key value, store.get? key = some value → value.length ≤ Frame.maxPayload

namespace Store

theorem Short.empty : Short .empty :=
  fun _ _ none_stored => nomatch none_stored

theorem Short.insert {store : Store} (short : store.Short) (key : Bytes) {value : Bytes}
    (fits : value.length ≤ Frame.maxPayload) : (store.insert key value).Short := by
  intro k v stored
  rw [get?_insert] at stored
  split at stored
  · cases stored
    exact fits
  · exact short k v stored

/-- A value behind a command was there before, or the command brought it together with its key. -/
theorem get?_execute_cases {store : Store} {c : Command} {key value : Bytes}
    (stored : (store.execute c).2.get? key = some value) :
    store.get? key = some value ∨ key.length + value.length + 8 ≤ c.payloadSize := by
  have placed {own brought : Bytes} (h : (store.insert own brought).get? key = some value) :
      store.get? key = some value ∨ key = own ∧ value = brought := by
    rw [get?_insert] at h
    split at h
    · rename_i same
      cases h
      exact Or.inr ⟨same, rfl⟩
    · exact Or.inl h
  cases c with
  | read own =>
    cases held : store.get? own with
    | none =>
      rw [execute_read_of_missing held] at stored
      exact Or.inl stored
    | some current =>
      rw [execute_read_of_held held] at stored
      exact Or.inl stored
  | write own brought =>
    obtain before | ⟨rfl, rfl⟩ := placed stored
    · exact Or.inl before
    · right
      simp only [Command.payloadSize, Command.fields, List.foldr_cons, List.foldr_nil]
      omega
  | testAndSet own expected brought =>
    cases held : store.get? own with
    | none =>
      rw [execute_testAndSet_of_missing held] at stored
      exact Or.inl stored
    | some current =>
      rw [execute_testAndSet_of_held held] at stored
      split at stored
      · obtain before | ⟨rfl, rfl⟩ := placed stored
        · exact Or.inl before
        · right
          simp only [Command.payloadSize, Command.fields, List.foldr_cons, List.foldr_nil]
          omega
      · exact Or.inl stored

/-- A reply hands out nothing but what is stored under the key of its command. -/
theorem body_execute (store : Store) (c : Command) :
    (store.execute c).1.body = [] ∨ store.get? c.key = some (store.execute c).1.body := by
  cases c with
  | read key =>
    cases held : store.get? key with
    | none =>
      rw [execute_read_of_missing held]
      exact Or.inl rfl
    | some current =>
      rw [execute_read_of_held held]
      exact Or.inr held
  | write key value => exact Or.inl rfl
  | testAndSet key expected value =>
    cases held : store.get? key with
    | none =>
      rw [execute_testAndSet_of_missing held]
      exact Or.inl rfl
    | some current =>
      rw [execute_testAndSet_of_held held]
      split
      · exact Or.inl rfl
      · exact Or.inr held

/-- A command that fits leaves values behind that fit, and so does its reply. -/
theorem Short.execute {store : Store} (short : store.Short) {c : Command}
    (fits : c.payloadSize ≤ Frame.maxPayload) :
    (store.execute c).2.Short ∧ (store.execute c).1.body.length ≤ Frame.maxPayload := by
  refine ⟨fun key value stored => ?_, ?_⟩
  · obtain before | brought := get?_execute_cases stored
    · exact short key value before
    · omega
  · obtain nothing | current := store.body_execute c
    · rw [nothing]
      exact Nat.zero_le _
    · exact short c.key _ current

/-- Every command that fits keeps a property of stores. -/
def Keeps (P : Store → Prop) : Prop :=
  ∀ store c, P store → Command.payloadSize c ≤ Frame.maxPayload → P (store.execute c).2

theorem Short.keeps : Keeps Short :=
  fun _ _ short fits => (short.execute fits).1

theorem Keeps.after {P : Store → Prop} (keeps : Keeps P) {store : Store} (holds : P store)
    {commands : List Command} (fit : ∀ c ∈ commands, c.payloadSize ≤ Frame.maxPayload) :
    P (store.after commands) := by
  induction commands generalizing store with
  | nil => exact holds
  | cons c commands ih =>
    obtain ⟨first, later⟩ := List.forall_mem_cons.mp fit
    exact ih (keeps store c holds first) later

end Store

namespace Session

/-- The commands that frames hold fit a frame. -/
theorem fits_of_mem_commands {frames : List Bytes} {c : Command} (held : c ∈ commands frames) :
    c.payloadSize ≤ Frame.maxPayload := by
  obtain ⟨frame, -, decoded⟩ := List.mem_filterMap.mp held
  cases taken : Command.decode frame with
  | error flaw =>
    rw [taken] at decoded
    cases decoded
  | ok d =>
    rw [taken] at decoded
    cases decoded
    exact (Command.decode_eq_ok_iff.mp taken).2

/-- Whatever a session reads, however it ends and whether its replies can be written or not, it
leaves the store as some commands that fit a frame leave it. -/
theorem serve_store (store : Store) (source : Source) (sink : Sink) :
    ∃ frames, (serve store source sink).store = store.after (commands frames) := by
  fun_induction serve store source sink with
  | case1 store source sink f rest read gone => exact ⟨[], rfl⟩
  | case2 store source sink f rest read stays => exact ⟨[], rfl⟩
  | case3 store source sink frame rest read reply store' answered f sink' unwritten =>
    rw [answer_eq] at answered
    cases answered
    exact ⟨[frame], rfl⟩
  | case4 store source sink frame rest read reply store' answered done sink' written ih =>
    obtain ⟨frames, left⟩ := ih
    rw [answer_eq] at answered
    cases answered
    exact ⟨frame :: frames, left.trans (after_commands_cons store frame frames).symm⟩

/-- What every command that fits keeps is kept by every session. -/
theorem serve_keeps {P : Store → Prop} (keeps : Store.Keeps P) {store : Store} (holds : P store)
    (source : Source) (sink : Sink) : P (serve store source sink).store := by
  obtain ⟨frames, left⟩ := serve_store store source sink
  rw [left]
  exact keeps.after holds fun c held => fits_of_mem_commands held

end Session

namespace Cluster

/-- What a node and its clients can come to. A session that others get in between two frames of
counts as two (`respond_append`). -/
inductive Reached : Cluster → Prop where
  | start : Reached {}
  | connect {k : Cluster} (reached : Reached k) (n : Nat) (node name : String) :
    Reached (k.connect n node name)
  | drop {k : Cluster} (reached : Reached k) (n : Nat) : Reached (k.drop n)
  | step {k k' : Cluster} {n : Nat} {next : ClientStep} {answer : Answer} (reached : Reached k)
    (stepped : k.step n next = some (answer, k')) : Reached k'
  | session {k : Cluster} (reached : Reached k) (source : Source) (sink : Sink) :
    Reached { k with store := (Session.serve k.store source sink).store }
  | shutdown {k : Cluster} (reached : Reached k) : Reached k.shutdown

/-- Every command that fits a frame is carried out for whoever sends it. -/
theorem Reached.execute {k : Cluster} (reached : k.Reached) {c : Command}
    (fits : c.payloadSize ≤ Frame.maxPayload) :
    Reached { k with store := (k.store.execute c).2 } := by
  have served := reached.session { rest := c.encode, ending := .fault .silence } {}
  have left : (respond k.store c.encode).2 = (k.store.execute c).2 :=
    congrArg Prod.snd (respond_encode fits)
  rw [← left]
  exact served

/-- Every value fits a frame, and nothing is left to read on an open connection. -/
structure Settled (k : Cluster) : Prop where
  short : k.store.Short
  idle : ∀ n c, k.clients n = some c → c.isOpen = true → c.Idle

variable {k k' : Cluster}

theorem Settled.withClient (settled : k.Settled) (n : Nat) {next : Option Connection}
    (idle : ∀ c, next = some c → c.isOpen = true → c.Idle) : (k.withClient n next).Settled where
  short := settled.short
  idle other c client opened := by
    change (if other = n then next else k.clients other) = some c at client
    split at client
    · exact idle c client opened
    · exact settled.idle other c client opened

theorem Settled.close (settled : k.Settled) (n : Nat) (c : Connection) :
    (k.withClient n (some c.close)).Settled :=
  settled.withClient n fun _ closed opened => by
    cases closed
    cases opened

/-- What a call of a client can do: the store carries out its command and the client is as it
was, or nothing happens but that the connection may be closed. -/
theorem Settled.call (settled : k.Settled) {n : Nat} {call : Call} {answer : Answer}
    (stepped : k.step n (.call call) = some (answer, k')) :
    (∃ c, k.clients n = some c ∧ c.Idle ∧ k.running = true ∧
      call.command.payloadSize ≤ Frame.maxPayload ∧
      answer = call.classify (Outcome.ofFrame (k.store.execute call.command).1.encode) ∧
      k' = { k with store := (k.store.execute call.command).2 }) ∨
    ((∃ e, answer = .error e ∧ e.kind ≠ .keyChanged) ∧
      (k' = k ∨ ∃ c : Connection, k' = k.withClient n (some c.close))) := by
  cases client : k.clients n with
  | none =>
    rw [step_of_no_client client] at stepped
    cases stepped
  | some c =>
    cases opened : c.isOpen with
    | false =>
      rw [step_call_of_closed client opened] at stepped
      cases stepped
      exact Or.inr ⟨⟨_, rfl, fun h => nomatch h⟩, Or.inl rfl⟩
    | true =>
      have idle := settled.idle n c client opened
      by_cases large : Frame.maxPayload < call.command.payloadSize
      · rw [step_call_of_large client opened large] at stepped
        cases stepped
        exact Or.inr ⟨⟨_, rfl, fun h => nomatch h⟩, Or.inl rfl⟩
      · have fits := Nat.le_of_not_lt large
        by_cases running : k.running = true
        · rw [step_call running client idle fits (settled.short.execute fits).2] at stepped
          cases stepped
          exact Or.inl ⟨c, rfl, idle, running, fits, rfl, rfl⟩
        · rw [step_call_of_stopped (Bool.eq_false_iff.mpr running) client idle fits] at stepped
          cases stepped
          exact Or.inr ⟨⟨_, rfl, fun h => nomatch h⟩, Or.inr ⟨c, rfl⟩⟩

theorem Settled.step (settled : k.Settled) {n : Nat} {next : ClientStep} {answer : Answer}
    (stepped : k.step n next = some (answer, k')) : k'.Settled := by
  cases next with
  | close =>
    cases client : k.clients n with
    | none =>
      rw [step_of_no_client client] at stepped
      cases stepped
    | some c =>
      rw [step_close client] at stepped
      cases stepped
      exact settled.close n c
  | call call =>
    obtain ⟨c, client, idle, -, fits, -, rfl⟩ | ⟨-, rfl | ⟨c, rfl⟩⟩ := settled.call stepped
    · exact ⟨(settled.short.execute fits).1, settled.idle⟩
    · exact settled
    · exact settled.close n c

theorem settled_of_reached (reached : k.Reached) : k.Settled := by
  induction reached with
  | start => exact ⟨Store.Short.empty, fun _ _ no_client => nomatch no_client⟩
  | connect _ n node name settled =>
    refine settled.withClient n fun c client _ => ?_
    cases client
    exact ⟨rfl, rfl⟩
  | drop _ n settled => exact settled.withClient n fun c client => nomatch client
  | step _ stepped settled => exact settled.step stepped
  | session _ source sink settled =>
    exact ⟨Session.serve_keeps Store.Short.keeps settled.short source sink, settled.idle⟩
  | shutdown _ settled => exact ⟨settled.short, settled.idle⟩

end Cluster
end AtomicKv
