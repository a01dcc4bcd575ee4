import AtomicKv.Proofs.Reachable

/-!
# What a client is told of stored bytes

A node stores the bytes that it is sent, whether or not a client can read a value off them. What a
call answers is settled by the bytes under its key alone (`Call.Tells`): a value is told exactly
when its wire form is what they begin with, and bytes that begin with no wire form, the empty ones
among them, are told to be neither a success nor an absence nor a change. Only a call that answers
success changes the store, and only under its key (`step_tells`).
-/
namespace AtomicKv

/-- Bytes that no value can be read off. -/
def Unreadable (stored : Bytes) : Prop :=
  ∀ v : Value, ¬ v.wire <+: stored

namespace Call

/-- What a read answers, by the bytes under its key. -/
structure ReadTells (stored : Option Bytes) (answer : Answer) : Prop where
  notFound_iff : answer = .error .notFound ↔ stored = none
  value_iff : ∀ v, answer = .ok (some v) ↔ ∃ bytes, stored = some bytes ∧ v.wire <+: bytes
  unknown_iff : (∃ text, answer = .error (.unknown text)) ↔
    ∃ bytes, stored = some bytes ∧ Unreadable bytes

/-- What a test-and-set answers, by the bytes under its key and the value that is expected there. -/
structure SwapTells (expected : Value) (stored : Option Bytes) (answer : Answer) : Prop where
  notFound_iff : answer = .error .notFound ↔ stored = none
  done_iff : answer = .ok none ↔ stored = some expected.wire
  keyChanged_iff : ∀ old, answer = .error (.keyChanged old) ↔
    ∃ bytes, stored = some bytes ∧ bytes ≠ expected.wire ∧ old.wire <+: bytes
  unknown_iff : (∃ text, answer = .error (.unknown text)) ↔
    ∃ bytes, stored = some bytes ∧ Unreadable bytes

/-- What a call answers, by the bytes under its key. -/
def Tells (stored : Option Bytes) (answer : Answer) : Call → Prop
  | .read _ => ReadTells stored answer
  | .write _ _ => answer = .ok none
  | .testAndSet _ expected _ => SwapTells expected stored answer

/-- The value that a call puts under its key if it succeeds. -/
def puts : Call → Option Value
  | .read _ => none
  | .write _ value | .testAndSet _ _ value => some value

end Call

/-- One value at most can be read off bytes that fit a frame. -/
theorem Value.eq_of_begin {v w : Value} {stored : Bytes}
    (short : stored.length ≤ Frame.maxPayload) (begins : v.wire <+: stored)
    (begins' : w.wire <+: stored) : v = w := by
  have read := (Outcome.ofWire_eq_ok_iff_begins short).mpr begins
  rw [(Outcome.ofWire_eq_ok_iff_begins short).mpr begins'] at read
  cases read
  rfl

/-- The wire form of a value is readable. -/
theorem not_unreadable {v : Value} {stored : Bytes} (begins : v.wire <+: stored) :
    ¬ Unreadable stored :=
  fun unreadable => unreadable v begins

/-- A value can be read off some bytes, or reading them is a fault. -/
theorem readable_or {stored : Bytes} (short : stored.length ≤ Frame.maxPayload) :
    (∃ v : Value, v.wire <+: stored) ∨
      (∃ fault, Value.ofWire stored = .error fault) ∧ Unreadable stored := by
  cases read : Value.ofWire stored with
  | ok v => exact Or.inl ⟨v, (Outcome.ofWire_eq_ok_iff_begins short).mp read⟩
  | error fault =>
    refine Or.inr ⟨⟨fault, rfl⟩, fun v begins => ?_⟩
    rw [(Outcome.ofWire_eq_ok_iff_begins short).mpr begins] at read
    cases read

namespace Call

variable {stored : Bytes} {expected : Value}

theorem readTells_none : ReadTells none (.error .notFound) where
  notFound_iff := by simp
  value_iff := by simp
  unknown_iff := by simp

theorem swapTells_none : SwapTells expected none (.error .notFound) where
  notFound_iff := by simp
  done_iff := by simp
  keyChanged_iff := by simp
  unknown_iff := by simp

theorem readTells_of_begins (short : stored.length ≤ Frame.maxPayload) {v : Value}
    (begins : v.wire <+: stored) : ReadTells (some stored) (.ok (some v)) where
  notFound_iff := by simp
  value_iff w := by
    simp only [Except.ok.injEq, Option.some.injEq, exists_eq_left']
    constructor
    · rintro rfl
      exact begins
    · exact Value.eq_of_begin short begins
  unknown_iff := by simpa using not_unreadable begins

/-- Whatever the reason: an empty payload is read as success without a value, and other ones are
faults. -/
theorem readTells_of_unreadable (unreadable : Unreadable stored) (text : String) :
    ReadTells (some stored) (.error (.unknown text)) where
  notFound_iff := by simp
  value_iff v := by simpa using unreadable v
  unknown_iff := by simpa using unreadable

theorem swapTells_of_expected : SwapTells expected (some expected.wire) (.ok none) where
  notFound_iff := by simp
  done_iff := by simp
  keyChanged_iff := by simp
  unknown_iff := by simpa using not_unreadable List.prefix_rfl

theorem swapTells_of_begins (short : stored.length ≤ Frame.maxPayload)
    (changed : stored ≠ expected.wire) {old : Value} (begins : old.wire <+: stored) :
    SwapTells expected (some stored) (.error (.keyChanged old)) where
  notFound_iff := by simp
  done_iff := by simpa using changed
  keyChanged_iff w := by
    simp only [Except.error.injEq, ClientError.keyChanged.injEq, Option.some.injEq,
      exists_eq_left']
    constructor
    · rintro rfl
      exact ⟨changed, begins⟩
    · intro told
      exact Value.eq_of_begin short begins told.2
  unknown_iff := by simpa using not_unreadable begins

theorem swapTells_of_unreadable (unreadable : Unreadable stored) (text : String) :
    SwapTells expected (some stored) (.error (.unknown text)) where
  notFound_iff := by simp
  done_iff := by
    have other : stored ≠ expected.wire := by
      rintro rfl
      exact not_unreadable List.prefix_rfl unreadable
    simpa using other
  keyChanged_iff old := by simpa using fun _ => unreadable old
  unknown_iff := by simpa using unreadable

/-- A read is told the stored bytes in an ok reply. -/
theorem readTells_ofPayload (key : Key) (short : stored.length ≤ Frame.maxPayload) :
    ReadTells (some stored) ((Call.read key).classify (Outcome.ofPayload stored .ok)) := by
  rcases readable_or short with ⟨v, begins⟩ | ⟨⟨fault, failed⟩, unreadable⟩
  · rw [Outcome.ofPayload_ok_of_begins short begins]
    exact readTells_of_begins short begins
  · rw [Outcome.ofPayload]
    split
    · exact readTells_of_unreadable unreadable _
    · rw [failed]
      exact readTells_of_unreadable unreadable _

/-- A test-and-set is told stored bytes that it did not expect in a key-changed reply. -/
theorem swapTells_ofPayload (key : Key) (value : Value) (short : stored.length ≤ Frame.maxPayload)
    (changed : stored ≠ expected.wire) :
    SwapTells expected (some stored)
      ((Call.testAndSet key expected value).classify (Outcome.ofPayload stored .keyChanged)) := by
  rcases readable_or short with ⟨old, begins⟩ | ⟨⟨fault, failed⟩, unreadable⟩
  · rw [Outcome.ofPayload_keyChanged_of_begins short begins]
    exact swapTells_of_begins short changed begins
  · rw [Outcome.ofPayload, failed]
    exact swapTells_of_unreadable unreadable _

end Call

/-- What the reply of a store makes a call answer, and what the store is afterwards. -/
structure Replied (call : Call) (store : Store) (answer : Answer) (store' : Store) : Prop where
  tells : call.Tells (store.get? call.command.key) answer
  unchanged : (∃ e, answer = .error e) ∨ call.puts = none → store' = store
  changed : ∀ v, call.puts = some v → answer = .ok none → ∀ key,
    store'.get? key = if key = call.command.key then some v.wire else store.get? key

namespace Replied

variable {store : Store} {key : Key} {expected value : Value} {answer : Answer}

theorem of_read (tells : Call.ReadTells (store.get? key.bytes) answer) :
    Replied (.read key) store answer store where
  tells := tells
  unchanged _ := rfl
  changed _ puts := nomatch puts

theorem of_refused {call : Call} (tells : call.Tells (store.get? call.command.key) answer)
    (refused : answer ≠ .ok none) : Replied call store answer store where
  tells := tells
  unchanged _ := rfl
  changed _ _ succeeded := absurd succeeded refused

theorem of_put {call : Call} (tells : call.Tells (store.get? call.command.key) (.ok none))
    (puts : call.puts = some value) :
    Replied call store (.ok none) (store.insert call.command.key value.wire) where
  tells := tells
  unchanged h := by
    rw [puts] at h
    rcases h with ⟨e, failed⟩ | nothing
    · cases failed
    · cases nothing
  changed v puts' _ k := by
    rw [puts] at puts'
    cases puts'
    exact store.get?_insert _ _ k

end Replied

/-- A call is told what the bytes under its key say, and puts its value there if it succeeds. -/
theorem Store.Short.replied {store : Store} (short : store.Short) (call : Call) :
    let replied := store.execute call.command
    Replied call store (call.classify (Outcome.ofPayload replied.1.body replied.1.status))
      replied.2 := by
  intro replied
  cases call with
  | read key =>
    cases held : store.get? key.bytes with
    | none =>
      have executed : replied = (.notFound, store) := Store.execute_read_of_missing held
      have tells : Call.ReadTells (store.get? key.bytes) (.error .notFound) :=
        held ▸ Call.readTells_none
      rw [executed]
      exact Replied.of_read tells
    | some stored =>
      have executed : replied = (.ok (some stored), store) := Store.execute_read_of_held held
      have told := Call.readTells_ofPayload key (short _ _ held)
      rw [← held] at told
      rw [executed]
      exact Replied.of_read told
  | write key value => exact Replied.of_put rfl rfl
  | testAndSet key expected value =>
    cases held : store.get? key.bytes with
    | none =>
      have executed : replied = (.notFound, store) :=
        Store.execute_testAndSet_of_missing held expected.wire value.wire
      have tells : Call.SwapTells expected (store.get? key.bytes) (.error .notFound) :=
        held ▸ Call.swapTells_none
      rw [executed]
      exact Replied.of_refused tells nofun
    | some stored =>
      have executed : replied = _ := Store.execute_testAndSet_of_held held expected.wire value.wire
      rw [executed]
      by_cases same : stored = expected.wire
      · have tells : Call.SwapTells expected (store.get? key.bytes) (.ok none) :=
          (held.trans (congrArg some same)) ▸ Call.swapTells_of_expected
        rw [if_pos same]
        exact Replied.of_put tells rfl
      · have told := Call.swapTells_ofPayload key value (short _ _ held) same
        rw [← held] at told
        rw [if_neg same]
        refine Replied.of_refused told fun succeeded => ?_
        exact same (Option.some.inj (held.symm.trans (told.done_iff.mp succeeded)))

namespace Cluster

/-- What a client is told about the bytes that a node stores, whatever they are; a call that is not
told of success changes nothing. -/
theorem step_tells {k : Cluster} {n : Nat} {c : Connection} {call : Call} (short : k.store.Short)
    (running : k.running = true) (client : k.clients n = some c) (idle : c.Idle)
    (fits : call.command.payloadSize ≤ Frame.maxPayload) :
    ∃ answer k', k.step n (.call call) = some (answer, k') ∧
      call.Tells (k.store.get? call.command.key) answer ∧
      ((∃ e, answer = .error e) ∨ call.puts = none → k' = k) ∧
      (∀ v, call.puts = some v → answer = .ok none → ∀ key, k'.store.get? key =
        if key = call.command.key then some v.wire else k.store.get? key) ∧
      k'.clients = k.clients ∧ k'.running = true ∧ k'.store.Short := by
  obtain ⟨short', reply_fits⟩ := short.execute fits
  have replied := short.replied call
  refine ⟨_, _, step_call running client idle fits reply_fits, ?_, ?_, ?_, rfl, running, short'⟩
  · rw [Outcome.ofFrame_encode reply_fits]
    exact replied.tells
  · intro no_success
    rw [Outcome.ofFrame_encode reply_fits] at no_success
    rw [replied.unchanged no_success]
  · intro v puts succeeded
    rw [Outcome.ofFrame_encode reply_fits] at succeeded
    exact replied.changed v puts succeeded

/-- Nothing can be read off an empty value, which a write replaces and a read and a test-and-set
leave as it is. -/
theorem step_tells_empty :
    let k : Cluster :=
      { ({} : Cluster).connect 0 "node" "client" with store := Store.empty.insert [7] [] }
    let c : Connection := { node := "node", name := "client" }
    let read : Call := .read ⟨[7]⟩
    let swap : Call := .testAndSet ⟨[7]⟩ (.bool false) (.bool true)
    let write : Call := .write ⟨[7]⟩ (.bool true)
    k.store.Short ∧ k.running = true ∧ k.clients 0 = some c ∧ c.Idle ∧
      (∀ call ∈ [read, swap, write], call.command.payloadSize ≤ Frame.maxPayload) ∧
      (∃ text, k.step 0 (.call read) = some (.error (.unknown text), k)) ∧
      (∃ text, k.step 0 (.call swap) = some (.error (.unknown text), k)) ∧
      ∃ k', k.step 0 (.call write) = some (.ok none, k') ∧
        k'.store.get? [7] = some (Value.bool true).wire := by
  intro k c read swap write
  have short : k.store.Short := Store.Short.empty.insert [7] (Nat.zero_le _)
  have client : k.clients 0 = some c := rfl
  have idle : c.Idle := ⟨rfl, rfl⟩
  have unreadable : Unreadable [] := fun v begins => v.wire_ne_nil (List.prefix_nil.mp begins)
  have read_fits : read.command.payloadSize ≤ Frame.maxPayload := by decide
  have swap_fits : swap.command.payloadSize ≤ Frame.maxPayload := by decide
  have write_fits : write.command.payloadSize ≤ Frame.maxPayload := by decide
  obtain ⟨_, k₁, stepped, tells, unchanged, -⟩ := step_tells short rfl client idle read_fits
  obtain ⟨text, rfl⟩ := tells.unknown_iff.mpr ⟨[], rfl, unreadable⟩
  obtain rfl := unchanged (Or.inl ⟨_, rfl⟩)
  obtain ⟨_, k₂, stepped₂, tells₂, unchanged₂, -⟩ := step_tells short rfl client idle swap_fits
  obtain ⟨text₂, rfl⟩ := tells₂.unknown_iff.mpr ⟨[], rfl, unreadable⟩
  obtain rfl := unchanged₂ (Or.inl ⟨_, rfl⟩)
  obtain ⟨_, k₃, stepped₃, rfl, -, changed, -⟩ := step_tells short rfl client idle write_fits
  refine ⟨short, rfl, client, idle, ?_, ⟨text, stepped⟩, ⟨text₂, stepped₂⟩, k₃, stepped₃, ?_⟩
  · intro call member
    simp only [List.mem_cons, List.not_mem_nil, or_false] at member
    rcases member with rfl | rfl | rfl <;> assumption
  · exact changed _ rfl rfl [7]

end Cluster
end AtomicKv
