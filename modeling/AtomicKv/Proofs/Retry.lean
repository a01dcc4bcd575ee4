import AtomicKv.Proofs.Reachable

/-!
# A retry with the value that was handed back

A test-and-set that fails because the key has changed hands back a value to retry with. The node
compares bytes, while the client reads that value off the beginning of the stored bytes and does
not look at what is behind it. If the stored bytes are the wire form of a value, which they are
when they got there by a call of such a client, that value was handed back and the retry succeeds.
If something stands behind the wire form, the retry fails as the first attempt did and hands back
the same value, and so does every other retry (`step_retry`).
-/
namespace AtomicKv

theorem Call.classify_testAndSet_eq_keyChanged_iff {key : Key} {expected value old : Value}
    {o : Outcome} :
    (Call.testAndSet key expected value).classify o = .error (.keyChanged old) ↔
      o = .keyChanged old := by
  constructor
  · intro failed
    cases o <;> cases failed
    rfl
  · rintro rfl
    rfl

namespace Cluster

variable {k k' : Cluster} {n : Nat} {key : Key} {expected value old : Value}

/-- A test-and-set on a key under which some bytes are stored compares and hands back these. -/
theorem step_testAndSet_of_held {c : Connection} {stored : Bytes} (running : k.running = true)
    (client : k.clients n = some c) (idle : c.Idle) (held : k.store.get? key.bytes = some stored)
    (short : stored.length ≤ Frame.maxPayload)
    (fits : (Call.testAndSet key expected value).command.payloadSize ≤ Frame.maxPayload) :
    k.step n (.call (.testAndSet key expected value)) =
      if stored = expected.wire then
        some (.ok none, { k with store := k.store.insert key.bytes value.wire })
      else
        some ((Call.testAndSet key expected value).classify (Outcome.ofPayload stored .keyChanged),
          k) := by
  have executed : k.store.execute (Call.testAndSet key expected value).command = _ :=
    Store.execute_testAndSet_of_held held expected.wire value.wire
  have reply_fits : (k.store.execute (Call.testAndSet key expected value).command).1.body.length ≤
      Frame.maxPayload := by
    rw [executed]
    split
    · exact Nat.zero_le _
    · exact short
  rw [step_call running client idle fits reply_fits, Outcome.ofFrame_encode reply_fits, executed]
  split <;> rfl

/-- A test-and-set that hands back a value found other bytes than it expected, which begin with
the wire form of that value, and changed nothing. -/
theorem Settled.of_keyChanged (settled : k.Settled)
    (failed : k.step n (.call (.testAndSet key expected value)) =
      some (.error (.keyChanged old), k')) :
    k' = k ∧ k.running = true ∧ (∃ c, k.clients n = some c ∧ c.Idle) ∧
      ∃ stored, k.store.get? key.bytes = some stored ∧ stored ≠ expected.wire ∧
        old.wire <+: stored := by
  obtain ⟨c, client, idle, running, fits, answered, left⟩ | ⟨⟨e, same, other⟩, -⟩ :=
    settled.call failed
  · rw [Outcome.ofFrame_encode (settled.short.execute fits).2] at answered
    have told := Call.classify_testAndSet_eq_keyChanged_iff.mp answered.symm
    rw [Call.command] at told left
    cases held : k.store.get? key.bytes with
    | none =>
      rw [Store.execute_testAndSet_of_missing held] at told
      cases told
    | some stored =>
      rw [Store.execute_testAndSet_of_held held] at told left
      by_cases expected_stored : stored = expected.wire
      · rw [if_pos expected_stored] at told
        cases told
      · rw [if_neg expected_stored] at told left
        have short := settled.short key.bytes stored held
        exact ⟨left, running, ⟨c, client, idle⟩, stored, rfl, expected_stored,
          (Outcome.ofPayload_eq_keyChanged_iff_begins short).mp told⟩
  · cases same
    exact absurd rfl other

/-- A retry with the value that a failed test-and-set handed back succeeds exactly if the stored
bytes are its wire form and nothing came between; else it fails in the same way. -/
theorem step_retry (reached : k.Reached)
    (failed : k.step n (.call (.testAndSet key expected value)) =
      some (.error (.keyChanged old), k')) :
    k' = k ∧ ∃ stored, k.store.get? key.bytes = some stored ∧ stored ≠ expected.wire ∧
      old.wire <+: stored ∧ ((∃ v : Value, stored = v.wire) → stored = old.wire) ∧
      (stored = old.wire → old ≠ expected) ∧
      ∀ (later : Cluster) (others : List Command) (value' : Value),
        later.running = true → later.clients n = k.clients n →
        later.store = k.store.after others → (∀ c ∈ others, c.key ≠ key.bytes) →
        (Call.testAndSet key old value').command.payloadSize ≤ Frame.maxPayload →
          later.step n (.call (.testAndSet key old value')) =
            if stored = old.wire then
              some (.ok none, { later with store := later.store.insert key.bytes value'.wire })
            else some (.error (.keyChanged old), later) := by
  have settled := settled_of_reached reached
  obtain ⟨same, -, ⟨c, client, idle⟩, stored, held, unexpected, begins⟩ :=
    settled.of_keyChanged failed
  have short := settled.short key.bytes stored held
  refine ⟨same, stored, held, unexpected, begins, ?_, ?_, ?_⟩
  · rintro ⟨v, rfl⟩
    have old_short := Nat.le_trans begins.length_le short
    rw [Value.eq_of_wire_begins (sized_of_short old_short) (sized_of_short short) begins]
  · rintro all rfl
    exact unexpected all
  · intro later others value' running same_client left elsewhere fits
    have held_later : later.store.get? key.bytes = some stored := by
      rw [left, k.store.get?_after_of_ne elsewhere, held]
    rw [step_testAndSet_of_held running (same_client.trans client) idle held_later short fits]
    have read := (Outcome.ofPayload_eq_keyChanged_iff_begins short).mpr begins
    rw [Call.classify_testAndSet_eq_keyChanged_iff.mpr read]

/-- A node that was sent some bytes to store, and one client of it. -/
def holding (bytes : Bytes) : Cluster :=
  { ({} : Cluster).connect 0 "node" "client" with
    store := (Store.empty.execute (.write [7] bytes)).2 }

/-- The client of such a node tries to replace an expected value. -/
def attempt (bytes : Bytes) (expected : Value) : Option (Answer × Cluster) :=
  (holding bytes).step 0 (.call (.testAndSet ⟨[7]⟩ expected (.list [])))

section Holding

variable {bytes : Bytes} (short : bytes.length ≤ 100)

include short

theorem reached_holding : (holding bytes).Reached := by
  have fits : (Command.write [7] bytes).payloadSize ≤ Frame.maxPayload := by
    simp only [Command.payloadSize, Command.fields, List.foldr_cons, List.foldr_nil,
      List.length_singleton, Frame.maxPayload]
    omega
  exact (Reached.start.connect 0 "node" "client").execute fits

theorem attempt_eq
    (fits : (Call.testAndSet ⟨[7]⟩ expected (.list [])).command.payloadSize ≤ Frame.maxPayload) :
    attempt bytes expected =
      let k := holding bytes
      if bytes = expected.wire then
        some (.ok none, { k with store := k.store.insert [7] (Value.list []).wire })
      else
        some ((Call.testAndSet ⟨[7]⟩ expected (.list [])).classify
          (Outcome.ofPayload bytes .keyChanged), k) :=
  step_testAndSet_of_held rfl rfl ⟨rfl, rfl⟩ rfl (Nat.le_trans short (by decide)) fits

end Holding

/-- A guess fails, and the retry with what it was told succeeds. -/
theorem step_retry_bool :
    let bytes := (Value.bool true).wire
    let k := holding bytes
    k.Reached ∧ attempt bytes (.bool false) = some (.error (.keyChanged (.bool true)), k) ∧
      attempt bytes (.bool true) =
        some (.ok none, { k with store := k.store.insert [7] (Value.list []).wire }) := by
  intro bytes k
  have reached : k.Reached := reached_holding (by decide)
  have failed : attempt bytes (.bool false) = some (.error (.keyChanged (.bool true)), k) := by
    have other : bytes ≠ (Value.bool false).wire := by decide
    have read : Outcome.ofPayload bytes .keyChanged = .keyChanged (.bool true) :=
      Outcome.ofPayload_keyChanged_of_begins (by decide) List.prefix_rfl
    rw [attempt_eq (by decide) (by decide), if_neg other, read]
    rfl
  obtain ⟨-, stored, held, -, -, -, -, retry⟩ := step_retry reached failed
  obtain rfl : bytes = stored := Option.some.inj held
  have retried := retry k [] (.list []) rfl rfl rfl (fun _ none => nomatch none) (by decide)
  exact ⟨reached, failed, retried.trans (if_pos rfl)⟩

/-- With one byte behind the wire form of a value, what a failed test-and-set hands back is what
the next one expects in vain. -/
theorem step_retry_extra_byte :
    let bytes := (Value.bool true).wire ++ [0]
    let k := holding bytes
    k.Reached ∧
      (Call.testAndSet ⟨[7]⟩ (.bool true) (.list [])).command.payloadSize ≤ Frame.maxPayload ∧
      attempt bytes (.bool false) = some (.error (.keyChanged (.bool true)), k) ∧
      attempt bytes (.bool true) = some (.error (.keyChanged (.bool true)), k) := by
  intro bytes k
  have read : Outcome.ofPayload bytes .keyChanged = .keyChanged (.bool true) :=
    Outcome.ofPayload_keyChanged_of_begins (by decide) (List.prefix_append _ _)
  have told (flag : Bool)
      (fits : (Call.testAndSet ⟨[7]⟩ (.bool flag) (.list [])).command.payloadSize ≤
        Frame.maxPayload) (other : bytes ≠ (Value.bool flag).wire) :
      attempt bytes (.bool flag) = some (.error (.keyChanged (.bool true)), k) := by
    rw [attempt_eq (by decide) fits, if_neg other, read]
    rfl
  exact ⟨reached_holding (by decide), by decide, told false (by decide) (by decide),
    told true (by decide) (by decide)⟩

end Cluster
end AtomicKv
