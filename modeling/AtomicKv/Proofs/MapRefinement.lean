import AtomicKv.Proofs.Exchange

/-!
# A node is a map from keys to values

What any clients of a node see is a map from keys to values: no answer depends on how values
are written as bytes, how requests and replies travel, or which client calls. What carries this
is that the store holds, under the bytes of each key, the wire form of its value, and only wire
forms that fit a frame (`Represents`). Every call keeps that (`step_refines`), and so does a run
of calls (`run_serves`).
-/
namespace AtomicKv

/-- What is stored, by key. -/
abbrev Contents := Key → Option Value

namespace Contents

def empty : Contents :=
  fun _ => none

def put (m : Contents) (key : Key) (value : Value) : Contents :=
  fun other => if other = key then some value else m other

/-- What a call answers, and what is stored behind it. -/
def apply (m : Contents) : Call → Answer × Contents
  | .read key =>
    match m key with
    | some current => (.ok (some current), m)
    | none => (.error .notFound, m)
  | .write key value => (.ok none, m.put key value)
  | .testAndSet key expected value =>
    match m key with
    | some current =>
      if current = expected then (.ok none, m.put key value) else (.error (.keyChanged current), m)
    | none => (.error .notFound, m)

/-- As `apply`, but a call that does not fit a frame is refused and changes nothing. -/
def step (m : Contents) (call : Call) : Answer × Contents :=
  if Frame.maxPayload < call.command.payloadSize then (.error (Call.tooLarge call.command), m)
  else m.apply call

def run (m : Contents) : List Call → List Answer × Contents
  | [] => ([], m)
  | call :: calls =>
    let (answer, m) := m.step call
    let (answers, m) := m.run calls
    (answer :: answers, m)

end Contents

/-- Clients make calls, one after another: the answers, and the cluster behind them. Nothing
when there is no such client. -/
def Cluster.run (k : Cluster) : List (Nat × Call) → Option (List Answer × Cluster)
  | [] => some ([], k)
  | (client, call) :: calls => do
    let (answer, k) ← k.step client (.call call)
    let (answers, k) ← k.run calls
    return (answer :: answers, k)

/-- A store that holds exactly the wire forms of some contents, each short enough for a frame. -/
structure Represents (store : Store) (m : Contents) : Prop where
  get?_eq : ∀ key : Key, store.get? key.bytes = (m key).map Value.wire
  short : ∀ key value, m key = some value → value.wire.length ≤ Frame.maxPayload

namespace Represents

variable {store : Store} {m : Contents}

theorem empty : Represents .empty .empty where
  get?_eq _ := rfl
  short _ _ none_stored := nomatch none_stored

theorem insert (rep : Represents store m) (key : Key) {value : Value}
    (short : value.wire.length ≤ Frame.maxPayload) :
    Represents (store.insert key.bytes value.wire) (m.put key value) where
  get?_eq other := by
    have same : other.bytes = key.bytes ↔ other = key := by
      cases other
      cases key
      simp
    rw [Store.get?_insert, Contents.put]
    by_cases here : other = key
    · rw [if_pos (same.mpr here), if_pos here, Option.map_some]
    · rw [if_neg (fun eq => here (same.mp eq)), if_neg here, rep.get?_eq]
  short other value' stored := by
    unfold Contents.put at stored
    split at stored
    · cases stored
      exact short
    · exact rep.short other value' stored

theorem sized (rep : Represents store m) {key : Key} {value : Value} (stored : m key = some value) :
    value.Sized :=
  sized_of_short (rep.short key value stored)

end Represents

/-- The reply and the store that a node answers a command with mean the answer and the contents
that are expected. -/
structure Means (call : Call) (replied : Reply × Store) (expected : Answer × Contents) : Prop where
  fits : replied.1.body.length ≤ Frame.maxPayload
  answer_eq : call.classify (Outcome.ofPayload replied.1.body replied.1.status) = expected.1
  represents : Represents replied.2 expected.2

/-- Executing the command of a call on the wire forms is applying the call to the values. -/
theorem execute_means {store : Store} {m : Contents} (rep : Represents store m) {call : Call}
    (fits : call.command.payloadSize ≤ Frame.maxPayload) :
    Means call (store.execute call.command) (m.apply call) := by
  cases call with
  | read key =>
    have stored := rep.get?_eq key
    cases current : m key with
    | none =>
      simp only [current, Option.map_none] at stored
      simp only [Call.command, Store.execute, stored, Contents.apply, current]
      exact ⟨Nat.zero_le _, rfl, rep⟩
    | some value =>
      simp only [current, Option.map_some] at stored
      simp only [Call.command, Store.execute, stored, Contents.apply, current]
      refine ⟨rep.short key value current, ?_, rep⟩
      exact congrArg (Call.classify _)
        (Outcome.ofPayload_ok_of_begins (rep.short key value current) List.prefix_rfl)
  | write key value =>
    have short : value.wire.length ≤ Frame.maxPayload :=
      Command.short_of_field fits (List.mem_cons_of_mem _ List.mem_cons_self)
    exact ⟨Nat.zero_le _, rfl, rep.insert key short⟩
  | testAndSet key expected value =>
    have expected_short : expected.wire.length ≤ Frame.maxPayload :=
      Command.short_of_field fits (List.mem_cons_of_mem _ List.mem_cons_self)
    have short : value.wire.length ≤ Frame.maxPayload :=
      Command.short_of_field fits
        (List.mem_cons_of_mem _ (List.mem_cons_of_mem _ List.mem_cons_self))
    have stored := rep.get?_eq key
    cases found : m key with
    | none =>
      simp only [found, Option.map_none] at stored
      simp only [Call.command, Store.execute, Store.testAndSet, stored, Contents.apply, found]
      exact ⟨Nat.zero_le _, rfl, rep⟩
    | some current =>
      simp only [found, Option.map_some] at stored
      -- the store compares wire forms, the contents compare values
      have equal : current.wire = expected.wire ↔ current = expected :=
        Value.wire_inj (rep.sized found) (sized_of_short expected_short)
      simp only [Call.command, Store.execute, Store.testAndSet, stored, Contents.apply, found]
      by_cases same : current = expected
      · rw [if_pos (equal.mpr same), if_pos same]
        exact ⟨Nat.zero_le _, rfl, rep.insert key short⟩
      · rw [if_neg (fun eq => same (equal.mp eq)), if_neg same]
        refine ⟨rep.short key current found, ?_, rep⟩
        exact congrArg (Call.classify _)
          (Outcome.ofPayload_keyChanged_of_begins (rep.short key current found) List.prefix_rfl)

namespace Cluster

/-- A node that serves some contents to clients that all wait for nothing. -/
structure Serves (k : Cluster) (m : Contents) : Prop where
  represents : Represents k.store m
  running : k.running = true
  idle : ∀ n c, k.clients n = some c → c.Idle

/-- A call of a client is answered as the contents say, changes them as they say, and leaves all
clients as they were. -/
theorem step_refines {k : Cluster} {m : Contents} (serves : k.Serves m) {n : Nat}
    (connected : (k.clients n).isSome) (call : Call) :
    ∃ k', k.step n (.call call) = some ((m.step call).1, k') ∧ k'.Serves (m.step call).2 ∧
      k'.clients = k.clients := by
  obtain ⟨c, client⟩ := Option.isSome_iff_exists.mp connected
  have idle := serves.idle n c client
  by_cases large : Frame.maxPayload < call.command.payloadSize
  · refine ⟨k, ?_, ?_, rfl⟩
    · rw [step_call_of_large client idle.opened large, Contents.step, if_pos large]
    · rw [Contents.step, if_pos large]
      exact serves
  · have fits := Nat.le_of_not_lt large
    have means := execute_means serves.represents fits
    refine ⟨{ k with store := (k.store.execute call.command).2 }, ?_, ?_, rfl⟩
    · rw [step_call serves.running client idle fits means.fits, Outcome.ofFrame_encode means.fits,
        means.answer_eq, Contents.step, if_neg large]
    · rw [Contents.step, if_neg large]
      exact ⟨means.represents, serves.running, serves.idle⟩

theorem run_serves {k : Cluster} {m : Contents} (serves : k.Serves m) {calls : List (Nat × Call)}
    (connected : ∀ next ∈ calls, (k.clients next.1).isSome) :
    ∃ k', k.run calls = some ((m.run (calls.map Prod.snd)).1, k') ∧
      k'.Serves (m.run (calls.map Prod.snd)).2 ∧ k'.clients = k.clients := by
  induction calls generalizing k m with
  | nil => exact ⟨k, rfl, serves, rfl⟩
  | cons next calls ih =>
    obtain ⟨client, later⟩ := List.forall_mem_cons.mp connected
    obtain ⟨k₁, stepped, serves₁, same₁⟩ := step_refines serves client next.2
    rw [← same₁] at later
    obtain ⟨k₂, ran, serves₂, same₂⟩ := ih serves₁ later
    refine ⟨k₂, ?_, serves₂, same₂.trans same₁⟩
    rw [run, stepped]
    simp only [Option.bind_eq_bind, Option.bind_some, ran]
    rfl

/-- Clients of a node that is empty at first see a map from keys to values, and the store holds the
wire form of each value of the map. -/
theorem run_refines {k : Cluster} (empty : k.store = .empty) (running : k.running = true)
    (idle : ∀ n c, k.clients n = some c → c.Idle) {calls : List (Nat × Call)}
    (connected : ∀ next ∈ calls, (k.clients next.1).isSome) :
    let expected := Contents.run .empty (calls.map Prod.snd)
    ∃ k', k.run calls = some (expected.1, k') ∧
      (∀ n c, k'.clients n = some c → c.isOpen = true) ∧ k'.clients = k.clients ∧
      ∀ bytes, k'.store.get? bytes = (expected.2 ⟨bytes⟩).map Value.wire := by
  intro expected
  have serves : k.Serves .empty := ⟨empty ▸ Represents.empty, running, idle⟩
  obtain ⟨k', ran, serves', same⟩ := run_serves serves connected
  refine ⟨k', ran, fun n c client => (serves'.idle n c client).opened, same, fun bytes => ?_⟩
  exact serves'.represents.get?_eq ⟨bytes⟩

/-- One client writes, another one replaces what was written, and the first one reads that. -/
theorem run_refines_two_clients :
    let k := ((({} : Cluster).connect 0 "node" "a").connect 1 "node" "b")
    let key : Key := ⟨[7]⟩
    let calls : List (Nat × Call) :=
      [(0, .write key (.bool true)), (1, .testAndSet key (.bool true) (.list [])), (0, .read key)]
    k.store = .empty ∧ k.running = true ∧ (∀ n c, k.clients n = some c → c.Idle) ∧
      (∀ next ∈ calls, (k.clients next.1).isSome) ∧
      ∃ k', k.run calls = some ([.ok none, .ok none, .ok (some (.list []))], k') ∧
        k'.store.get? [7] = some (Value.list []).wire := by
  intro k key calls
  have idle : ∀ n c, k.clients n = some c → c.Idle := by
    intro n c client
    simp only [k, connect, withClient] at client
    split at client
    · cases client
      exact ⟨rfl, rfl⟩
    · split at client
      · cases client
        exact ⟨rfl, rfl⟩
      · cases client
  have connected : ∀ next ∈ calls, (k.clients next.1).isSome := by decide
  obtain ⟨k', ran, -, -, stored⟩ := run_refines rfl rfl idle connected
  refine ⟨rfl, rfl, idle, connected, k', ran, stored [7]⟩

end Cluster
end AtomicKv
