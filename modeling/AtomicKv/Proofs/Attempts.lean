import AtomicKv.Dial
import Mathlib.Algebra.Group.Nat.Defs

/-!
# Attempts at a connection

Attempts are made one after another, each at the node that its number and the start say, until one
succeeds or the last one that is allowed fails (`attempts_recorded`). What a caller is told is the
outcome of the last attempt that was made, under its node. The place of a node in the list is a
64-bit sum taken around the list, so there is one whatever the cursor says (`getElem?_place`), and
the cursor moves on when a connection begins, not with its attempts.
-/
namespace AtomicKv

inductive DialStep where
  | attempt (number : Nat) (node : String)
  | pause (milliseconds : UInt64)
  deriving DecidableEq, Repr

variable {α : Type}

/-- Attempts whose outcomes are given, by number and node. What is done is written down. -/
def Dialling.recorded (outcome : Nat → String → Except Fault α) :
    Dialling (StateM (List DialStep)) α where
  attempt number node := fun log => (outcome number node, log ++ [.attempt number node])
  pause milliseconds := fun log => ((), log ++ [.pause milliseconds])

namespace Policy

theorem start_of_ordered {p : Policy} (ordered : p.nodeSelection = .ordered) (cursor : UInt64) :
    p.start cursor = (0, cursor) := by
  rw [start, ordered]

theorem start_of_roundRobin {p : Policy} (in_turn : p.nodeSelection = .roundRobin)
    (cursor : UInt64) : p.start cursor = (cursor, cursor + 1) := by
  rw [start, in_turn]

def pauses (p : Policy) : List DialStep :=
  (bound? p.retryDelayMs).toList.map .pause

/-- Some attempts in a row, with the waits between them. -/
def trail (p : Policy) (node : Nat → String) (first count : Nat) : List DialStep :=
  p.pauses.intercalate ((List.range' first count).map fun i => [.attempt i (node i)])

theorem trail_one (p : Policy) (node : Nat → String) (first : Nat) :
    p.trail node first 1 = [.attempt first (node first)] := by
  simp [trail]

theorem trail_succ (p : Policy) (node : Nat → String) (first count : Nat) :
    p.trail node first (count + 2) =
      .attempt first (node first) :: (p.pauses ++ p.trail node (first + 1) (count + 1)) := by
  simp [trail, List.range'_succ, List.intercalate_cons_cons]

/-- The attempts end with number `last`: it is the first that succeeds, or the last of them all. -/
structure EndsAt (outcome : Nat → Except Fault α) (first more last : Nat) : Prop where
  from_first : first ≤ last
  within : last ≤ first + more
  failed : ∀ i, first ≤ i → i < last → ∃ f, outcome i = .error f
  settled : (∃ link, outcome last = .ok link) ∨ last = first + more

theorem EndsAt.here {outcome : Nat → Except Fault α} {first more : Nat}
    (settled : (∃ link, outcome first = .ok link) ∨ more = 0) :
    EndsAt outcome first more first where
  from_first := Nat.le_refl first
  within := Nat.le_add_right first more
  failed i later earlier := absurd earlier (Nat.not_lt.mpr later)
  settled := settled.imp_right fun none_left => by rw [none_left, Nat.add_zero]

theorem EndsAt.later {outcome : Nat → Except Fault α} {first more last : Nat} {f : Fault}
    (failed : outcome first = .error f) (ends : EndsAt outcome (first + 1) more last) :
    EndsAt outcome first (more + 1) last where
  from_first := Nat.le_of_succ_le ends.from_first
  within := by have := ends.within; omega
  failed i later earlier := by
    by_cases same : i = first
    · exact ⟨f, same ▸ failed⟩
    · exact ends.failed i (by omega) earlier
  settled := ends.settled.imp_right fun all => by omega

/-- What the attempts come to when the last one that is made has the given outcome. -/
def reached (node : String) : Except Fault α → Except (String × Fault) (String × α)
  | .ok link => .ok (node, link)
  | .error f => .error (node, f)

section Recorded

variable {p : Policy} {some_node : p.nodes ≠ []} {start : UInt64}
  {outcome : Nat → String → Except Fault α} {first more : Nat} {node : String}

/-- An attempt is written down before anything is done with its outcome. -/
theorem run_attempt_bind {β : Type} (next : Except Fault α → StateM (List DialStep) β)
    (log : List DialStep) :
    ((Dialling.recorded outcome).attempt first node >>= next).run log =
      (next (outcome first node)).run (log ++ [.attempt first node]) :=
  rfl

theorem attempts_of_ok {link : α} (here : nodeAt p.nodes some_node start first = node)
    (succeeded : outcome first node = .ok link) (log : List DialStep) :
    (p.attempts (.recorded outcome) some_node start first more).run log =
      (.ok (node, link), log ++ [.attempt first node]) := by
  cases more with
  | zero | succ more =>
    rw [attempts, here, run_attempt_bind, succeeded]
    rfl

theorem attempts_of_last {f : Fault} (here : nodeAt p.nodes some_node start first = node)
    (failed : outcome first node = .error f) (log : List DialStep) :
    (p.attempts (.recorded outcome) some_node start first 0).run log =
      (.error (node, f), log ++ [.attempt first node]) := by
  rw [attempts, here, run_attempt_bind, failed]
  rfl

/-- Behind a failure come the wait, if there is one, and the other attempts. -/
theorem attempts_of_error {f : Fault} (here : nodeAt p.nodes some_node start first = node)
    (failed : outcome first node = .error f) (log : List DialStep) :
    (p.attempts (.recorded outcome) some_node start first (more + 1)).run log =
      (p.attempts (.recorded outcome) some_node start (first + 1) more).run
        (log ++ [.attempt first node] ++ p.pauses) := by
  rw [attempts, here, run_attempt_bind, failed, pauses]
  cases bound? p.retryDelayMs with
  | none =>
    rw [Option.toList_none, List.map_nil, List.append_nil]
  | some delay => rfl

end Recorded

/-- Attempts are made up to the first success or the last one that is allowed. -/
theorem attempts_recorded (p : Policy) (some_node : p.nodes ≠ []) (start : UInt64)
    (outcome : Nat → String → Except Fault α) (first more : Nat) (log : List DialStep) :
    let node := nodeAt p.nodes some_node start
    ∃ last, EndsAt (fun i => outcome i (node i)) first more last ∧
      (p.attempts (.recorded outcome) some_node start first more).run log =
        (reached (node last) (outcome last (node last)),
          log ++ p.trail node first (last - first + 1)) := by
  intro node
  have alone (i : Nat) : p.trail node i (i - i + 1) = [.attempt i (node i)] := by
    rw [Nat.sub_self, Nat.zero_add, trail_one]
  induction more generalizing first log with
  | zero =>
    refine ⟨first, .here (.inr rfl), ?_⟩
    rw [alone]
    cases result : outcome first (node first) with
    | ok link => exact attempts_of_ok rfl result log
    | error f => exact attempts_of_last rfl result log
  | succ more ih =>
    cases result : outcome first (node first) with
    | ok link =>
      refine ⟨first, .here (.inl ⟨link, result⟩), ?_⟩
      rw [alone, result]
      exact attempts_of_ok rfl result log
    | error f =>
      rw [attempts_of_error rfl result]
      obtain ⟨last, ends, ran⟩ := ih (first + 1) (log ++ [.attempt first (node first)] ++ p.pauses)
      refine ⟨last, ends.later result, ran.trans ?_⟩
      have count : last - first + 1 = last - (first + 1) + 2 := by
        have := ends.from_first
        omega
      rw [count, trail_succ, List.append_assoc, List.append_assoc, List.singleton_append]

def told (p : Policy) (node : String) : Except Fault α → Except ClientError (String × α)
  | .ok link => .ok (node, link)
  | .error f => .error (p.exhausted node f)

/-- A policy with nodes makes attempts from its start, and moves the cursor on once. -/
theorem dial_recorded (p : Policy) (some_node : p.nodes ≠ [])
    (outcome : Nat → String → Except Fault α) (cursor : UInt64) (log : List DialStep) :
    let node := nodeAt p.nodes some_node (p.start cursor).1
    ∃ last, EndsAt (fun i => outcome i (node i)) 0 (p.maxAttempts.toNat - 1) last ∧
      (p.dial (.recorded outcome) cursor).run log =
        ((p.told (node last) (outcome last (node last)), (p.start cursor).2),
          log ++ p.trail node 0 (last + 1)) := by
  cases started : p.start cursor with
  | mk start next =>
    intro node
    obtain ⟨last, ends, ran⟩ :=
      p.attempts_recorded some_node start outcome 0 (p.maxAttempts.toNat - 1) log
    refine ⟨last, ends, ?_⟩
    rw [dial_of_valid some_node, started]
    dsimp only
    rw [StateT.run_bind, ran]
    change StateT.run _ _ = _
    cases outcome last (node last) with
    | ok link | error f => rfl

theorem toNat_maxAttempts (p : Policy) :
    p.maxAttempts.toNat = min (p.maxRetries.toNat + 1) (UInt32.size - 1) := by
  have bound := p.maxRetries.toNat_lt_size
  unfold maxAttempts
  split
  · rename_i most
    rw [most]
    rfl
  · rename_i less
    have below : p.maxRetries.toNat ≠ 4294967295 := fun most => less (UInt32.toNat_inj.mp most)
    rw [UInt32.toNat_add]
    change (p.maxRetries.toNat + 1) % 4294967296 = min (p.maxRetries.toNat + 1) 4294967295
    change p.maxRetries.toNat < 4294967296 at bound
    omega

theorem maxAttempts_pos (p : Policy) : 0 < p.maxAttempts.toNat := by
  rw [toNat_maxAttempts]
  exact Nat.lt_min.mpr ⟨Nat.succ_pos _, by decide⟩

/-- The place in the list of the node of an attempt. -/
def place (p : Policy) (cursor : UInt64) (attempt : Nat) : Nat :=
  ((p.start cursor).1.toNat + attempt) % UInt64.size % p.nodes.length

theorem getElem?_place (p : Policy) (some_node : p.nodes ≠ []) (cursor : UInt64) (attempt : Nat) :
    p.nodes[p.place cursor attempt]? =
      some (nodeAt p.nodes some_node (p.start cursor).1 attempt) := by
  have sum : ((p.start cursor).1 + UInt64.ofNat attempt).toNat =
      ((p.start cursor).1.toNat + attempt) % UInt64.size := by
    rw [UInt64.toNat_add, UInt64.toNat_ofNat']
    exact Nat.add_mod_mod _ _ _
  rw [place, ← sum, List.getElem?_eq_getElem (Nat.mod_lt _ (List.length_pos_iff.mpr some_node))]
  rfl

/-- What a policy does to make a connection, whatever comes of the single attempts: which it makes,
in what order, with what waits, and what it answers. -/
theorem dial_exact (p : Policy) (outcome : Nat → String → Except Fault α) (cursor : UInt64)
    (log : List DialStep) :
    let ran := (p.dial (.recorded outcome) cursor).run log
    let allowed := min (p.maxRetries.toNat + 1) (UInt32.size - 1)
    (p.nodes = [] → ran = ((.error (.connection "no nodes configured"), cursor), log)) ∧
    (p.nodes ≠ [] → ∃ (node : Nat → String) (last : Nat) (answer : Except ClientError (String × α)),
      (∀ i, p.place cursor i < p.nodes.length ∧ p.nodes[p.place cursor i]? = some (node i)) ∧
      last < allowed ∧ (∀ i ≤ last, i + 1 < UInt32.size) ∧
      (∀ i < last, ∃ f, outcome i (node i) = .error f) ∧
      ((∃ link, outcome last (node last) = .ok link ∧ answer = .ok (node last, link)) ∨
        ∃ f, outcome last (node last) = .error f ∧ last + 1 = allowed ∧
          answer = .error (.connection ("could not connect after " ++ toString allowed
            ++ " attempt(s), last error: " ++ node last ++ ": " ++ f.message))) ∧
      ran = ((answer, match p.nodeSelection with
          | .ordered => cursor
          | .roundRobin => cursor + 1),
        log ++ p.pauses.intercalate
          ((List.range (last + 1)).map fun i => [.attempt i (node i)]))) := by
  intro ran allowed
  have allowed_eq : p.maxAttempts.toNat = allowed := p.toNat_maxAttempts
  have most : allowed ≤ UInt32.size - 1 := Nat.min_le_right _ _
  constructor
  · intro none_there
    change (p.dial (.recorded outcome) cursor).run log = _
    rw [dial_of_invalid (if_pos none_there)]
    rfl
  · intro some_node
    let node := nodeAt p.nodes some_node (p.start cursor).1
    obtain ⟨last, ends, dialled⟩ := p.dial_recorded some_node outcome cursor log
    have positive := p.maxAttempts_pos
    have within := ends.within
    have last_lt : last < allowed := by omega
    refine ⟨node, last, p.told (node last) (outcome last (node last)), fun i => ⟨?_, ?_⟩, last_lt,
      ?_, fun i earlier => ends.failed i (Nat.zero_le i) earlier, ?_, ?_⟩
    · exact Nat.mod_lt _ (List.length_pos_iff.mpr some_node)
    · exact p.getElem?_place some_node cursor i
    · intro i before
      have range : 0 < UInt32.size := by decide
      omega
    · cases result : outcome last (node last) with
      | ok link => exact Or.inl ⟨link, rfl, rfl⟩
      | error f =>
        refine Or.inr ⟨f, rfl, ?_, ?_⟩
        · obtain ⟨link, succeeded⟩ | all := ends.settled
          · rw [result] at succeeded
            cases succeeded
          · omega
        · rw [← allowed_eq]
          rfl
    · have moved : (p.start cursor).2 = match p.nodeSelection with
          | .ordered => cursor
          | .roundRobin => cursor + 1 := by
        cases selection : p.nodeSelection with
        | ordered => rw [start_of_ordered selection]
        | roundRobin => rw [start_of_roundRobin selection]
      rw [← moved, List.range_eq_range']
      exact dialled

/-- Two nodes in turn from the last value of the cursor: the second attempt goes on behind the wrap,
its fault is the one that is told, and the cursor begins again. -/
theorem dial_exact_two_nodes :
    let p : Policy := { nodes := ["a", "b"], maxRetries := 1 }
    let outcome (i : Nat) (_ : String) : Except Fault Unit :=
      .error (if i = 0 then .ofKind .connectionRefused else .ofKind .timedOut)
    p.nodes ≠ [] ∧ (p.dial (.recorded outcome) 0xFFFFFFFFFFFFFFFF).run [] =
      ((.error (.connection "could not connect after 2 attempt(s), last error: a: timed out"), 0),
        [.attempt 0 "b", .pause 100, .attempt 1 "a"]) := by
  intro p outcome
  have some_node : p.nodes ≠ [] := List.cons_ne_nil _ _
  obtain ⟨-, nodes⟩ := p.dial_exact outcome 0xFFFFFFFFFFFFFFFF []
  obtain ⟨node, last, answer, places, last_lt, -, -, told, ran⟩ := nodes some_node
  have first : node 0 = "b" := Option.some.inj ((places 0).2.symm.trans (by decide))
  have second : node 1 = "a" := Option.some.inj ((places 1).2.symm.trans (by decide))
  obtain ⟨link, succeeded, -⟩ | ⟨f, failed, all, rfl⟩ := told
  · cases succeeded
  · obtain rfl : last = 1 := Nat.succ.inj all
    cases failed
    have made : (List.range 2).map (fun i => [DialStep.attempt i (node i)]) =
        [[.attempt 0 "b"], [.attempt 1 "a"]] := by
      rw [← first, ← second]
      rfl
    refine ⟨some_node, ran.trans ?_⟩
    have text : "could not connect after " ++ toString (min (p.maxRetries.toNat + 1)
        (UInt32.size - 1)) ++ " attempt(s), last error: " ++ "a" ++ ": "
        ++ (Fault.ofKind .timedOut).message =
          "could not connect after 2 attempt(s), last error: a: timed out" := by
      decide
    rw [made, second, if_neg Nat.one_ne_zero, text]
    rfl

end Policy
end AtomicKv
