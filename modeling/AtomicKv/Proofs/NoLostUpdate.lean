import AtomicKv.Proofs.SessionRun
import Mathlib.Logic.Function.Iterate

/-!
# No update is lost

Clients change the value under a key by test-and-set only, each to the image under a function `f`
of what it expects to find there. Expectations may be stale, commands on other keys may come
between. Then the value is changed by `f` once for each test-and-set that is told of its success,
and by nothing else; and whoever is told the value is told what those before it made of it.

One command takes the value by `f` or leaves it (`get?_execute_of_advances`), which carries over
to a run of commands (`get?_after_of_advance`). A reply in a run is one to a command that is
executed behind the commands before it (`history_eq_append`).
-/
namespace AtomicKv

/-- A read, or a test-and-set that would replace what it expects by the image of that. -/
inductive Command.Advances (f : Bytes → Bytes) : Command → Prop
  | read (key : Bytes) : Advances f (.read key)
  | testAndSet (key expected : Bytes) : Advances f (.testAndSet key expected (f expected))

namespace Store

/-- Commands that are executed one after another, each with the reply to it. -/
def history (store : Store) : List Command → List (Command × Reply)
  | [] => []
  | c :: commands => (c, (store.execute c).1) :: (store.execute c).2.history commands

/-- A test-and-set on a key that is told of its success. -/
def isSwap (key : Bytes) : Command × Reply → Bool
  | (.testAndSet other _ _, reply) => other = key ∧ reply.status = .ok
  | _ => false

def swaps (key : Bytes) (history : List (Command × Reply)) : Nat :=
  history.countP (isSwap key)

/-- Where the history of a run is split, the commands are, and the reply there is that of a store
after the commands in front. -/
theorem history_eq_append {store : Store} {commands : List Command}
    {past future : List (Command × Reply)} {c : Command} {reply : Reply}
    (split : store.history commands = past ++ (c, reply) :: future) :
    ∃ before behind, commands = before ++ c :: behind ∧ past = store.history before ∧
      reply = ((store.after before).execute c).1 := by
  induction past generalizing store commands with
  | nil =>
    cases commands with
    | nil => cases split
    | cons first commands =>
      cases split
      exact ⟨[], commands, rfl, rfl, rfl⟩
  | cons event past ih =>
    cases commands with
    | nil => cases split
    | cons first commands =>
      obtain ⟨rfl, later⟩ := List.cons.inj split
      obtain ⟨before, behind, rfl, rfl, answered⟩ := ih later
      exact ⟨first :: before, behind, rfl, rfl, answered⟩

theorem isSwap_of_ne {key : Bytes} {c : Command} (other : c.key ≠ key) (reply : Reply) :
    isSwap key (c, reply) = false := by
  cases c with
  | testAndSet k expected value => exact decide_eq_false fun swap => other swap.1
  | read k => rfl
  | write k value => rfl

section Advance

variable {f : Bytes → Bytes} {store : Store} {key v : Bytes}

/-- A command takes the value under a key by `f` when it is a swap that succeeds, and else leaves
it. -/
theorem get?_execute_of_advances {c : Command} (held : store.get? key = some v)
    (advances : c.key = key → c.Advances f) :
    (store.execute c).2.get? key =
      some (if isSwap key (c, (store.execute c).1) then f v else v) := by
  by_cases here : c.key = key
  · cases advances here with
    | read k =>
      obtain rfl : k = key := here
      rw [execute_read_of_held held]
      exact held
    | testAndSet k expected =>
      obtain rfl : k = key := here
      rw [execute_testAndSet_of_held held]
      by_cases same : v = expected
      · subst same
        simp [isSwap, Reply.ok]
      · simp [isSwap, Reply.keyChanged, same, held]
  · rw [get?_execute_of_ne store here, isSwap_of_ne here, held]
    rfl

/-- The value under a key after a run is its first one, taken by `f` once for each swap. -/
theorem get?_after_of_advance (held : store.get? key = some v) {commands : List Command}
    (advance : ∀ c ∈ commands, c.key = key → c.Advances f) :
    (store.after commands).get? key = some (f^[swaps key (store.history commands)] v) := by
  induction commands generalizing store v with
  | nil => exact held
  | cons c commands ih =>
    obtain ⟨first, later⟩ := List.forall_mem_cons.mp advance
    have stepped := get?_execute_of_advances held first
    have ran := ih stepped later
    -- the first command counts for one application of `f`, or for none
    refine ran.trans (congrArg some ?_)
    rw [history, swaps, swaps, List.countP_cons]
    by_cases swap : isSwap key (c, (store.execute c).1)
    · rw [if_pos swap, if_pos swap, Function.iterate_succ_apply]
    · rw [if_neg swap, if_neg swap, Nat.add_zero]

/-- Increments of an encoded integer add up. -/
theorem iterate_increment {encode : Int → Bytes} {start : Int} {m : Nat}
    (increments : ∀ n : Nat, n < m → f (encode (start + n)) = encode (start + n + 1)) :
    f^[m] (encode start) = encode (start + m) := by
  induction m with
  | zero => exact congrArg encode (Int.add_zero start).symm
  | succ m ih =>
    have earlier := ih fun n bound => increments n (Nat.lt_succ_of_lt bound)
    rw [Function.iterate_succ_apply', earlier, increments m (Nat.lt_succ_self m)]
    exact congrArg encode (Int.add_assoc start m 1)

/-- Where a key is only read and updated by test-and-set from a value to its image under `f`, its
value is the first one with `f` applied once for each success. -/
theorem no_lost_update (held : store.get? key = some v) {commands : List Command}
    (advance : ∀ c ∈ commands, c.key = key → c.Advances f) :
    let history := store.history commands
    (store.after commands).get? key = some (f^[swaps key history] v) ∧
      (∀ past reply future, history = past ++ (.read key, reply) :: future →
        reply = .ok (some (f^[swaps key past] v))) ∧
      (∀ past expected value reply future,
        history = past ++ (.testAndSet key expected value, reply) :: future →
          reply = if f^[swaps key past] v = expected then .ok none
            else .keyChanged (f^[swaps key past] v)) ∧
      (∀ past past', past <+: past' → past' <+: history → swaps key past ≤ swaps key past') ∧
      ∀ (encode : Int → Bytes) (start : Int), v = encode start →
        (∀ n : Nat, n < swaps key history → f (encode (start + n)) = encode (start + n + 1)) →
          (store.after commands).get? key = some (encode (start + swaps key history)) := by
  intro history
  have final := get?_after_of_advance held advance
  have held_before : ∀ {before behind : List Command} {c : Command},
      commands = before ++ c :: behind →
        (store.after before).get? key = some (f^[swaps key (store.history before)] v) :=
    fun eq => get?_after_of_advance held fun c member =>
      advance c (eq ▸ List.mem_append_left _ member)
  refine ⟨final, ?_, ?_, ?_, ?_⟩
  · intro past reply future split
    obtain ⟨before, behind, eq, rfl, rfl⟩ := history_eq_append split
    rw [execute_read_of_held (held_before eq)]
  · intro past expected value reply future split
    obtain ⟨before, behind, eq, rfl, rfl⟩ := history_eq_append split
    rw [execute_testAndSet_of_held (held_before eq)]
    split <;> rfl
  · intro past past' beginning _
    exact beginning.sublist.countP_le
  · rintro encode start rfl increments
    rw [final, iterate_increment increments]

end Advance

/-- Two clients read a counter of eight bytes and both try to increment it, while a third one
writes elsewhere. The later one fails, is told the new value, and succeeds from there. -/
theorem no_lost_update_counter :
    let digits : Int → Bytes := fun n => Bytes.bigEndian 8 n.toNat
    let increment : Bytes → Bytes := fun bytes => Bytes.bigEndian 8 (Bytes.ofBigEndian bytes + 1)
    let swap : Int → Command := fun n => .testAndSet [7] (digits n) (increment (digits n))
    let store := empty.insert [7] (digits 255)
    let commands : List Command :=
      [.read [7], .read [7], swap 255, .write [8] [], swap 255, swap 256]
    store.get? [7] = some (digits 255) ∧
      (∀ c ∈ commands, c.key = [7] → c.Advances increment) ∧
      (∀ n : Nat, n < 2 → increment (digits (255 + n)) = digits (255 + n + 1)) ∧
      swaps [7] (store.history commands) = 2 ∧
      (store.after commands).get? [7] = some (digits 257) := by
  intro digits increment swap store commands
  have held : store.get? [7] = some (digits 255) := by decide
  have advance : ∀ c ∈ commands, c.key = [7] → c.Advances increment := by
    intro c member here
    simp only [commands, List.mem_cons, List.not_mem_nil, or_false] at member
    obtain rfl | rfl | rfl | rfl | rfl | rfl := member
    · exact .read _
    · exact .read _
    · exact .testAndSet _ _
    · cases here
    · exact .testAndSet _ _
    · exact .testAndSet _ _
  have increments : ∀ n : Nat, n < 2 → increment (digits (255 + n)) = digits (255 + n + 1) := by
    decide
  have twice : swaps [7] (store.history commands) = 2 := by decide
  obtain ⟨-, -, -, -, counter⟩ := no_lost_update held advance
  have final := counter digits 255 rfl (twice.symm ▸ increments)
  rw [twice] at final
  exact ⟨held, advance, increments, twice, final⟩

end Store
end AtomicKv
