import AtomicKv.Proofs.Attempts
import Mathlib.Data.Int.CardIntervalMod

/-!
# Connections in turn

A policy that takes its nodes in turn begins each connection one place further along the list than
the connection before, whatever came of that one: the cursor moves when a connection begins, however
many attempts it takes and however it ends (`dial_begins`). As long as the cursor does not wrap
around, the places where connections begin are therefore the remainders of their numbers, so that no
place gets more than one connection ahead of another (`dials_spread`). A policy that takes its nodes
in order begins each connection at the first one.
-/
namespace AtomicKv.Policy

variable {α : Type}

/-- One connection of several: the cursor that it was begun with, what was told of it and what was
done for it. -/
structure Dialled (α : Type) where
  cursor : UInt64
  answer : Except ClientError (String × α)
  log : List DialStep

/-- Connections made one after another, numbered from `first`, each from where the one before left
the cursor. Each has outcomes of its own. -/
def dials (p : Policy) (outcome : Nat → Nat → String → Except Fault α) (cursor : UInt64)
    (first : Nat) : (count : Nat) → List (Dialled α)
  | 0 => []
  | count + 1 =>
    let ((answer, next), log) := (p.dial (.recorded (outcome first)) cursor).run []
    ⟨cursor, answer, log⟩ :: p.dials outcome next (first + 1) count

theorem head?_trail (p : Policy) (node : Nat → String) (first count : Nat) :
    (p.trail node first (count + 1)).head? = some (.attempt first (node first)) := by
  cases count with
  | zero => rw [trail_one, List.head?_cons]
  | succ count => rw [trail_succ, List.head?_cons]

/-- A connection begins with an attempt at the place that the cursor says, and the cursor moves on
for it; neither depends on what comes of any attempt. -/
theorem dial_begins (p : Policy) (some_node : p.nodes ≠ [])
    (outcome : Nat → String → Except Fault α) (cursor : UInt64) :
    ∃ answer log, (p.dial (.recorded outcome) cursor).run [] =
        ((answer, (p.start cursor).2), log) ∧
      log.head? = p.nodes[p.place cursor 0]?.map (.attempt 0) := by
  obtain ⟨last, -, ran⟩ := p.dial_recorded some_node outcome cursor []
  refine ⟨_, _, ran, ?_⟩
  rw [List.nil_append, head?_trail, p.getElem?_place some_node cursor 0, Option.map_some]

def cursorAfter (p : Policy) (cursor : UInt64) (count : Nat) : UInt64 :=
  match p.nodeSelection with
  | .ordered => cursor
  | .roundRobin => cursor + UInt64.ofNat count

theorem cursorAfter_zero (p : Policy) (cursor : UInt64) : p.cursorAfter cursor 0 = cursor := by
  unfold cursorAfter
  split
  · rfl
  · exact UInt64.add_zero cursor

theorem cursorAfter_succ (p : Policy) (cursor : UInt64) (count : Nat) :
    p.cursorAfter (p.start cursor).2 count = p.cursorAfter cursor (count + 1) := by
  unfold cursorAfter start
  cases p.nodeSelection with
  | ordered => rfl
  | roundRobin =>
    dsimp only
    rw [UInt64.add_assoc, Nat.add_comm count 1, UInt64.ofNat_add]
    rfl

/-- Every connection of a run begins where the number of connections before it says. -/
theorem dials_begin (p : Policy) (some_node : p.nodes ≠ [])
    (outcome : Nat → Nat → String → Except Fault α) (cursor : UInt64) (first count : Nat) :
    let made := p.dials outcome cursor first count
    made.map Dialled.cursor = (List.range count).map (p.cursorAfter cursor) ∧
      ∀ c ∈ made, c.log.head? = p.nodes[p.place c.cursor 0]?.map (.attempt 0) := by
  induction count generalizing cursor first with
  | zero => exact ⟨rfl, nofun⟩
  | succ count ih =>
    obtain ⟨answer, log, ran, begins⟩ := p.dial_begins some_node (outcome first) cursor
    obtain ⟨cursors, heads⟩ := ih (p.start cursor).2 (first + 1)
    rw [dials, ran]
    refine ⟨?_, List.forall_mem_cons.mpr ⟨begins, heads⟩⟩
    have shifted : (List.range count).map (p.cursorAfter (p.start cursor).2) =
        (List.range count).map (p.cursorAfter cursor ∘ Nat.succ) :=
      List.map_congr_left fun k _ => p.cursorAfter_succ cursor k
    rw [List.map_cons, cursors, shifted, List.range_succ_eq_map, List.map_cons, List.map_map,
      cursorAfter_zero]

theorem place_of_ordered {p : Policy} (ordered : p.nodeSelection = .ordered) (cursor : UInt64) :
    p.place cursor 0 = 0 := by
  rw [place, start_of_ordered ordered]
  exact Nat.zero_mod _

theorem place_cursorAfter {p : Policy} (in_turn : p.nodeSelection = .roundRobin)
    (cursor : UInt64) (k : Nat) :
    p.place (p.cursorAfter cursor k) 0 =
      (cursor.toNat + k) % UInt64.size % p.nodes.length := by
  rw [place, start_of_roundRobin in_turn, cursorAfter, in_turn, Nat.add_zero]
  dsimp only
  rw [UInt64.toNat_add, UInt64.toNat_ofNat']
  exact congrArg (· % p.nodes.length)
    ((Nat.mod_mod _ _).trans (Nat.add_mod_mod cursor.toNat k UInt64.size))

/-- How often a remainder comes up among the first numbers: once in every full round, and once more
if the round that was begun has got that far. -/
theorem count_remainder (count : Nat) {n k : Nat} (small : k < n) :
    ((List.range count).map (· % n)).count k =
      count / n + if k % n < count % n then 1 else 0 := by
  rw [← Nat.count_modEq_card count (Nat.zero_lt_of_lt small) k, Nat.count, List.count,
    List.countP_map]
  refine List.countP_congr fun i _ => ?_
  rw [Function.comp_apply, beq_iff_eq, decide_eq_true_eq, Nat.ModEq, Nat.mod_eq_of_lt small]

/-- No remainder is more than one time ahead of another. -/
theorem count_remainder_le (count : Nat) {n a b : Nat} (first : a < n) (second : b < n) :
    ((List.range count).map (· % n)).count a ≤ ((List.range count).map (· % n)).count b + 1 := by
  rw [count_remainder count first, count_remainder count second]
  split <;> split <;> omega

/-- Connections made one after another begin at the nodes in turn, so that no two nodes differ by
more than one, or all at the first. -/
theorem dials_spread (p : Policy) (some_node : p.nodes ≠ [])
    (outcome : Nat → Nat → String → Except Fault α) (count : Nat) :
    let made := p.dials outcome 0 0 count
    let starts := made.map fun c => p.place c.cursor 0
    (made.map fun c => c.log.head?) =
        starts.map (fun place => p.nodes[place]?.map (.attempt 0)) ∧
      (p.nodeSelection = .roundRobin → count ≤ UInt64.size →
        starts = (List.range count).map (· % p.nodes.length) ∧
        ∀ a < p.nodes.length, ∀ b < p.nodes.length, starts.count a ≤ starts.count b + 1) ∧
      (p.nodeSelection = .ordered → starts = List.replicate count 0) := by
  intro made starts
  obtain ⟨cursors, begins⟩ := p.dials_begin some_node outcome 0 0 count
  have places : starts = (List.range count).map fun k => p.place (p.cursorAfter 0 k) 0 := by
    change made.map ((p.place · 0) ∘ Dialled.cursor) = _
    rw [← List.map_map, cursors, List.map_map]
    rfl
  refine ⟨?_, ?_, ?_⟩
  · rw [List.map_map]
    exact List.map_congr_left begins
  · intro in_turn unwrapped
    have remainders : starts = (List.range count).map (· % p.nodes.length) := by
      rw [places]
      refine List.map_congr_left fun k earlier => ?_
      have small : k < UInt64.size := Nat.lt_of_lt_of_le (List.mem_range.mp earlier) unwrapped
      rw [place_cursorAfter in_turn, UInt64.toNat_zero, Nat.zero_add, Nat.mod_eq_of_lt small]
    refine ⟨remainders, fun a first b second => ?_⟩
    rw [remainders]
    exact count_remainder_le count first second
  · intro ordered
    refine List.eq_replicate_iff.mpr ⟨?_, ?_⟩
    · rw [places, List.length_map, List.length_range]
    · intro place member
      obtain ⟨c, -, rfl⟩ := List.mem_map.mp member
      exact place_of_ordered ordered c.cursor

/-- Four connections over three nodes: the first three get to the last node by their third, second
and first attempt, the fourth fails everywhere. Still they begin at one node after the other. -/
theorem dials_spread_three_nodes :
    let p : Policy := { nodes := ["a", "b", "c"], maxRetries := 2, retryDelayMs := 0 }
    let outcome (k i : Nat) (node : String) : Except Fault Unit :=
      if node = "c" ∧ k + i = 2 then .ok () else .error (.ofKind .connectionRefused)
    let made := p.dials outcome 0 0 4
    let starts := made.map fun c => p.place c.cursor 0
    p.nodes ≠ [] ∧ p.nodeSelection = .roundRobin ∧ 4 ≤ UInt64.size ∧
      starts = [0, 1, 2, 0] ∧ (∀ a < 3, ∀ b < 3, starts.count a ≤ starts.count b + 1) ∧
      (made.map fun c => c.log.head?) =
        [some (.attempt 0 "a"), some (.attempt 0 "b"), some (.attempt 0 "c"),
          some (.attempt 0 "a")] ∧
      made.map Dialled.log =
        [[.attempt 0 "a", .attempt 1 "b", .attempt 2 "c"], [.attempt 0 "b", .attempt 1 "c"],
          [.attempt 0 "c"], [.attempt 0 "a", .attempt 1 "b", .attempt 2 "c"]] := by
  intro p outcome made starts
  have some_node : p.nodes ≠ [] := List.cons_ne_nil _ _
  have few : 4 ≤ UInt64.size := by decide
  obtain ⟨heads, in_turn, -⟩ := p.dials_spread some_node outcome 4
  obtain ⟨remainders, even⟩ := in_turn rfl few
  have places : starts = [0, 1, 2, 0] := remainders.trans (by decide)
  refine ⟨some_node, rfl, few, places, even, heads.trans ?_, ?_⟩
  · exact congrArg (List.map fun place => p.nodes[place]?.map (DialStep.attempt 0)) places
  · decide

end AtomicKv.Policy
