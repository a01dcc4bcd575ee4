import AtomicKv.Connection
import AtomicKv.Policy

/-!
# Dialling

A connection is made by attempts at one node after the other, in the cyclic order of the
policy's list, until one succeeds or the attempts are used up. With round-robin selection a
cursor moves on by one for each connection, however many attempts it takes; it is a 64-bit
counter that wraps around.
-/
namespace AtomicKv

/-- How attempts are made, in some setting that may have effects. -/
structure Dialling (m : Type → Type) (α : Type) where
  /-- One attempt, by its number from zero and its node. -/
  attempt : Nat → String → m (Except Fault α)
  /-- Waits some milliseconds. -/
  pause : UInt64 → m Unit

namespace Policy

/-- Where a connection starts in the list, and the cursor behind it. -/
def start (p : Policy) (cursor : UInt64) : UInt64 × UInt64 :=
  match p.nodeSelection with
  | .ordered => (0, cursor)
  | .roundRobin => (cursor, cursor + 1)

/-- The node of an attempt: attempts count on from the start, around the list. -/
def nodeAt (nodes : List String) (some_node : nodes ≠ []) (start : UInt64) (attempt : Nat) :
    String :=
  nodes.get ⟨(start + UInt64.ofNat attempt).toNat % nodes.length,
    Nat.mod_lt _ (List.length_pos_iff.mpr some_node)⟩

variable {m : Type → Type} [Monad m] {α : Type}

/-- Makes an attempt and up to `more` further ones; fails with the last node and its fault. -/
def attempts (p : Policy) (d : Dialling m α) (some_node : p.nodes ≠ []) (start : UInt64)
    (attempt : Nat) : (more : Nat) → m (Except (String × Fault) (String × α))
  | 0 => do
    let node := nodeAt p.nodes some_node start attempt
    match ← d.attempt attempt node with
    | .ok link => return .ok (node, link)
    | .error f => return .error (node, f)
  | more + 1 => do
    let node := nodeAt p.nodes some_node start attempt
    match ← d.attempt attempt node with
    | .ok link => return .ok (node, link)
    | .error _ =>
      if let some delay := bound? p.retryDelayMs then d.pause delay
      attempts p d some_node start (attempt + 1) more

def exhausted (p : Policy) (node : String) (f : Fault) : ClientError :=
  .connection ("could not connect after " ++ toString p.maxAttempts.toNat
    ++ " attempt(s), last error: " ++ node ++ ": " ++ f.message)

/-- Makes a connection from a cursor; gives the node that was reached with what the attempt
yielded, and the cursor for the next connection. -/
def dial (p : Policy) (d : Dialling m α) (cursor : UInt64) :
    m (Except ClientError (String × α) × UInt64) :=
  match checked : p.validate with
  | .error e => return (.error e, cursor)
  | .ok () => do
    let (start, cursor) := p.start cursor
    let some_node := validate_eq_ok_iff.mp checked
    match ← p.attempts d some_node start 0 (p.maxAttempts.toNat - 1) with
    | .ok reached => return (.ok reached, cursor)
    | .error (node, f) => return (.error (p.exhausted node f), cursor)

theorem dial_of_invalid {p : Policy} {e : ClientError} (refused : p.validate = .error e)
    (d : Dialling m α) (cursor : UInt64) : p.dial d cursor = pure (.error e, cursor) := by
  unfold dial
  split
  · rename_i e' refused'
    rw [refused] at refused'
    cases refused'
    rfl
  · rename_i checked
    rw [refused] at checked
    cases checked

theorem dial_of_valid {p : Policy} (some_node : p.nodes ≠ []) (d : Dialling m α)
    (cursor : UInt64) :
    p.dial d cursor = do
      match ← p.attempts d some_node (p.start cursor).1 0 (p.maxAttempts.toNat - 1) with
      | .ok reached => return (.ok reached, (p.start cursor).2)
      | .error (node, f) => return (.error (p.exhausted node f), (p.start cursor).2) := by
  unfold dial
  split
  · rename_i e refused
    rw [validate_eq_ok_iff.mpr some_node] at refused
    cases refused
  · rfl

end Policy
end AtomicKv
