import AtomicKv.ClientError

/-!
# Connection policy

Which nodes a client may connect to, where it starts, how often it tries again and how long
it waits. A wait of zero milliseconds stands for no bound.
-/
namespace AtomicKv

/-- Where the first attempt of a connection goes. -/
inductive NodeSelection where
  /-- To the first node. -/
  | ordered
  /-- One node further along the list than the connection before. -/
  | roundRobin
  deriving DecidableEq, Repr

/-- A number of milliseconds, zero standing for none. -/
def bound? (milliseconds : UInt64) : Option UInt64 :=
  if milliseconds = 0 then none else some milliseconds

structure Policy where
  nodes : List String := ["127.0.0.1:8000"]
  nodeSelection : NodeSelection := .roundRobin
  /-- Attempts after the first. -/
  maxRetries : UInt32 := 3
  retryDelayMs : UInt64 := 100
  connectTimeoutMs : UInt64 := 5000
  readTimeoutMs : UInt64 := 5000
  writeTimeoutMs : UInt64 := 5000
  clientName : String := "singleop"
  deriving DecidableEq, Repr

namespace Policy

/-- One more than the retries, or the largest count there is. -/
def maxAttempts (p : Policy) : UInt32 :=
  if p.maxRetries = 0xFFFFFFFF then p.maxRetries else p.maxRetries + 1

def noNodes : ClientError :=
  .connection "no nodes configured"

/-- A policy without nodes connects to nothing. -/
def validate (p : Policy) : Except ClientError Unit :=
  if p.nodes = [] then .error noNodes else .ok ()

theorem validate_eq_ok_iff {p : Policy} : p.validate = .ok () ↔ p.nodes ≠ [] := by
  unfold validate
  split
  · rename_i nothing
    exact ⟨nofun, fun some_node => absurd nothing some_node⟩
  · rename_i some_node
    exact ⟨fun _ => some_node, fun _ => rfl⟩

end Policy

structure NodeConfig where
  listenAddress : String := "127.0.0.1:8000"
  workers : UInt64 := 16
  idleTimeoutMs : UInt64 := 60000
  writeTimeoutMs : UInt64 := 5000
  deriving DecidableEq, Repr

namespace NodeConfig

/-- Sets the number of workers; there is always one. -/
def withWorkers (c : NodeConfig) (workers : UInt64) : NodeConfig :=
  { c with workers := if workers = 0 then 1 else workers }

end NodeConfig
end AtomicKv
