import AtomicKv.Address
import AtomicKv.CommandLine
import AtomicKv.Proofs.EnvironmentExact

/-!
# Options over the environment

An option takes the place of its variable. Among environments that make sense, a run only depends on
the variables whose options were not given, and where both were it is a call under the policy
with the nodes and the retry count of the options and the defaults otherwise. An environment that
makes no sense ends each run that has a call to make before a node is tried, even where the
variable at fault is not needed (`run_overriding`, `run_refused_unneeded`).
-/
namespace AtomicKv.Environment

/-- The nodes of a policy only depend on their variable. -/
theorem nodes_of_policy {env : Environment} {p : Policy} (made : policy env = .ok p) :
    p.nodes = ((text? env.nodes).map parseNodes).getD ["127.0.0.1:8000"] := by
  have asks := policy_eq_ok_iff.mp made
  cases value : text? env.nodes with
  | none => exact asks.default_nodes (text?_eq_none_iff.mp value)
  | some text =>
    obtain ⟨-, are_nodes⟩ := asks.nodes text (text?_eq_some_iff.mp value)
    exact (parseNodes_eq_iff.mpr are_nodes).symm

/-- The retry count of a policy only depends on its variable. -/
theorem maxRetries_of_policy {env : Environment} {p : Policy} (made : policy env = .ok p) :
    p.maxRetries = ((text? env.maxRetries).bind parseRetries?).getD 3 := by
  have asks := policy_eq_ok_iff.mp made
  cases value : text? env.maxRetries with
  | none => exact asks.default_maxRetries (text?_eq_none_iff.mp value)
  | some text =>
    have read := parseRetries?_eq_some_iff.mpr (asks.maxRetries text (text?_eq_some_iff.mp value))
    rw [Option.bind_some, read, Option.getD_some]

end AtomicKv.Environment

namespace AtomicKv.CommandLine

/-- Two environments agree on the variables whose options were not given. -/
structure Agree (i : Invocation) (env env' : Environment) : Prop where
  nodes : i.nodes = [] → env.nodes = env'.nodes
  maxRetries : i.maxRetries = none → env.maxRetries = env'.maxRetries

/-- The policy of an invocation has the defaults besides nodes and retry count. -/
theorem policy_of_asks {env : Environment} {p : Policy} (asks : env.Asks p) (i : Invocation) :
    policy env i =
      .ok { ({} : Policy) with
        nodes := if i.nodes = [] then p.nodes else i.nodes
        maxRetries := i.maxRetries.getD p.maxRetries } := by
  have made := Environment.policy_eq_ok_iff.mpr asks
  rw [policy, made, asks.others]

/-- The policies of one invocation under two sensible environments that agree where it needs them
are the same. -/
theorem policy_of_agree {env env' : Environment} (sensible : env.Sensible)
    (sensible' : env'.Sensible) {i : Invocation} (agree : Agree i env env') :
    policy env i = policy env' i := by
  obtain ⟨p, made⟩ := Environment.exists_policy_iff.mpr sensible
  obtain ⟨p', made'⟩ := Environment.exists_policy_iff.mpr sensible'
  have nodes : (if i.nodes = [] then p.nodes else i.nodes) =
      if i.nodes = [] then p'.nodes else i.nodes := by
    split
    · rename_i not_given
      rw [Environment.nodes_of_policy made, Environment.nodes_of_policy made',
        agree.nodes not_given]
    · rfl
  have maxRetries : i.maxRetries.getD p.maxRetries = i.maxRetries.getD p'.maxRetries := by
    cases given : i.maxRetries with
    | none =>
      rw [Environment.maxRetries_of_policy made, Environment.maxRetries_of_policy made',
        agree.maxRetries given]
    | some n => rfl
  rw [policy_of_asks (Environment.policy_eq_ok_iff.mp made),
    policy_of_asks (Environment.policy_eq_ok_iff.mp made'), nodes, maxRetries]

/-- Where both options were given the policy is theirs. -/
theorem policy_of_given {env : Environment} (sensible : env.Sensible) {i : Invocation}
    (some_node : i.nodes ≠ []) {n : UInt32} (given : i.maxRetries = some n) :
    policy env i = .ok { nodes := i.nodes, maxRetries := n } := by
  obtain ⟨p, made⟩ := Environment.exists_policy_iff.mpr sensible
  rw [policy_of_asks (Environment.policy_eq_ok_iff.mp made), if_neg some_node, given,
    Option.getD_some]

theorem policy_of_not_sensible {env : Environment} (senseless : ¬ env.Sensible)
    (i : Invocation) :
    ∃ why, env.Refuses (.unknown why) ∧ policy env i = .error (.unknown why) := by
  obtain ⟨flaw, why, refused, error, refuses⟩ := Environment.exists_flaw_of_not_sensible senseless
  refine ⟨why, refuses, ?_⟩
  rw [policy, refused, ← error]

variable {m : Type → Type} [Monad m] {α : Type}

/-- A run with a call takes from its environment what its options do not give, provided that all
variables make sense; else it ends with an unknown error about the first one at fault. -/
theorem run_overriding (net : Network m α) (args : List String) :
    (∀ stop, parse args = .error stop → ∀ env, run net env args = pure stop.exit) ∧
    ∀ i, parse args = .ok i →
      (∀ env env', env.Sensible → env'.Sensible → Agree i env env' →
        run net env args = run net env' args) ∧
      (∀ n, i.nodes ≠ [] → i.maxRetries = some n → ∀ env, env.Sensible →
        run net env args = do
          return exitOf (← perform net { nodes := i.nodes, maxRetries := n } i.call)) ∧
      ∀ env, ¬ env.Sensible → ∃ why, env.Refuses (.unknown why) ∧
        run net env args =
          pure { code := 1, stderr := some ("Error: " ++ ("Unknown error: " ++ why) ++ "\n") } := by
  constructor
  · intro stop stopped env
    rw [run, stopped]
  · intro i asked
    refine ⟨fun env env' sensible sensible' agree => ?_, fun n some_node given env sensible => ?_,
      fun env senseless => ?_⟩
    · simp only [run, asked, policy_of_agree sensible sensible' agree]
    · simp only [run, asked, policy_of_given sensible some_node given]
    · obtain ⟨why, refuses, refused⟩ := policy_of_not_sensible senseless i
      refine ⟨why, refuses, ?_⟩
      simp only [run, asked, refused]
      rfl

/-- A network that keeps a list of the nodes that are tried. An address is reached if it can be
read, and nothing is answered. -/
def traced : Network (StateM (List String)) Unit where
  attempt _ node := do
    modify (· ++ [node])
    return (Address.parse node).map fun _ => ()
  pause _ := pure ()
  send _ _ := return { ending := .finished }

/-- Two nodes and a retry count in the environment make no difference where one node and no retries
are asked for. -/
theorem run_overriding_two_environments :
    let args := ["-n", "x", "-m", "0", "read", "k"]
    let i : Invocation := { nodes := ["x"], maxRetries := some 0, call := .read (.ofText "k") }
    let env : Environment :=
      { nodes := some (Utf8.encode "y,z"), maxRetries := some (Utf8.encode "+7") }
    parse args = .ok i ∧ Environment.Sensible {} ∧ env.Sensible ∧ Agree i {} env ∧
      run traced {} args = run traced env args := by
  intro args i env
  have asked : parse args = .ok i := rfl
  have sensible : Environment.Sensible {} := Environment.exists_policy_iff.mp ⟨{}, rfl⟩
  have sensible' : env.Sensible := by
    refine Environment.exists_policy_iff.mp ⟨{ nodes := ["y", "z"], maxRetries := 7 }, ?_⟩
    simp only [Environment.policy, env, Environment.text?_encode]
    rfl
  have agree : Agree i {} env :=
    ⟨fun not_given => absurd not_given (List.cons_ne_nil "x" []),
      fun not_given => absurd not_given (Option.some_ne_none 0)⟩
  have same := ((run_overriding traced args).2 i asked).1 {} env sensible sensible' agree
  exact ⟨asked, sensible, sensible', agree, same⟩

/-- A list without nodes, or an empty retry count, ends a run that was given both by options:
the node that is tried otherwise is not tried. -/
theorem run_refused_unneeded :
    let args := ["-n", "x", "-m", "0", "read", "k"]
    let i : Invocation := { nodes := ["x"], maxRetries := some 0, call := .read (.ofText "k") }
    let refusal (why : String) : Exit := { code := 1, stderr := some ("Error: " ++ why ++ "\n") }
    parse args = .ok i ∧
    (run traced {} args).run [] =
      (refusal ("Connection error: could not connect after 1 attempt(s), last error: " ++
        "x: invalid socket address"), ["x"]) ∧
    (run traced { nodes := some (Utf8.encode ",") } args).run [] =
      (refusal "Unknown error: SINGLEOP_NODES is set but lists no nodes", []) ∧
    (run traced { maxRetries := some (Utf8.encode "") } args).run [] =
      (refusal "Unknown error: SINGLEOP_MAX_RETRIES is not a valid retry count: \"\"", []) := by
  intro args i refusal
  have asked : parse args = .ok i := rfl
  refine ⟨asked, rfl, ?_, ?_⟩
  · have refused : Environment.policy { nodes := some (Utf8.encode ",") } = .error .noNodes := by
      simp only [Environment.policy, Environment.text?_encode]
      rfl
    simp only [run, asked, policy, refused]
    rfl
  · have refused : Environment.policy { maxRetries := some (Utf8.encode "") } =
        .error (.badRetries "") := by
      simp only [Environment.policy, Environment.text?_encode]
      rfl
    simp only [run, asked, policy, refused]
    rfl

end AtomicKv.CommandLine
