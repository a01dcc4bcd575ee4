import AtomicKv.Proofs.NodeList
import AtomicKv.Proofs.Utf8Exact

/-!
# Policies from the environment are exact

A variable counts when it holds the UTF-8 form of a text. One for nodes has to list some, and one
for retries has to hold a count of 32 bits (`Sensible`); these are the environments that yield a
policy, and it has what they ask for and the defaults otherwise (`Asks`). All others are refused
with an unknown error that names the first variable at fault (`Refuses`). Nodes that were listed
once are listed by every text that puts them between commas and blanks, so that writing them
differently leaves the policy as it is (`policy_exact`).
-/
namespace AtomicKv

theorem isBlank_of_isDigit {c : Char} (digit : c.isDigit = true) : isBlank c = false := by
  have range : 48 ≤ c.toNat ∧ c.toNat ≤ 57 := by
    simpa [Char.isDigit, UInt32.le_iff_toNat_le] using digit
  have apart : ∀ run ∈ Blank.ranges, run.2 < 48 ∨ 57 < run.1 := by decide
  rw [isBlank, List.any_eq_false]
  rintro ⟨first, last⟩ member
  have beside := apart ⟨first, last⟩ member
  simp only [Bool.and_eq_true, decide_eq_true_eq]
  omega

namespace Count

/-- An unsigned count is read off digits behind at most one plus sign. -/
theorem unsigned?_eq_some_iff {bound n : Nat} {cs : List Char} :
    unsigned? bound cs = some n ↔
      ∃ sign digits, cs = sign ++ digits ∧ (sign = [] ∨ sign = ['+']) ∧ digits ≠ [] ∧
        digits.all Char.isDigit ∧ value digits = n ∧ n ≤ bound := by
  constructor
  · intro read
    unfold unsigned? at read
    split at read
    · exact ⟨['+'], _, rfl, .inr rfl, digits?_eq_some_iff.mp read⟩
    · exact ⟨[], cs, rfl, .inl rfl, digits?_eq_some_iff.mp read⟩
  · rintro ⟨sign, digits, rfl, rfl | rfl, read⟩
    · rw [List.nil_append]
      unfold unsigned?
      split
      · -- digits do not begin with a plus sign
        have digit := List.all_eq_true.mp read.2.1 '+' List.mem_cons_self
        exact absurd digit (by decide)
      · exact digits?_eq_some_iff.mpr read
    · exact digits?_eq_some_iff.mpr read

/-- No blank stands at either end of a sign and digits. -/
theorem bare_of_digits {sign digits : List Char} (optional : sign = [] ∨ sign = ['+'])
    (all_digits : digits.all Char.isDigit) : Bare (sign ++ digits) := by
  have visible : ∀ c ∈ sign ++ digits, isBlank c = false := by
    intro c member
    rcases List.mem_append.mp member with inside | inside
    · rcases optional with rfl | rfl
      · cases inside
      · rw [List.mem_singleton.mp inside]
        decide
    · exact isBlank_of_isDigit (List.all_eq_true.mp all_digits c inside)
  exact ⟨fun c first => visible c (List.mem_of_mem_head? first),
    fun c last => visible c (List.mem_of_mem_getLast? last)⟩

end Count

namespace Environment

/-- Blanks around an optional plus sign and one or more digits that stand for a number. -/
def Writes (text : String) (n : Nat) : Prop :=
  ∃ before sign digits behind, text.toList = before ++ (sign ++ digits) ++ behind ∧
    Blanks before ∧ Blanks behind ∧ (sign = [] ∨ sign = ['+']) ∧ digits ≠ [] ∧
    digits.all Char.isDigit ∧ Count.value digits = n

theorem unsigned?_trim_eq_some_iff {bound n : Nat} {text : String} :
    Count.unsigned? bound (trim text.toList) = some n ↔ Writes text n ∧ n ≤ bound := by
  rw [Count.unsigned?_eq_some_iff]
  constructor
  · rintro ⟨sign, digits, parts, optional, some_digit, all_digits, value, small⟩
    obtain ⟨before, behind, text, front, back, -⟩ := trim_eq_iff.mp parts
    exact ⟨⟨before, sign, digits, behind, text, front, back, optional, some_digit, all_digits,
      value⟩, small⟩
  · rintro ⟨⟨before, sign, digits, behind, text, front, back, optional, some_digit, all_digits,
      value⟩, small⟩
    have bare := Count.bare_of_digits optional all_digits
    have parts := trim_eq_iff.mpr ⟨before, behind, text, front, back, bare⟩
    exact ⟨sign, digits, parts, optional, some_digit, all_digits, value, small⟩

/-- A retry count is read off the texts that write it. -/
theorem parseRetries?_eq_some_iff {text : String} {retries : UInt32} :
    parseRetries? text = some retries ↔ Writes text retries.toNat := by
  rw [parseRetries?, Option.map_eq_some_iff]
  constructor
  · rintro ⟨n, read, rfl⟩
    obtain ⟨written, small⟩ := unsigned?_trim_eq_some_iff.mp read
    rw [UInt32.toNat_ofNat_of_lt' (Nat.lt_succ_of_le small)]
    exact written
  · intro written
    have small : retries.toNat ≤ 0xFFFFFFFF := Nat.le_of_lt_succ retries.toNat_lt
    exact ⟨retries.toNat, unsigned?_trim_eq_some_iff.mpr ⟨written, small⟩, UInt32.ofNat_toNat⟩

theorem parseRetries?_eq_none_iff {text : String} :
    parseRetries? text = none ↔ ∀ n ≤ 4294967295, ¬ Writes text n := by
  rw [parseRetries?, Option.map_eq_none_iff, Option.eq_none_iff_forall_ne_some]
  constructor
  · intro nothing n small written
    exact nothing n (unsigned?_trim_eq_some_iff.mpr ⟨written, small⟩)
  · intro unwritten n read
    obtain ⟨written, small⟩ := unsigned?_trim_eq_some_iff.mp read
    exact unwritten n small written

/-- A variable is read when it holds the UTF-8 form of a text. -/
theorem text?_eq_some_iff {value : Option Bytes} {text : String} :
    text? value = some text ↔ value = some (Utf8.encode text) := by
  cases value with
  | none => exact ⟨nofun, nofun⟩
  | some bytes =>
    rw [text?, Option.bind_some, Option.some.injEq, ← Utf8.decode_eq_ok_iff]
    cases Utf8.decode bytes with
    | error fault => exact ⟨nofun, nofun⟩
    | ok found => rw [Except.toOption, Option.some.injEq, Except.ok.injEq]

theorem text?_eq_none_iff {value : Option Bytes} :
    text? value = none ↔ ∀ text, value ≠ some (Utf8.encode text) := by
  rw [Option.eq_none_iff_forall_ne_some]
  exact forall_congr' fun text => not_congr text?_eq_some_iff

theorem text?_encode (text : String) : text? (some (Utf8.encode text)) = some text :=
  text?_eq_some_iff.mpr rfl

theorem overlayNodes_eq_ok_iff {p q : Policy} {value : Option String} :
    overlayNodes p value = .ok q ↔
      q = { p with nodes := q.nodes } ∧ (value = none → q.nodes = p.nodes) ∧
      ∀ text, value = some text → q.nodes ≠ [] ∧ parseNodes text = q.nodes := by
  cases value with
  | none =>
    rw [overlayNodes, Except.ok.injEq]
    constructor
    · rintro rfl
      exact ⟨rfl, fun _ => rfl, nofun⟩
    · rintro ⟨shape, unset, -⟩
      rw [shape, unset rfl]
  | some text =>
    rw [overlayNodes]
    split
    · rename_i nothing
      refine ⟨nofun, ?_⟩
      rintro ⟨-, -, set⟩
      obtain ⟨some_node, nodes⟩ := set text rfl
      exact absurd (nodes.symm.trans nothing) some_node
    · rename_i some_node
      rw [Except.ok.injEq]
      constructor
      · rintro rfl
        refine ⟨rfl, nofun, ?_⟩
        rintro _ ⟨⟩
        exact ⟨some_node, rfl⟩
      · rintro ⟨shape, -, set⟩
        rw [shape, (set text rfl).2]

theorem overlayNodes_eq_error_iff {p : Policy} {value : Option String} {flaw : Flaw} :
    overlayNodes p value = .error flaw ↔
      flaw = .noNodes ∧ ∃ text, value = some text ∧ parseNodes text = [] := by
  cases value with
  | none => exact ⟨nofun, nofun⟩
  | some text =>
    rw [overlayNodes]
    split
    · rename_i nothing
      rw [Except.error.injEq]
      exact ⟨fun same => ⟨same.symm, text, rfl, nothing⟩, fun found => found.1.symm⟩
    · rename_i some_node
      refine ⟨nofun, ?_⟩
      rintro ⟨-, _, ⟨⟩, nothing⟩
      exact absurd nothing some_node

theorem overlayRetries_eq_ok_iff {p q : Policy} {value : Option String} :
    overlayRetries p value = .ok q ↔
      q = { p with maxRetries := q.maxRetries } ∧ (value = none → q.maxRetries = p.maxRetries) ∧
      ∀ text, value = some text → parseRetries? text = some q.maxRetries := by
  cases value with
  | none =>
    rw [overlayRetries, Except.ok.injEq]
    constructor
    · rintro rfl
      exact ⟨rfl, fun _ => rfl, nofun⟩
    · rintro ⟨shape, unset, -⟩
      rw [shape, unset rfl]
  | some text =>
    rw [overlayRetries]
    split
    · rename_i nothing
      refine ⟨nofun, ?_⟩
      rintro ⟨-, -, set⟩
      exact nomatch nothing.symm.trans (set text rfl)
    · rename_i retries read
      rw [Except.ok.injEq]
      constructor
      · rintro rfl
        refine ⟨rfl, nofun, ?_⟩
        rintro _ ⟨⟩
        exact read
      · rintro ⟨shape, -, set⟩
        rw [shape, Option.some.inj (read.symm.trans (set text rfl))]

theorem overlayRetries_eq_error_iff {p : Policy} {value : Option String} {flaw : Flaw} :
    overlayRetries p value = .error flaw ↔
      ∃ text, value = some text ∧ parseRetries? text = none ∧ flaw = .badRetries text := by
  cases value with
  | none => exact ⟨nofun, nofun⟩
  | some text =>
    rw [overlayRetries]
    split
    · rename_i nothing
      rw [Except.error.injEq]
      refine ⟨fun same => ⟨text, rfl, nothing, same.symm⟩, ?_⟩
      rintro ⟨_, ⟨⟩, -, rfl⟩
      rfl
    · rename_i retries read
      refine ⟨nofun, ?_⟩
      rintro ⟨_, ⟨⟩, nothing, -⟩
      exact nomatch read.symm.trans nothing

/-- What a policy from the environment has: nodes and retries as the variables that are set say, and
the defaults otherwise. -/
structure Asks (env : Environment) (p : Policy) : Prop where
  nodes : ∀ text, env.nodes = some (Utf8.encode text) →
    p.nodes ≠ [] ∧ (∀ node ∈ p.nodes, IsNode node) ∧ Listing (text.toList.splitOn ',') p.nodes
  default_nodes : (∀ text, env.nodes ≠ some (Utf8.encode text)) → p.nodes = ["127.0.0.1:8000"]
  maxRetries : ∀ text, env.maxRetries = some (Utf8.encode text) → Writes text p.maxRetries.toNat
  default_maxRetries : (∀ text, env.maxRetries ≠ some (Utf8.encode text)) → p.maxRetries = 3
  others : p = { ({} : Policy) with nodes := p.nodes, maxRetries := p.maxRetries }

/-- Nodes are listed and retries counted by the variables that are set. -/
structure Sensible (env : Environment) : Prop where
  nodes : ∀ text, env.nodes = some (Utf8.encode text) → ListsNodes text
  maxRetries : ∀ text, env.maxRetries = some (Utf8.encode text) →
    ∃ n ≤ 4294967295, Writes text n

/-- The error of the first variable at fault. -/
inductive Refuses (env : Environment) : ClientError → Prop
  | nodes {text : String} (set : env.nodes = some (Utf8.encode text))
    (nothing : ¬ ListsNodes text) :
    Refuses env (.unknown "SINGLEOP_NODES is set but lists no nodes")
  | maxRetries {text : String}
    (nodes : ∀ text, env.nodes = some (Utf8.encode text) → ListsNodes text)
    (set : env.maxRetries = some (Utf8.encode text))
    (no_count : ∀ n ≤ 4294967295, ¬ Writes text n) :
    Refuses env
      (.unknown ("SINGLEOP_MAX_RETRIES is not a valid retry count: " ++ Quoted.encode text))

theorem asks_of_policy_eq_ok {env : Environment} {p : Policy} (made : policy env = .ok p) :
    Asks env p := by
  unfold policy at made
  split at made
  · cases made
  · rename_i q listed
    obtain ⟨shape, unset, set⟩ := overlayNodes_eq_ok_iff.mp listed
    obtain ⟨shape', unset', set'⟩ := overlayRetries_eq_ok_iff.mp made
    have nodes : p.nodes = q.nodes := by rw [shape']
    have retries : q.maxRetries = 3 := by rw [shape]
    refine ⟨fun text is_set => ?_, fun not_set => ?_, fun text is_set => ?_, fun not_set => ?_, ?_⟩
    · obtain ⟨some_node, read⟩ := set text (text?_eq_some_iff.mpr is_set)
      rw [nodes]
      exact ⟨some_node, parseNodes_eq_iff.mp read⟩
    · rw [nodes]
      exact unset (text?_eq_none_iff.mpr not_set)
    · exact parseRetries?_eq_some_iff.mp (set' text (text?_eq_some_iff.mpr is_set))
    · rw [unset' (text?_eq_none_iff.mpr not_set), retries]
    · rw [nodes]
      exact shape'.trans (congrArg (fun q : Policy => { q with maxRetries := p.maxRetries }) shape)

/-- The variables yield the policy they ask for. -/
theorem policy_eq_ok_iff {env : Environment} {p : Policy} :
    policy env = .ok p ↔ Asks env p := by
  refine ⟨asks_of_policy_eq_ok, fun asks => ?_⟩
  have listed : overlayNodes {} (text? env.nodes) = .ok { nodes := p.nodes } := by
    refine overlayNodes_eq_ok_iff.mpr ⟨rfl, fun unset => ?_, fun text is_set => ?_⟩
    · exact asks.default_nodes (text?_eq_none_iff.mp unset)
    · obtain ⟨some_node, are_nodes⟩ := asks.nodes text (text?_eq_some_iff.mp is_set)
      exact ⟨some_node, parseNodes_eq_iff.mpr are_nodes⟩
  rw [policy, listed]
  refine overlayRetries_eq_ok_iff.mpr ⟨asks.others, fun unset => ?_, fun text is_set => ?_⟩
  · exact asks.default_maxRetries (text?_eq_none_iff.mp unset)
  · exact parseRetries?_eq_some_iff.mpr (asks.maxRetries text (text?_eq_some_iff.mp is_set))

theorem refuses_of_policy_eq_error {env : Environment} {flaw : Flaw}
    (refused : policy env = .error flaw) : Refuses env flaw.error := by
  unfold policy at refused
  split at refused
  · rename_i flaw' unlisted
    cases refused
    obtain ⟨rfl, text, is_set, nothing⟩ := overlayNodes_eq_error_iff.mp unlisted
    refine .nodes (text?_eq_some_iff.mp is_set) ?_
    rw [← parseNodes_ne_nil_iff]
    exact not_not_intro nothing
  · rename_i q listed
    obtain ⟨-, -, set⟩ := overlayNodes_eq_ok_iff.mp listed
    obtain ⟨text, is_set, unread, rfl⟩ := overlayRetries_eq_error_iff.mp refused
    refine .maxRetries (fun text is_set => ?_) (text?_eq_some_iff.mp is_set)
      (parseRetries?_eq_none_iff.mp unread)
    obtain ⟨some_node, read⟩ := set text (text?_eq_some_iff.mpr is_set)
    exact parseNodes_ne_nil_iff.mp (read ▸ some_node)

theorem Asks.sensible {env : Environment} {p : Policy} (asks : Asks env p) : Sensible env := by
  constructor
  · intro text is_set
    obtain ⟨some_node, are_nodes⟩ := asks.nodes text is_set
    rw [← parseNodes_ne_nil_iff, parseNodes_eq_iff.mpr are_nodes]
    exact some_node
  · intro text is_set
    exact ⟨p.maxRetries.toNat, Nat.le_of_lt_succ p.maxRetries.toNat_lt,
      asks.maxRetries text is_set⟩

theorem Refuses.not_sensible {env : Environment} {e : ClientError} (refuses : Refuses env e) :
    ¬ Sensible env := by
  intro sensible
  cases refuses with
  | nodes is_set nothing => exact nothing (sensible.nodes _ is_set)
  | maxRetries _ is_set no_count =>
    obtain ⟨n, small, written⟩ := sensible.maxRetries _ is_set
    exact no_count n small written

/-- Exactly the sensible environments yield a policy. -/
theorem exists_policy_iff {env : Environment} : (∃ p, policy env = .ok p) ↔ Sensible env := by
  constructor
  · rintro ⟨p, made⟩
    exact (policy_eq_ok_iff.mp made).sensible
  · intro sensible
    cases made : policy env with
    | error flaw => exact absurd sensible (refuses_of_policy_eq_error made).not_sensible
    | ok p => exact ⟨p, rfl⟩

/-- All other environments are refused with an unknown error. -/
theorem exists_flaw_of_not_sensible {env : Environment} (senseless : ¬ Sensible env) :
    ∃ flaw why, policy env = .error flaw ∧ flaw.error = .unknown why ∧
      Refuses env (.unknown why) := by
  cases made : policy env with
  | error flaw =>
    have refuses := refuses_of_policy_eq_error made
    cases flaw with
    | noNodes => exact ⟨_, _, rfl, rfl, refuses⟩
    | badRetries text => exact ⟨_, _, rfl, rfl, refuses⟩
  | ok p => exact absurd (exists_policy_iff.mp ⟨p, made⟩) senseless

theorem isNode_default : IsNode "127.0.0.1:8000" := by
  refine ⟨by decide, by decide, ?_, ?_⟩
  · rintro _ ⟨⟩
    decide
  · rintro _ ⟨⟩
    decide

/-- What a policy has for nodes is some list of nodes. -/
theorem Asks.isNode {env : Environment} {p : Policy} (asks : Asks env p) :
    p.nodes ≠ [] ∧ ∀ node ∈ p.nodes, IsNode node := by
  by_cases set : ∃ text, env.nodes = some (Utf8.encode text)
  · obtain ⟨text, is_set⟩ := set
    obtain ⟨some_node, are_nodes, -⟩ := asks.nodes text is_set
    exact ⟨some_node, are_nodes⟩
  · rw [asks.default_nodes (not_exists.mp set)]
    exact ⟨List.cons_ne_nil _ _, List.forall_mem_singleton.mpr isNode_default⟩

/-- The nodes of a policy may be listed anew in any way. -/
theorem Asks.relisted {env : Environment} {p : Policy} (asks : Asks env p) {text : String}
    {pieces : List (List Char)} (joined : text.toList = [','].intercalate pieces)
    (listing : Listing pieces p.nodes) :
    Asks { env with nodes := some (Utf8.encode text) } p := by
  obtain ⟨some_node, are_nodes⟩ := asks.isNode
  refine ⟨fun text' is_set => ?_, fun unset => absurd rfl (unset text), asks.maxRetries,
    asks.default_maxRetries, asks.others⟩
  have same : text = text' := by
    have read := text?_eq_some_iff.mpr is_set
    rw [text?_encode] at read
    exact Option.some.inj read
  rw [← same]
  exact ⟨some_node, parseNodes_eq_iff.mp (parseNodes_of_listing joined listing are_nodes)⟩

/-- The environment yields the policy that it asks for when it is sensible, and is refused with an
unknown error otherwise. -/
theorem policy_exact (env : Environment) :
    (∀ p, policy env = .ok p ↔ Asks env p) ∧
    ((∃ p, policy env = .ok p) ↔ Sensible env) ∧
    (¬ Sensible env → ∃ flaw why, policy env = .error flaw ∧ flaw.error = .unknown why ∧
      Refuses env (.unknown why)) ∧
    ∀ p text pieces, policy env = .ok p → text.toList = [','].intercalate pieces →
      Listing pieces p.nodes →
      policy { env with nodes := some (Utf8.encode text) } = .ok p := by
  refine ⟨fun p => policy_eq_ok_iff, exists_policy_iff, exists_flaw_of_not_sensible, ?_⟩
  intro p text pieces made joined listing
  exact policy_eq_ok_iff.mpr ((policy_eq_ok_iff.mp made).relisted joined listing)

/-- Blanks beyond ASCII, a piece without a node and leading zeros are left out, and the two nodes are
read again off a text with other blanks and commas. -/
theorem policy_exact_two_nodes :
    let env : Environment :=
      { nodes := some (Utf8.encode " a:1 ,,b\u3000"), maxRetries := some (Utf8.encode "\t+007 ") }
    let p : Policy := { nodes := ["a:1", "b"], maxRetries := 7 }
    policy env = .ok p ∧ Asks env p ∧ Sensible env ∧
      policy { env with nodes := some (Utf8.encode "a:1,\t,, b,") } = .ok p := by
  intro env p
  have made : policy env = .ok p := by
    simp only [policy, env, text?_encode]
    rfl
  obtain ⟨asked, sensible, -, again⟩ := policy_exact env
  let pieces : List (List Char) :=
    [[] ++ "a:1".toList ++ [], ['\t'], [], [' '] ++ "b".toList ++ [], []]
  have joined : "a:1,\t,, b,".toList = [','].intercalate pieces := by decide
  have listing : Listing pieces ["a:1", "b"] := by
    refine .node ?_ ?_ (.blank ?_ (.blank ?_ (.node ?_ ?_ (.blank ?_ .nil)))) <;> decide
  exact ⟨made, (asked p).mp made, sensible.mp ⟨p, made⟩, again p _ pieces made joined listing⟩

end Environment
end AtomicKv
