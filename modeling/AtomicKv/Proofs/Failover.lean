import AtomicKv.Proofs.Attempts

/-!
# Reaching every node

The places of successive attempts follow one another around the list, but for one step: the sum that
they are taken from is of 64 bits, and where it wraps around the next attempt is at the first node,
wherever the one before was (`place_succ`). Attempts that the wrap does not fall among, or on a list
whose length divides the range of the cursor, come to every node as soon as there are as many of
them as nodes. Elsewhere some are spent on nodes that had their turn, and every node is tried exactly
if there are attempts enough to make up for these (`visits_iff`). A connection is made if any attempt
succeeds (`dial_ok_iff`).
-/
namespace AtomicKv.Policy

/-- From any number on, as many successive numbers as there are remainders leave each of them. -/
theorem exists_residue (first : Nat) {n k : Nat} (small : k < n) :
    ∃ j < n, (first + j) % n = k := by
  have positive : 0 < n := Nat.zero_lt_of_lt small
  refine ⟨(k + (n - first % n)) % n, Nat.mod_lt _ positive, ?_⟩
  have part := Nat.mod_lt first positive
  have sum : first + (k + (n - first % n)) = k + n * (first / n + 1) := by
    have split := Nat.div_add_mod first n
    rw [Nat.mul_add, Nat.mul_one]
    omega
  rw [Nat.add_mod_mod, sum, Nat.add_mul_mod_self_left, Nat.mod_eq_of_lt small]

theorem maxAttempts_lt (p : Policy) : p.maxAttempts.toNat < UInt64.size :=
  Nat.lt_trans p.maxAttempts.toNat_lt_size (by decide)

/-- The attempts that come before the cursor wraps around. -/
def beforeWrap (p : Policy) (cursor : UInt64) : Nat :=
  UInt64.size - (p.start cursor).1.toNat

theorem start_add_beforeWrap (p : Policy) (cursor : UInt64) :
    (p.start cursor).1.toNat + p.beforeWrap cursor = UInt64.size :=
  Nat.add_sub_of_le (Nat.le_of_lt (p.start cursor).1.toNat_lt_size)

theorem beforeWrap_of_ordered {p : Policy} (ordered : p.nodeSelection = .ordered)
    (cursor : UInt64) : p.beforeWrap cursor = UInt64.size := by
  rw [beforeWrap, start_of_ordered ordered]
  rfl

section Places

variable {p : Policy} {cursor : UInt64} {i : Nat}

theorem place_before (before : i < p.beforeWrap cursor) :
    p.place cursor i = ((p.start cursor).1.toNat + i) % p.nodes.length := by
  have wrap := p.start_add_beforeWrap cursor
  have small : (p.start cursor).1.toNat + i < UInt64.size := by omega
  rw [place, Nat.mod_eq_of_lt small]

/-- Behind the wrap, attempts begin at the first node again. -/
theorem place_behind (small : i < UInt64.size) :
    p.place cursor (p.beforeWrap cursor + i) = i % p.nodes.length := by
  rw [place, ← Nat.add_assoc, start_add_beforeWrap, Nat.add_mod_left, Nat.mod_eq_of_lt small]

/-- An attempt is at the place behind that of the attempt before, or at the first one where the
cursor wraps around. -/
theorem place_succ (small : i < UInt64.size) :
    p.place cursor (i + 1) =
      if i + 1 = p.beforeWrap cursor then 0 else (p.place cursor i + 1) % p.nodes.length := by
  have wrap := p.start_add_beforeWrap cursor
  have start_lt := (p.start cursor).1.toNat_lt_size
  split
  · rename_i last
    rw [last]
    exact (place_behind (i := 0) (by decide)).trans (Nat.zero_mod _)
  · rename_i inside
    by_cases before : i + 1 < p.beforeWrap cursor
    · rw [place_before before, place_before (Nat.lt_of_succ_lt before), Nat.mod_add_mod,
        Nat.add_assoc]
    · obtain ⟨j, rfl⟩ : ∃ j, i = p.beforeWrap cursor + j := ⟨i - p.beforeWrap cursor, by omega⟩
      rw [Nat.add_assoc, place_behind (by omega), place_behind (by omega), Nat.mod_add_mod]

/-- The places of the last attempts before the wrap: counted back from where the range of the cursor
ends in the list, and around it. -/
theorem place_near {d : Nat} (positive : 0 < d) (near : d ≤ p.beforeWrap cursor)
    (around : d < p.nodes.length) (fits : p.nodes.length ≤ UInt64.size) :
    let ending := UInt64.size % p.nodes.length
    p.place cursor (p.beforeWrap cursor - d) =
      if d ≤ ending then ending - d else p.nodes.length + ending - d := by
  intro ending
  have wrap := p.start_add_beforeWrap cursor
  have ending_lt : ending < p.nodes.length := Nat.mod_lt _ (Nat.zero_lt_of_lt around)
  have split : p.nodes.length * (UInt64.size / p.nodes.length) + ending = UInt64.size :=
    Nat.div_add_mod _ _
  have rounds : 0 < UInt64.size / p.nodes.length :=
    Nat.div_pos fits (Nat.zero_lt_of_lt around)
  obtain ⟨more, round⟩ : ∃ more, UInt64.size / p.nodes.length = more + 1 :=
    ⟨_, (Nat.succ_pred_eq_of_pos rounds).symm⟩
  rw [round, Nat.mul_add, Nat.mul_one] at split
  rw [place_before (by omega)]
  -- the range of the cursor is some rounds of the list and `ending` more
  by_cases inside : d ≤ ending
  · have sum : (p.start cursor).1.toNat + (p.beforeWrap cursor - d) =
        ending - d + p.nodes.length * (more + 1) := by
      rw [Nat.mul_add, Nat.mul_one]
      omega
    rw [if_pos inside, sum, Nat.add_mul_mod_self_left, Nat.mod_eq_of_lt (by omega)]
  · have sum : (p.start cursor).1.toNat + (p.beforeWrap cursor - d) =
        p.nodes.length + ending - d + p.nodes.length * more := by
      omega
    rw [if_neg inside, sum, Nat.add_mul_mod_self_left, Nat.mod_eq_of_lt (by omega)]

end Places

section Visits

variable {p : Policy} {cursor : UInt64} {first count k : Nat}

/-- As many attempts in a row as there are nodes come to every place if all are before the wrap. -/
theorem visits_before (before : first + p.nodes.length ≤ p.beforeWrap cursor)
    (listed : k < p.nodes.length) :
    ∃ i, first ≤ i ∧ i < first + p.nodes.length ∧ p.place cursor i = k := by
  obtain ⟨j, small, there⟩ := exists_residue ((p.start cursor).1.toNat + first) listed
  refine ⟨first + j, Nat.le_add_right _ _, Nat.add_lt_add_left small _, ?_⟩
  rw [place_before (by omega), ← Nat.add_assoc, there]

theorem visits_behind (behind : p.beforeWrap cursor ≤ first)
    (small : first + p.nodes.length < UInt64.size) (listed : k < p.nodes.length) :
    ∃ i, first ≤ i ∧ i < first + p.nodes.length ∧ p.place cursor i = k := by
  obtain ⟨e, rfl⟩ := Nat.exists_eq_add_of_le behind
  obtain ⟨j, inside, there⟩ := exists_residue e listed
  refine ⟨p.beforeWrap cursor + e + j, Nat.le_add_right _ _, Nat.add_lt_add_left inside _, ?_⟩
  rw [Nat.add_assoc, place_behind (by omega), there]

/-- The attempts behind the wrap begin with the first node; the places that they do not get to are
those of the last attempts before it. -/
theorem visits_around (early : first ≤ p.beforeWrap cursor)
    (around : p.beforeWrap cursor < first + p.nodes.length)
    (enough : p.nodes.length + min (UInt64.size % p.nodes.length) (p.beforeWrap cursor - first) ≤
      count)
    (small : first + count < UInt64.size) (listed : k < p.nodes.length) :
    ∃ i, first ≤ i ∧ i < first + count ∧ p.place cursor i = k := by
  by_cases later : p.beforeWrap cursor + k < first + count
  · refine ⟨p.beforeWrap cursor + k, by omega, later, ?_⟩
    rw [place_behind (by omega), Nat.mod_eq_of_lt listed]
  · -- too far on to be reached from the first node, so it is counted back from the wrap
    let d := p.nodes.length + UInt64.size % p.nodes.length - k
    refine ⟨p.beforeWrap cursor - d, by omega, by omega, ?_⟩
    rw [place_near (by omega) (by omega) (by omega) (by omega), if_neg (by omega)]
    omega

/-- With the wrap among them and too few of them, the attempts leave out the last place of the list
or the one right before the first of them. -/
theorem place_ne_of_few (early : first ≤ p.beforeWrap cursor)
    (around : p.beforeWrap cursor < first + p.nodes.length)
    (few : count < p.nodes.length +
      min (UInt64.size % p.nodes.length) (p.beforeWrap cursor - first))
    (small : first + count < UInt64.size) (fits : p.nodes.length ≤ UInt64.size) {i : Nat}
    (later : first ≤ i) (inside : i < first + count) :
    p.place cursor i ≠
      p.nodes.length - 1 - (p.beforeWrap cursor - first - UInt64.size % p.nodes.length) := by
  have ending_lt : UInt64.size % p.nodes.length < p.nodes.length := Nat.mod_lt _ (by omega)
  by_cases before : i < p.beforeWrap cursor
  · obtain ⟨d, left⟩ : ∃ d, p.beforeWrap cursor = i + d := Nat.exists_eq_add_of_le (by omega)
    have back : i = p.beforeWrap cursor - d := by omega
    rw [back, place_near (by omega) (by omega) (by omega) fits]
    split <;> omega
  · obtain ⟨e, rfl⟩ := Nat.exists_eq_add_of_le (Nat.le_of_not_lt before)
    rw [place_behind (by omega), Nat.mod_eq_of_lt (by omega)]
    omega

end Visits

/-- Attempts in a row come to every place exactly if a whole turn of them is before the wrap or
there are enough to make up for what the wrap leaves out. -/
theorem visits_iff (p : Policy) (cursor : UInt64) (first : Nat) {count : Nat}
    (enough : p.nodes.length ≤ count) (small : first + count < UInt64.size) :
    let before := p.beforeWrap cursor - first
    (∀ k < p.nodes.length, ∃ i, first ≤ i ∧ i < first + count ∧ p.place cursor i = k) ↔
      p.nodes.length ≤ before ∨
        p.nodes.length + min (UInt64.size % p.nodes.length) before ≤ count := by
  intro before
  have longer {k : Nat} : (∃ i, first ≤ i ∧ i < first + p.nodes.length ∧ p.place cursor i = k) →
      ∃ i, first ≤ i ∧ i < first + count ∧ p.place cursor i = k :=
    fun ⟨i, later, inside, there⟩ => ⟨i, later, by omega, there⟩
  constructor
  · intro all
    refine Decidable.byContradiction fun few => ?_
    obtain ⟨i, later, inside, there⟩ :=
      all (p.nodes.length - 1 - (before - UInt64.size % p.nodes.length)) (by omega)
    exact place_ne_of_few (by omega) (by omega) (by omega) small (by omega) later inside there
  · intro fits k listed
    by_cases early : first < p.beforeWrap cursor
    · by_cases around : p.beforeWrap cursor < first + p.nodes.length
      · exact visits_around (by omega) around (by omega) small listed
      · exact longer (visits_before (by omega) listed)
    · exact longer (visits_behind (by omega) (by omega) listed)

section Reaching

variable {α : Type}

/-- A connection is made exactly if one of the attempts that are allowed would succeed. -/
theorem dial_ok_iff (p : Policy) (some_node : p.nodes ≠ [])
    (outcome : Nat → String → Except Fault α) (cursor : UInt64) (log : List DialStep) :
    (∃ made, ((p.dial (.recorded outcome) cursor).run log).1.1 = .ok made) ↔
      ∃ i < p.maxAttempts.toNat,
        ∃ link, outcome i (nodeAt p.nodes some_node (p.start cursor).1 i) = .ok link := by
  obtain ⟨last, ends, ran⟩ := p.dial_recorded some_node outcome cursor log
  have positive := p.maxAttempts_pos
  have within := ends.within
  rw [ran]
  constructor
  · rintro ⟨made, told⟩
    refine ⟨last, by omega, ?_⟩
    cases result : outcome last (nodeAt p.nodes some_node (p.start cursor).1 last) with
    | ok link => exact ⟨link, rfl⟩
    | error f =>
      rw [result] at told
      cases told
  · rintro ⟨i, allowed, link, succeeds⟩
    -- if the last attempt failed, all were made and the others failed too, so it is number `i`
    have first : last = i ∨ ∃ link,
        outcome last (nodeAt p.nodes some_node (p.start cursor).1 last) = .ok link := by
      obtain ended | all := ends.settled
      · exact .inr ended
      · refine .inl (Nat.le_antisymm (Nat.le_of_not_lt fun earlier => ?_) (by omega))
        obtain ⟨f, failed⟩ := ends.failed i (Nat.zero_le i) earlier
        cases succeeds.symm.trans failed
    obtain rfl | ⟨link, ended⟩ := first
    · exact ⟨_, congrArg (p.told _) succeeds⟩
    · exact ⟨_, congrArg (p.told _) ended⟩

/-- Where the attempts come to every place, a connection is made exactly if some node is there. -/
theorem dial_ok_iff_of_visits (p : Policy) (cursor : UInt64)
    (visits : ∀ k < p.nodes.length, ∃ i < p.maxAttempts.toNat, p.place cursor i = k)
    (some_node : p.nodes ≠ []) (reach : String → Except Fault α) (log : List DialStep) :
    (∃ made, ((p.dial (.recorded fun _ => reach) cursor).run log).1.1 = .ok made) ↔
      ∃ node ∈ p.nodes, ∃ link, reach node = .ok link := by
  rw [dial_ok_iff p some_node]
  constructor
  · rintro ⟨i, -, reached⟩
    exact ⟨_, List.mem_of_getElem? (p.getElem?_place some_node cursor i), reached⟩
  · rintro ⟨node, listed, reached⟩
    obtain ⟨k, inside, rfl⟩ := List.getElem_of_mem listed
    obtain ⟨i, allowed, there⟩ := visits k inside
    have same := p.getElem?_place some_node cursor i
    rw [there, List.getElem?_eq_getElem inside] at same
    exact ⟨i, allowed, Option.some.inj same ▸ reached⟩

end Reaching

/-- Which nodes the attempts of one connection reach, when there are at least as many as nodes: the
next one each time, but for a cursor that wraps around among them. -/
theorem dial_fails_over (p : Policy) (some_node : p.nodes ≠ [])
    (enough : p.nodes.length ≤ p.maxAttempts.toNat) (cursor : UInt64) :
    let n := p.nodes.length
    let left := UInt64.size - (p.start cursor).1.toNat
    let covered := p.nodeSelection = .ordered ∨ n ≤ left ∨
      n + min (UInt64.size % n) left ≤ p.maxAttempts.toNat
    (∀ i, p.nodes[p.place cursor i]? = some (nodeAt p.nodes some_node (p.start cursor).1 i)) ∧
    (∀ i < p.maxAttempts.toNat, p.place cursor (i + 1) =
      if i + 1 = left then 0 else (p.place cursor i + 1) % n) ∧
    (∀ first, first + n ≤ p.maxAttempts.toNat →
      ((∀ k < n, ∃ i, first ≤ i ∧ i < first + n ∧ p.place cursor i = k) ↔
        first + n ≤ left ∨ left ≤ first ∨ n ∣ UInt64.size)) ∧
    ((∀ k < n, ∃ i < p.maxAttempts.toNat, p.place cursor i = k) ↔ covered) ∧
    (covered → ∀ {α : Type} (reach : String → Except Fault α) (log : List DialStep),
      (∃ made, ((p.dial (.recorded fun _ => reach) cursor).run log).1.1 = .ok made) ↔
        ∃ node ∈ p.nodes, ∃ link, reach node = .ok link) := by
  intro n left covered
  have range := p.maxAttempts_lt
  have positive : 0 < n := List.length_pos_iff.mpr some_node
  have visits : (∀ k < n, ∃ i < p.maxAttempts.toNat, p.place cursor i = k) ↔ covered := by
    have all := p.visits_iff cursor 0 enough (by omega)
    simp only [Nat.zero_le, true_and, Nat.zero_add, Nat.sub_zero] at all
    refine all.trans ⟨.inr, ?_⟩
    rintro (ordered | fits)
    · rw [beforeWrap_of_ordered ordered]
      exact .inl (by omega)
    · exact fits
  refine ⟨p.getElem?_place some_node cursor, fun i allowed => place_succ (by omega),
    fun first inside => ?_, visits,
    fun holds => p.dial_ok_iff_of_visits cursor (visits.mpr holds) some_node⟩
  refine (p.visits_iff cursor first (Nat.le_refl _) (by omega)).trans ?_
  rw [Nat.dvd_iff_mod_eq_zero]
  change n ≤ left - first ∨ n + min (UInt64.size % n) (left - first) ≤ n ↔ _
  omega

/-- Three nodes from the last value of the cursor but one: with four attempts the second node is
reached behind the wrap, by the last of them. -/
theorem dial_fails_over_three_nodes :
    let p : Policy := { nodes := ["a", "b", "c"], maxRetries := 3 }
    let reach (node : String) : Except Fault Unit :=
      if node = "b" then .ok () else .error (.ofKind .connectionRefused)
    p.nodes ≠ [] ∧ p.nodes.length ≤ p.maxAttempts.toNat ∧
      ∃ made, ((p.dial (.recorded fun _ => reach) 0xFFFFFFFFFFFFFFFE).run []).1.1 = .ok made := by
  intro p reach
  have some_node : p.nodes ≠ [] := List.cons_ne_nil _ _
  have enough : p.nodes.length ≤ p.maxAttempts.toNat := by decide
  obtain ⟨-, -, -, -, reaches⟩ := p.dial_fails_over some_node enough 0xFFFFFFFFFFFFFFFE
  refine ⟨some_node, enough, (reaches (.inr (.inr ?_)) reach []).mpr ⟨"b", ?_, (), rfl⟩⟩
  · decide
  · decide

/-- With three attempts it is not: two of them are at the first node, on both sides of the wrap, and
the second one, the only one that is there, is left out. -/
theorem dial_misses_reachable_node :
    let p : Policy := { nodes := ["a", "b", "c"], maxRetries := 2 }
    let reach (node : String) : Except Fault Unit :=
      if node = "b" then .ok () else .error (.ofKind .connectionRefused)
    p.nodes.length ≤ p.maxAttempts.toNat ∧ (∃ node ∈ p.nodes, reach node = .ok ()) ∧
    (p.dial (.recorded fun _ => reach) 0xFFFFFFFFFFFFFFFE).run [] =
      ((.error (.connection
          "could not connect after 3 attempt(s), last error: a: connection refused"),
        0xFFFFFFFFFFFFFFFF),
      [.attempt 0 "c", .pause 100, .attempt 1 "a", .pause 100, .attempt 2 "a"]) := by
  dsimp only
  refine ⟨by decide, ⟨"b", by decide, rfl⟩, ?_⟩
  rfl

end AtomicKv.Policy
