import AtomicKv.Proofs.KeyIsolation
import Mathlib.Data.List.Dedup

/-!
# What a store counts

Only a write brings a key into a store, and no command takes one out (`mem_keys_execute`). Behind a
run on an empty store the keys are therefore those of its writes (`keys_perm_written`), each of them
once however often it was written. The count of the entries and the number of their bytes are read
off these keys and the values under them (`size_eq_extent`), and a read or a test-and-set misses its
key exactly when it is none of them (`execute_eq_notFound_iff`).
-/
namespace AtomicKv

/-- The keys of the writes among some commands, each once. -/
def Command.written (commands : List Command) : List Bytes :=
  ((commands.filter fun c => c.kind = .write).map Command.key).dedup

theorem Command.mem_written {commands : List Command} {key : Bytes} :
    key ∈ written commands ↔ ∃ c ∈ commands, c.kind = .write ∧ c.key = key := by
  simp [written, and_assoc]

namespace Store

variable {s : Store} {key : Bytes}

def keys (s : Store) : List Bytes :=
  s.entries.map Prod.fst

/-- The number of bytes in some keys and in the values that are given for them. -/
def extent (value : Bytes → Bytes) (keys : List Bytes) : Nat :=
  keys.foldr (fun key size => key.length + (value key).length + size) 0

/-- In whatever order they are added up. -/
theorem extent_perm (value : Bytes → Bytes) {keys keys' : List Bytes} (same : keys.Perm keys') :
    extent value keys = extent value keys' := by
  refine same.foldr_eq' ?_ 0
  intro _ _ _ _ size
  omega

theorem nodup_keys (s : Store) : s.keys.Nodup :=
  s.distinct

theorem length_keys (s : Store) : s.keys.length = s.count :=
  List.length_map _

theorem mem_keys_iff : key ∈ s.keys ↔ ∃ value, s.get? key = some value := by
  simp only [keys, List.mem_map, Prod.exists, exists_and_right, exists_eq_right, mem_entries_iff]

theorem not_mem_keys_iff : key ∉ s.keys ↔ s.get? key = none := by
  rw [mem_keys_iff, Option.eq_none_iff_forall_ne_some, not_exists]

/-- A command adds the key that it writes, if it is a write, and nothing else. -/
theorem mem_keys_execute {c : Command} :
    key ∈ (s.execute c).2.keys ↔ key ∈ s.keys ∨ c.kind = .write ∧ c.key = key := by
  have placed (own value : Bytes) : key ∈ (s.insert own value).keys ↔ key = own ∨ key ∈ s.keys :=
    mem_keys_place
  cases c with
  | read own =>
    cases held : s.get? own with
    | none => simp [execute_read_of_missing held, Command.kind]
    | some current => simp [execute_read_of_held held, Command.kind]
  | write own value =>
    change key ∈ (s.insert own value).keys ↔ _
    rw [placed, or_comm, eq_comm]
    simp [Command.kind, Command.key]
  | testAndSet own expected value =>
    cases held : s.get? own with
    | none => simp [execute_testAndSet_of_missing held, Command.kind]
    | some current =>
      rw [execute_testAndSet_of_held held]
      split
      · -- the key of a swap that succeeds is there already
        have there : own ∈ s.keys := mem_keys_iff.mpr ⟨current, held⟩
        simp only [placed, Command.kind, reduceCtorEq, false_and, or_false, or_iff_right_iff_imp]
        rintro rfl
        exact there
      · simp [Command.kind]

theorem mem_keys_after {commands : List Command} :
    key ∈ (s.after commands).keys ↔
      key ∈ s.keys ∨ ∃ c ∈ commands, c.kind = .write ∧ c.key = key := by
  induction commands generalizing s with
  | nil => simp [after]
  | cons c commands ih =>
    have later : key ∈ (s.after (c :: commands)).keys ↔ _ := ih
    rw [later, mem_keys_execute, or_assoc, List.exists_mem_cons_iff]

/-- No command takes a key out. -/
theorem count_le_count_after (s : Store) (commands : List Command) :
    s.count ≤ (s.after commands).count := by
  rw [← length_keys, ← length_keys]
  have kept : s.keys ⊆ (s.after commands).keys := fun _ member =>
    mem_keys_after.mpr (Or.inl member)
  exact s.nodup_keys.length_le_of_subset kept

/-- A command that is no write leaves the keys as they are. -/
theorem keys_execute_perm {c : Command} (no_write : c.kind ≠ .write) :
    (s.execute c).2.keys.Perm s.keys := by
  apply (List.perm_ext_iff_of_nodup (nodup_keys _) s.nodup_keys).mpr
  intro key
  exact mem_keys_execute.trans (or_iff_left fun written => no_write written.1)

/-- The keys behind a run on an empty store are those of its writes. -/
theorem keys_perm_written (commands : List Command) :
    (empty.after commands).keys.Perm (Command.written commands) := by
  have once : (Command.written commands).Nodup := List.nodup_dedup _
  apply (List.perm_ext_iff_of_nodup (nodup_keys _) once).mpr
  intro key
  rw [Command.mem_written]
  exact mem_keys_after.trans (or_iff_right List.not_mem_nil)

/-- The bytes of a store are those of its keys and of what is found under each of them. -/
theorem size_eq_extent {value : Bytes → Bytes}
    (held : ∀ key ∈ s.keys, s.get? key = some (value key)) :
    s.size = extent value s.keys := by
  have found : ∀ entry ∈ s.entries, entry.2 = value entry.1 := by
    rintro ⟨key, stored⟩ member
    have under := s.mem_entries_iff.mp member
    rw [held key (List.mem_map_of_mem member)] at under
    exact (Option.some.inj under).symm
  unfold size extent keys
  generalize s.entries = entries at found
  induction entries with
  | nil => rfl
  | cons entry rest ih =>
    obtain ⟨key, stored⟩ := entry
    obtain ⟨first, later⟩ := List.forall_mem_cons.mp found
    obtain rfl : stored = value key := first
    rw [List.foldr_cons, ih later, List.map_cons, List.foldr_cons]

/-- A read or a test-and-set is told that there is nothing exactly when its key is not there. -/
theorem execute_eq_notFound_iff {c : Command} (no_write : c.kind ≠ .write) :
    (s.execute c).1 = .notFound ↔ c.key ∉ s.keys := by
  rw [not_mem_keys_iff]
  cases c with
  | read own =>
    change _ ↔ s.get? own = none
    cases held : s.get? own with
    | none => simp [execute_read_of_missing held]
    | some current => simp [execute_read_of_held held, Reply.ok, Reply.notFound]
  | write own value => exact absurd rfl no_write
  | testAndSet own expected value =>
    change _ ↔ s.get? own = none
    cases held : s.get? own with
    | none => simp [execute_testAndSet_of_missing held]
    | some current =>
      rw [execute_testAndSet_of_held held]
      split <;> simp [Reply.ok, Reply.keyChanged, Reply.notFound]

/-- The keys of a store are those that were written, each once; its count, its size and what it does
not find follow from them. -/
theorem books_exact (commands : List Command) :
    let store := empty.after commands
    let written := Command.written commands
    store.keys.Perm written ∧
      store.count = written.length ∧
      (∀ more, store.count ≤ (empty.after (commands ++ more)).count) ∧
      (store.isEmpty = true ↔ ∀ c ∈ commands, c.kind ≠ .write) ∧
      (∃ value : Bytes → Bytes, (∀ key ∈ written, store.get? key = some (value key)) ∧
        store.size = extent value written) ∧
      ∀ c : Command, c.kind ≠ .write →
        ((store.execute c).1 = .notFound ↔
          ∀ d ∈ commands, d.kind = .write → d.key ≠ c.key) ∧
        (store.execute c).2.keys.Perm store.keys := by
  intro store written
  have keys : store.keys.Perm written := keys_perm_written commands
  refine ⟨keys, ?_, fun more => ?_, ?_, ?_, fun c no_write => ⟨?_, keys_execute_perm no_write⟩⟩
  · rw [← length_keys, keys.length_eq]
  · rw [Session.after_append]
    exact store.count_le_count_after more
  · have nothing : store.isEmpty = true ↔ store.keys = [] := by
      rw [isEmpty, List.isEmpty_iff, Store.keys, List.map_eq_nil_iff]
    rw [nothing, List.eq_nil_iff_forall_not_mem]
    constructor
    · intro none_held c member writes
      exact none_held c.key (keys.mem_iff.mpr (Command.mem_written.mpr ⟨c, member, writes, rfl⟩))
    · intro no_write key held
      obtain ⟨c, member, writes, -⟩ := Command.mem_written.mp (keys.mem_iff.mp held)
      exact no_write c member writes
  · let value (key : Bytes) : Bytes := (store.get? key).getD []
    have held : ∀ key ∈ store.keys, store.get? key = some (value key) := by
      intro key member
      obtain ⟨stored, found⟩ := mem_keys_iff.mp member
      simp only [value, found, Option.getD_some]
    refine ⟨value, fun key member => held key (keys.mem_iff.mpr member), ?_⟩
    rw [size_eq_extent held, extent_perm value keys]
  · rw [execute_eq_notFound_iff no_write, keys.mem_iff, Command.mem_written]
    simp only [not_exists, not_and, ne_eq]

/-- Swaps on a key that is not there, an overwriting by a shorter value, the empty key, and swaps
that are told of a change and of success by a longer value. -/
theorem books_exact_run :
    let commands : List Command :=
      [.testAndSet [7] [] [1], .write [7] [1, 2, 3], .write [7] [4], .write [] [5],
        .testAndSet [7] [9] [], .testAndSet [7] [4] [6, 6]]
    let store := empty.after commands
    store.keys.Perm [[7], []] ∧ store.count = 2 ∧
      store.count ≤ (empty.after (commands ++ [.read [8]])).count ∧
      (store.isEmpty = true ↔ ∀ c ∈ commands, c.kind ≠ .write) ∧
      store.size = 4 ∧ (Command.read [8]).kind ≠ .write ∧
      (store.execute (.read [8])).1 = .notFound ∧
      (store.execute (.testAndSet [] [] [1])).1 ≠ .notFound ∧
      (store.execute (.testAndSet [] [5] [1])).2.keys.Perm store.keys := by
  intro commands store
  have written : Command.written commands = [[7], []] := by decide
  obtain ⟨keys, count, grows, empty_iff, ⟨value, held, size⟩, others⟩ := books_exact commands
  rw [written] at keys count held size
  have seven : some (value [7]) = some [6, 6] := (held [7] (by decide)).symm.trans (by decide)
  have nothing : some (value []) = some [5] := (held [] (by decide)).symm.trans (by decide)
  have four : store.size = 4 := by
    rw [size, extent, List.foldr_cons, List.foldr_cons, Option.some.inj seven,
      Option.some.inj nothing]
    rfl
  obtain ⟨missing, -⟩ := others (.read [8]) nofun
  obtain ⟨present, -⟩ := others (.testAndSet [] [] [1]) nofun
  refine ⟨keys, count, grows _, empty_iff, four, nofun, missing.mpr (by decide), ?_, ?_⟩
  · exact fun told => present.mp told (.write [] [5]) (by decide) rfl rfl
  · exact (others (.testAndSet [] [5] [1]) nofun).2

end Store
end AtomicKv
