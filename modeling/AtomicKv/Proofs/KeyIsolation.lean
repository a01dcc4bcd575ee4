import AtomicKv.Proofs.NoLostUpdate

/-!
# Keys do not interfere

What a command is replied, and what it leaves under its key, depends on what is stored under that
key only (`execute_congr`), and a command leaves all other keys alone. So a run looks, from each
key, like the run of the commands on that key (`told_of_agree`), and the order between commands
on different keys can be seen in no reply and in no store. That is so for any byte strings as keys:
they are compared as a whole.
-/
namespace AtomicKv

/-- The commands on a key, in order. -/
def Command.on (key : Bytes) (commands : List Command) : List Command :=
  commands.filter fun c => c.key = key

namespace Store

/-- The commands of a run that are on a key, each with the reply to it. -/
def told (store : Store) (key : Bytes) (commands : List Command) : List (Command × Reply) :=
  (store.history commands).filter fun event => event.1.key = key

structure Alike (s t : Store) : Prop where
  get?_eq : ∀ key, s.get? key = t.get? key
  count_eq : s.count = t.count
  size_eq : s.size = t.size

theorem mem_iff_lookup_eq {key value : Bytes} {entries : List (Bytes × Bytes)}
    (distinct : (entries.map Prod.fst).Nodup) :
    (key, value) ∈ entries ↔ entries.lookup key = some value := by
  induction entries with
  | nil => simp
  | cons entry rest ih =>
    obtain ⟨stored, old⟩ := entry
    rw [List.map_cons, List.nodup_cons] at distinct
    rw [lookup_entry, List.mem_cons, Prod.mk.injEq, ih distinct.2]
    by_cases here : key = stored
    · subst here
      have absent : rest.lookup key ≠ some value := fun found =>
        distinct.1 (List.mem_map.mpr ⟨(key, value), (ih distinct.2).mpr found, rfl⟩)
      rw [if_pos rfl, Option.some.injEq]
      constructor
      · rintro (⟨-, rfl⟩ | found)
        · rfl
        · exact absurd found absent
      · rintro rfl
        exact Or.inl ⟨rfl, rfl⟩
    · rw [if_neg here]
      exact or_iff_right fun same => here same.1

theorem nodup_entries (s : Store) : s.entries.Nodup :=
  List.Pairwise.of_map Prod.fst (fun _ _ other same => other (congrArg Prod.fst same)) s.distinct

/-- The entries are what is found under the keys. -/
theorem mem_entries_iff (s : Store) {key value : Bytes} :
    (key, value) ∈ s.entries ↔ s.get? key = some value :=
  mem_iff_lookup_eq s.distinct

/-- Stores that hold the same under every key hold the same entries, if in another order. -/
theorem alike_of_get?_eq {s t : Store} (same : ∀ key, s.get? key = t.get? key) : s.Alike t := by
  have entries : s.entries.Perm t.entries := by
    apply (List.perm_ext_iff_of_nodup s.nodup_entries t.nodup_entries).mpr
    rintro ⟨key, value⟩
    rw [mem_entries_iff, mem_entries_iff, same]
  refine ⟨same, entries.length_eq, entries.foldr_eq' ?_ 0⟩
  intro _ _ _ _ size
  dsimp only
  omega

theorem get?_insert_self (s : Store) (key value : Bytes) :
    (s.insert key value).get? key = some value :=
  (s.get?_insert key value key).trans (if_pos rfl)

/-- The effect of a command on its key is settled by what is stored there. -/
theorem execute_congr {s t : Store} {c : Command} (same : s.get? c.key = t.get? c.key) :
    (s.execute c).1 = (t.execute c).1 ∧
      (s.execute c).2.get? c.key = (t.execute c).2.get? c.key := by
  cases c with
  | read key =>
    change s.get? key = t.get? key at same
    cases held : s.get? key with
    | none =>
      rw [execute_read_of_missing held, execute_read_of_missing (same.symm.trans held)]
      exact ⟨rfl, same⟩
    | some current =>
      rw [execute_read_of_held held, execute_read_of_held (same.symm.trans held)]
      exact ⟨rfl, same⟩
  | write key value =>
    exact ⟨rfl, (s.get?_insert_self key value).trans (t.get?_insert_self key value).symm⟩
  | testAndSet key expected value =>
    change s.get? key = t.get? key at same
    cases held : s.get? key with
    | none =>
      rw [execute_testAndSet_of_missing held,
        execute_testAndSet_of_missing (same.symm.trans held)]
      exact ⟨rfl, same⟩
    | some current =>
      rw [execute_testAndSet_of_held held, execute_testAndSet_of_held (same.symm.trans held)]
      split
      · exact ⟨rfl, (s.get?_insert_self key value).trans (t.get?_insert_self key value).symm⟩
      · exact ⟨rfl, same⟩

/-- From a key, a run looks like the run of the commands on it, on any store that holds the same
there. -/
theorem told_of_agree {s t : Store} {key : Bytes} (same : s.get? key = t.get? key)
    (commands : List Command) :
    s.told key commands = t.history (Command.on key commands) ∧
      (s.after commands).get? key = (t.after (Command.on key commands)).get? key := by
  induction commands generalizing s t with
  | nil => exact ⟨rfl, same⟩
  | cons c commands ih =>
    by_cases here : c.key = key
    · subst here
      obtain ⟨reply, stored⟩ := execute_congr same
      obtain ⟨later, final⟩ := ih stored
      have own : Command.on c.key (c :: commands) = c :: Command.on c.key commands :=
        List.filter_cons_of_pos (decide_eq_true rfl)
      rw [own]
      refine ⟨?_, final⟩
      rw [told, history, List.filter_cons_of_pos (by simp), history, reply]
      exact congrArg _ later
    · have untouched : (s.execute c).2.get? key = t.get? key :=
        (s.get?_execute_of_ne here).trans same
      obtain ⟨later, final⟩ := ih untouched
      have own : Command.on key (c :: commands) = Command.on key commands :=
        List.filter_cons_of_neg (by simpa using here)
      rw [own]
      refine ⟨?_, final⟩
      rw [told, history, List.filter_cons_of_neg (by simpa using here)]
      exact later

/-- Keys do not interfere: from each key, a run of commands looks like the run of the commands on
that key alone. -/
theorem keys_isolated (store : Store) (commands : List Command) :
    (∀ key, let own := Command.on key commands
      store.told key commands = store.history own ∧
        (store.after commands).get? key = (store.after own).get? key) ∧
    (∀ reordered, (∀ key, Command.on key reordered = Command.on key commands) →
      (∀ key, store.told key reordered = store.told key commands) ∧
        (store.after reordered).Alike (store.after commands)) ∧
    ∀ c d : Command, c.key ≠ d.key →
      ((store.execute d).2.execute c).1 = (store.execute c).1 ∧
        ((store.execute c).2.execute d).1 = (store.execute d).1 ∧
        ((store.execute c).2.execute d).2.Alike ((store.execute d).2.execute c).2 := by
  refine ⟨fun key => told_of_agree rfl commands, fun reordered own => ⟨fun key => ?_, ?_⟩,
    fun c d other => ⟨?_, ?_, ?_⟩⟩
  · rw [(told_of_agree rfl reordered).1, (told_of_agree rfl commands).1, own key]
  · apply alike_of_get?_eq
    intro key
    rw [(told_of_agree rfl reordered).2, (told_of_agree rfl commands).2, own key]
  · exact (execute_congr (store.get?_execute_of_ne other.symm)).1
  · exact (execute_congr (store.get?_execute_of_ne other)).1
  · apply alike_of_get?_eq
    intro key
    by_cases at_c : c.key = key
    · subst at_c
      rw [get?_execute_of_ne _ other.symm,
        (execute_congr (store.get?_execute_of_ne other.symm)).2]
    · by_cases at_d : d.key = key
      · subst at_d
        rw [get?_execute_of_ne _ other, (execute_congr (store.get?_execute_of_ne other)).2]
      · rw [get?_execute_of_ne _ at_d, get?_execute_of_ne _ at_c, get?_execute_of_ne _ at_c,
          get?_execute_of_ne _ at_d]

/-- A key and a longer one that begins with it, and the empty key: what happens under the others is
not seen from the first one, and commands on them can trade places. -/
theorem keys_isolated_prefix :
    let commands : List Command :=
      [.write [7] [1], .write [7, 0] [2], .testAndSet [7] [2] [], .testAndSet [7, 0] [2] [3],
        .write [] [1], .read [7]]
    empty.told [7] commands =
        [(.write [7] [1], .ok none), (.testAndSet [7] [2] [], .keyChanged [1]),
          (.read [7], .ok (some [1]))] ∧
      (empty.after commands).get? [7] = some [1] ∧
      (Command.write [7] [1]).key ≠ (Command.write [7, 0] [2]).key ∧
      ((empty.execute (.write [7] [1])).2.execute (.write [7, 0] [2])).2.Alike
        ((empty.execute (.write [7, 0] [2])).2.execute (.write [7] [1])).2 := by
  intro commands
  obtain ⟨seen, -, commute⟩ := keys_isolated empty commands
  obtain ⟨told, stored⟩ := seen [7]
  have other : (Command.write [7] [1]).key ≠ (Command.write [7, 0] [2]).key := by decide
  exact ⟨told.trans (by decide), stored.trans (by decide), other, (commute _ _ other).2.2⟩

end Store
end AtomicKv
