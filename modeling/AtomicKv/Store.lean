import AtomicKv.Reply

/-!
# The store

A node keeps a finite map from byte strings to byte strings. Values are compared byte by
byte and never looked into. A test-and-set compares and replaces in one step and creates no
key.
-/
namespace AtomicKv

/-- A finite map: no key occurs twice. -/
structure Store where
  entries : List (Bytes × Bytes) := []
  distinct : (entries.map Prod.fst).Nodup := by simp

namespace Store

def empty : Store := {}

instance : Inhabited Store := ⟨empty⟩

def get? (s : Store) (key : Bytes) : Option Bytes :=
  s.entries.lookup key

/-- Entries with the value under a key replaced, or put last under a new key. -/
def place (key value : Bytes) : List (Bytes × Bytes) → List (Bytes × Bytes)
  | [] => [(key, value)]
  | entry :: rest =>
    if entry.1 = key then (key, value) :: rest else entry :: place key value rest

/-- Placing a value adds at most its own key. -/
theorem mem_keys_place {key value k : Bytes} {entries : List (Bytes × Bytes)} :
    k ∈ (place key value entries).map Prod.fst ↔ k = key ∨ k ∈ entries.map Prod.fst := by
  induction entries with
  | nil => simp [place]
  | cons entry rest ih =>
    by_cases same : entry.1 = key
    · simp [place, same]
    · simp only [place, same, if_false, List.map_cons, List.mem_cons, ih]
      constructor
      · rintro (h | h | h) <;> simp [h]
      · rintro (h | h | h) <;> simp [h]

theorem nodup_place {key value : Bytes} {entries : List (Bytes × Bytes)}
    (distinct : (entries.map Prod.fst).Nodup) :
    ((place key value entries).map Prod.fst).Nodup := by
  induction entries with
  | nil => simp [place]
  | cons entry rest ih =>
    rw [List.map_cons, List.nodup_cons] at distinct
    by_cases same : entry.1 = key
    · simp only [place, same, if_true, List.map_cons, List.nodup_cons]
      exact same ▸ distinct
    · simp only [place, if_neg same, List.map_cons, List.nodup_cons, mem_keys_place]
      exact ⟨fun h => h.elim same distinct.1, ih distinct.2⟩

def insert (s : Store) (key value : Bytes) : Store :=
  ⟨place key value s.entries, nodup_place s.distinct⟩

theorem lookup_entry {stored old k : Bytes} {rest : List (Bytes × Bytes)} :
    List.lookup k ((stored, old) :: rest) = if k = stored then some old else rest.lookup k := by
  by_cases here : k = stored
  · rw [if_pos here, here, List.lookup_cons_self]
  · have test : (k == stored) = false := beq_eq_false_iff_ne.mpr here
    rw [if_neg here, List.lookup_cons, test]

theorem lookup_place {key value k : Bytes} {entries : List (Bytes × Bytes)} :
    (place key value entries).lookup k = if k = key then some value else entries.lookup k := by
  induction entries with
  | nil => rw [place, lookup_entry]
  | cons entry rest ih =>
    obtain ⟨stored, old⟩ := entry
    by_cases replaced : stored = key
    · by_cases same : k = key <;> simp [place, lookup_entry, replaced, same]
    · by_cases here : k = stored <;> simp [place, lookup_entry, here, replaced, ih]

/-- A value put under a key is found there, and under every other key what was found before. -/
@[simp] theorem get?_insert (s : Store) (key value k : Bytes) :
    (s.insert key value).get? k = if k = key then some value else s.get? k :=
  lookup_place

inductive Swap where
  | replaced
  /-- Another value is stored, and stays. -/
  | mismatch (current : Bytes)
  /-- Nothing is stored, and nothing is created. -/
  | missing
  deriving DecidableEq, Repr

/-- Replaces the value under a key if it is the expected one. -/
def testAndSet (s : Store) (key expected value : Bytes) : Swap × Store :=
  match s.get? key with
  | none => (.missing, s)
  | some current =>
    if current = expected then (.replaced, s.insert key value) else (.mismatch current, s)

def execute (s : Store) : Command → Reply × Store
  | .read key =>
    match s.get? key with
    | some value => (.ok (some value), s)
    | none => (.notFound, s)
  | .write key value => (.ok none, s.insert key value)
  | .testAndSet key expected value =>
    match s.testAndSet key expected value with
    | (.replaced, s') => (.ok none, s')
    | (.mismatch current, s') => (.keyChanged current, s')
    | (.missing, s') => (.notFound, s')

theorem execute_read_of_held {s : Store} {key current : Bytes} (held : s.get? key = some current) :
    s.execute (.read key) = (.ok (some current), s) := by
  simp only [execute, held]

theorem execute_read_of_missing {s : Store} {key : Bytes} (missing : s.get? key = none) :
    s.execute (.read key) = (.notFound, s) := by
  simp only [execute, missing]

theorem execute_testAndSet_of_held {s : Store} {key current : Bytes}
    (held : s.get? key = some current) (expected value : Bytes) :
    s.execute (.testAndSet key expected value) =
      if current = expected then (.ok none, s.insert key value) else (.keyChanged current, s) := by
  simp only [execute, testAndSet, held]
  by_cases same : current = expected
  · rw [if_pos same, if_pos same]
  · rw [if_neg same, if_neg same]

theorem execute_testAndSet_of_missing {s : Store} {key : Bytes} (missing : s.get? key = none)
    (expected value : Bytes) : s.execute (.testAndSet key expected value) = (.notFound, s) := by
  simp only [execute, testAndSet, missing]

/-- A command leaves the values under all keys but its own as they were. -/
theorem get?_execute_of_ne (s : Store) {c : Command} {k : Bytes} (other : c.key ≠ k) :
    (s.execute c).2.get? k = s.get? k := by
  have placed (key value : Bytes) (ne : key ≠ k) : (s.insert key value).get? k = s.get? k :=
    (s.get?_insert key value k).trans (if_neg (Ne.symm ne))
  cases c with
  | read key =>
    cases held : s.get? key with
    | none => rw [execute_read_of_missing held]
    | some current => rw [execute_read_of_held held]
  | write key value => exact placed key value other
  | testAndSet key expected value =>
    cases held : s.get? key with
    | none => rw [execute_testAndSet_of_missing held]
    | some current =>
      rw [execute_testAndSet_of_held held]
      split
      · exact placed key value other
      · rfl

def count (s : Store) : Nat :=
  s.entries.length

def isEmpty (s : Store) : Bool :=
  s.entries.isEmpty

/-- The number of bytes in keys and values. -/
def size (s : Store) : Nat :=
  s.entries.foldr (fun (key, value) size => key.length + value.length + size) 0

end Store
end AtomicKv
