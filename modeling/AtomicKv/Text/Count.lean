/-!
# Decimal counts

A count is written as ASCII digits, with one optional plus sign in front and any number of
leading zeros, and has an upper bound. A signed count also admits a minus sign, which only a
zero can carry. Reading stops where the bound is passed, so that the numbers computed on the
way stay small however many digits there are; `digits?_eq_some_iff` says what is read in terms
of the number all digits stand for.
-/
namespace AtomicKv.Count

/-- A number with one more digit behind it. -/
def shift (n : Nat) (c : Char) : Nat :=
  10 * n + (c.toNat - '0'.toNat)

def value (cs : List Char) : Nat :=
  cs.foldl shift 0

/-- Puts digits behind a number, as long as it stays within the bound. -/
def extend? (bound n : Nat) : List Char → Option Nat
  | [] => some n
  | c :: cs =>
    if c.isDigit ∧ shift n c ≤ bound then extend? bound (shift n c) cs else none

/-- The value of one or more ASCII digits, if there is nothing else and it is at most
`bound`. -/
def digits? (bound : Nat) (cs : List Char) : Option Nat :=
  if cs = [] then none else extend? bound 0 cs

/-- More digits never make a number smaller. -/
theorem le_foldl_shift (n : Nat) (cs : List Char) : n ≤ cs.foldl shift n := by
  induction cs generalizing n with
  | nil => exact Nat.le_refl n
  | cons c cs ih =>
    have step : n ≤ shift n c := by simp only [shift]; omega
    exact Nat.le_trans step (ih (shift n c))

theorem extend?_eq_some_iff {bound n m : Nat} {cs : List Char} (within : n ≤ bound) :
    extend? bound n cs = some m ↔
      cs.all Char.isDigit ∧ cs.foldl shift n = m ∧ m ≤ bound := by
  induction cs generalizing n with
  | nil =>
    simp only [extend?, Option.some.injEq, List.all_nil, List.foldl_nil, true_and]
    exact ⟨fun h => ⟨h, h ▸ within⟩, And.left⟩
  | cons c cs ih =>
    simp only [extend?, List.all_cons, List.foldl_cons, Bool.and_eq_true]
    split
    · rename_i next
      rw [ih next.2]
      simp [next.1]
    · rename_i stop
      have grows := le_foldl_shift (shift n c) cs
      constructor
      · intro h
        cases h
      · rintro ⟨⟨digit, -⟩, rfl, most⟩
        exact absurd ⟨digit, Nat.le_trans grows most⟩ stop

/-- What is read is the number that the digits stand for, when there are digits only and it is
within the bound. -/
theorem digits?_eq_some_iff {bound m : Nat} {cs : List Char} :
    digits? bound cs = some m ↔
      cs ≠ [] ∧ cs.all Char.isDigit ∧ value cs = m ∧ m ≤ bound := by
  simp only [digits?]
  split
  · rename_i empty
    simp [empty]
  · rename_i some_digit
    rw [extend?_eq_some_iff (Nat.zero_le bound)]
    simp [some_digit, value]

def unsigned? (bound : Nat) : List Char → Option Nat
  | '+' :: cs => digits? bound cs
  | cs => digits? bound cs

def signed? (bound : Nat) : List Char → Option Nat
  | '-' :: cs => digits? 0 cs
  | cs => unsigned? bound cs

end AtomicKv.Count
