import PegPool.Limits

/-!
# Narrow numbers

The fields of a stored record: natural numbers of at most 128 bits.
-/

namespace PegPool

/-- A natural number of at most 128 bits. -/
structure Narrow where
  toNat : Nat
  toNat_le : toNat ≤ narrowMax
  deriving DecidableEq

namespace Narrow

instance : Coe Narrow Nat := ⟨toNat⟩

@[ext] theorem ext {m n : Narrow} (h : m.toNat = n.toNat) : m = n := by
  cases m; cases n; cases h; rfl

/-- Zero. -/
def zero : Narrow := ⟨0, Nat.zero_le _⟩

/-- One ray. -/
def oneRay : Narrow := ⟨Ray.one, Ray.one_le_narrowMax⟩

/-- The narrow number equal to an integer, if there is one. -/
def ofInt? (value : Int) : Option Narrow :=
  if h : 0 ≤ value ∧ value.toNat ≤ narrowMax then some ⟨value.toNat, h.2⟩ else none

theorem ofInt?_toNat (n : Narrow) : ofInt? n.toNat = some n := by
  simp [ofInt?, n.toNat_le]

theorem toNat_of_ofInt? {value : Int} {n : Narrow} (h : ofInt? value = some n) :
    (n.toNat : Int) = value := by
  unfold ofInt? at h
  split at h
  · rename_i hv
    cases h
    exact Int.toNat_of_nonneg hv.1
  · cases h

theorem ofInt?_eq_none_iff {value : Int} :
    ofInt? value = none ↔ value < 0 ∨ (narrowMax : Int) < value := by
  unfold ofInt?
  split
  · rename_i hv
    simp only [reduceCtorEq, false_iff]
    omega
  · rename_i hv
    simp only [true_iff]
    omega

end Narrow

end PegPool
