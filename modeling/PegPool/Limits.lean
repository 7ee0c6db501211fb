/-!
# Limits

Two ranges of natural numbers meet in a pool. What is stored or handed out
fits 128 bits and is called narrow; what arises on the way may take 256 bits
and is called wide. Prices and indexes are counted in rays.
-/

namespace PegPool

/-- The largest number that a record or an answer can hold. -/
def narrowMax : Nat := Nat.pow 2 128 - 1

/-- The largest number that an intermediate result may reach. -/
def wideMax : Nat := Nat.pow 2 256 - 1

/-- One, as a fixed-point number with 27 decimal places. -/
def Ray.one : Nat := Nat.pow 10 27

/-- Pool tokens minted to the first depositor of a new pool. -/
def firstSupply : Nat := 1000000000

theorem narrowMax_le_wideMax : narrowMax ≤ wideMax := by decide

theorem Ray.one_le_narrowMax : Ray.one ≤ narrowMax := by decide

end PegPool
