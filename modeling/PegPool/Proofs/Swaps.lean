import Mathlib.Algebra.BigOperators.Group.List.Basic
import Mathlib.Data.List.Chain
import PegPool.Proofs.Pool

/-!
# Runs of swaps

Each swap leaves a fraction of one token A in the pool, or nothing. So the worth
of the pool never falls along a run of swaps and rises by less than one token A
a swap, nobody takes out both tokens, and the value, which is a rounded worth,
does not fall either.
-/

namespace PegPool

namespace Pool

/-! ## Trails -/

/-- The pools after each operation of a run, if none fails. -/
def trail? {α : Type} (step : α → Pool → Option Pool) : Pool → List α → Option (List Pool)
  | _, [] => some []
  | pool, operation :: operations => do
    let next ← step operation pool
    let rest ← trail? step next operations
    some (next :: rest)

section Trail

variable {α : Type} {step : α → Pool → Option Pool} {start : Pool} {operations : List α}
  {trail : List Pool}

theorem trail?_cons_eq_some_iff {operation : α} :
    trail? step start (operation :: operations) = some trail ↔
      ∃ next, step operation start = some next ∧
        ∃ rest, trail? step next operations = some rest ∧ next :: rest = trail := by
  simp only [trail?, Option.bind_eq_bind, Option.bind_eq_some_iff, Option.some.injEq]

/-- What every operation keeps holds between neighbours of a trail. -/
theorem isChain_of_trail? {R : Pool → Pool → Prop}
    (hstep : ∀ {operation old new}, step operation old = some new → R old new)
    (h : trail? step start operations = some trail) : (start :: trail).IsChain R := by
  induction operations generalizing start trail with
  | nil =>
    cases h
    exact .singleton _
  | cons operation operations ih =>
    obtain ⟨next, hnext, rest, hrest, rfl⟩ := trail?_cons_eq_some_iff.1 h
    exact .cons_cons (hstep hnext) (ih hrest)

theorem length_of_trail? (h : trail? step start operations = some trail) :
    trail.length = operations.length := by
  induction operations generalizing start trail with
  | nil =>
    cases h
    rfl
  | cons operation operations ih =>
    obtain ⟨next, -, rest, hrest, rfl⟩ := trail?_cons_eq_some_iff.1 h
    rw [List.length_cons, List.length_cons, ih hrest]

/-- A trail ends where the run ends. -/
theorem run?_of_trail? (h : trail? step start operations = some trail) :
    start.run? step operations = some (trail.getLastD start) := by
  induction operations generalizing start trail with
  | nil =>
    cases h
    rfl
  | cons operation operations ih =>
    obtain ⟨next, hnext, rest, hrest, rfl⟩ := trail?_cons_eq_some_iff.1 h
    rw [run?, List.foldlM_cons, hnext, Option.bind_eq_bind, Option.bind_some,
      List.getLastD_cons]
    exact ih hrest

end Trail

/-! ## Worth along a trail -/

section Worth

variable {p r : Nat} {start last : Pool} {trail : List Pool}

theorem worth_getLastD_le {k : Nat}
    (h : (start :: trail).IsChain fun old new => new.worth p r ≤ old.worth p r + k) :
    (trail.getLastD start).worth p r ≤ start.worth p r + trail.length * k := by
  induction trail generalizing start with
  | nil => exact Nat.le_add_right _ _
  | cons next trail ih =>
    obtain ⟨hnext, htrail⟩ := List.isChain_cons_cons.1 h
    have hlast := ih htrail
    rw [List.getLastD_cons, List.length_cons, Nat.succ_mul]
    omega

/-- A pool that is worth no less holds no less of both tokens only if it holds
the same. -/
theorem reserves_eq_of_worth_le (hr : 0 < r) (hp : 0 < p)
    (hworth : start.worth p r ≤ last.worth p r) (hA : last.tokenA ≤ start.tokenA)
    (hB : last.tokenB ≤ start.tokenB) :
    last.tokenA = start.tokenA ∧ last.tokenB = start.tokenB := by
  have hworthA := Nat.mul_le_mul_right r hA
  have hworthB := Nat.mul_le_mul_right p hB
  unfold worth at hworth
  exact ⟨Nat.eq_of_mul_eq_mul_right hr (by omega), Nat.eq_of_mul_eq_mul_right hp (by omega)⟩

/-- A value is monotone in the worth. -/
theorem normalizedValue_le_of_worth_le {old new : Pool} {v w : Nat}
    (hworth : old.worth p r ≤ new.worth p r)
    (hv : ((⟨p, r⟩ : Price).normalizedValue old.tokenA old.tokenB).value = some v)
    (hw : ((⟨p, r⟩ : Price).normalizedValue new.tokenA new.tokenB).value = some w) : v ≤ w := by
  obtain ⟨-, rfl⟩ := eq_worth_div_of_normalizedValue hv
  obtain ⟨-, rfl⟩ := eq_worth_div_of_normalizedValue hw
  exact Nat.div_le_div_right (Nat.div_le_div_right hworth)

end Worth

end Pool

/-! ## Offers -/

/-- How many more tokens A a trader holds after a swap. -/
def SwapAmounts.gainA (moved : SwapAmounts) : Direction → Int
  | .aToB => -moved.taken
  | .bToA => moved.paid

/-- How many more tokens B a trader holds after a swap. -/
def SwapAmounts.gainB (moved : SwapAmounts) : Direction → Int
  | .aToB => moved.paid
  | .bToA => -moved.taken

/-- An amount offered for a swap. -/
structure Offer where
  source : Int
  direction : Direction
  deriving DecidableEq, Repr

namespace Offer

section

variable (curve : Curve) (timestamp : Option Int) (offer : Offer)

/-- What is swapped for an offer. -/
def moved? : Option SwapAmounts := (curve.swap offer.source offer.direction timestamp).value

/-- How many more tokens A the offer brings. -/
def gainA : Int := (offer.moved? curve timestamp).elim 0 (·.gainA offer.direction)

/-- How many more tokens B the offer brings. -/
def gainB : Int := (offer.moved? curve timestamp).elim 0 (·.gainB offer.direction)

/-- The pool after the swap. -/
def step (pool : Pool) : Option Pool :=
  pool.swap? curve offer.source offer.direction timestamp

end

variable {curve : Curve} {timestamp : Option Int} {offer : Offer} {offers : List Offer}
  {old new start last : Pool}

/-- What a trader gains, the pool loses. -/
theorem reserves_of_step (h : offer.step curve timestamp old = some new) :
    (new.tokenA : Int) = old.tokenA - offer.gainA curve timestamp ∧
      (new.tokenB : Int) = old.tokenB - offer.gainB curve timestamp := by
  rw [step, Pool.swap?, Option.bind_eq_bind, Option.bind_eq_some_iff] at h
  obtain ⟨moved, hmoved, h⟩ := h
  rw [gainA, gainB, moved?, hmoved, Option.elim_some, Option.elim_some]
  cases hdirection : offer.direction with
  | aToB =>
    rw [hdirection, Pool.exchange?_aToB_eq_some_iff] at h
    obtain ⟨hle, rfl⟩ := h
    simp only [SwapAmounts.gainA, SwapAmounts.gainB]
    omega
  | bToA =>
    rw [hdirection, Pool.exchange?_bToA_eq_some_iff] at h
    obtain ⟨hle, rfl⟩ := h
    simp only [SwapAmounts.gainA, SwapAmounts.gainB]
    omega

/-- Along a run the gains add up. -/
theorem reserves_of_run? (h : start.run? (step curve timestamp) offers = some last) :
    (last.tokenA : Int) = start.tokenA - (offers.map (gainA curve timestamp)).sum ∧
      (last.tokenB : Int) = start.tokenB - (offers.map (gainB curve timestamp)).sum := by
  induction offers generalizing start with
  | nil =>
    cases h
    simp
  | cons offer offers ih =>
    rw [Pool.run?, List.foldlM_cons, Option.bind_eq_bind, Option.bind_eq_some_iff] at h
    obtain ⟨next, hnext, h⟩ := h
    have hstep := reserves_of_step hnext
    have hrun := ih h
    rw [List.map_cons, List.sum_cons, List.map_cons, List.sum_cons]
    omega

end Offer

namespace Pool

/-- Along a run of swaps each one adds less than one token A to the worth of the
pool and takes nothing from it. So a trader who has lost neither token has gained
neither, and the value never falls. -/
theorem swaps_keep_worth {curve : Curve} {timestamp : Option Int} {p r : Nat} {start : Pool}
    {offers : List Offer} {trail : List Pool}
    (hprice : (curve.priceAt timestamp).value = some ⟨p, r⟩)
    (h : trail? (Offer.step curve timestamp) start offers = some trail) :
    ((start :: trail).IsChain fun old new =>
      old.worth p r ≤ new.worth p r ∧ new.worth p r < old.worth p r + r) ∧
    (start.worth p r ≤ (trail.getLastD start).worth p r ∧
      (trail.getLastD start).worth p r ≤ start.worth p r + offers.length * (r - 1)) ∧
    (0 < p → 0 ≤ (offers.map (Offer.gainA curve timestamp)).sum →
      0 ≤ (offers.map (Offer.gainB curve timestamp)).sum →
      (offers.map (Offer.gainA curve timestamp)).sum = 0 ∧
        (offers.map (Offer.gainB curve timestamp)).sum = 0) ∧
    (start :: trail).Pairwise fun earlier later => ∀ v w,
      (curve.normalizedValue earlier.tokenA earlier.tokenB timestamp).value = some v →
      (curve.normalizedValue later.tokenA later.tokenB timestamp).value = some w → v ≤ w := by
  have hchain : (start :: trail).IsChain fun old new =>
      old.worth p r ≤ new.worth p r ∧ new.worth p r < old.worth p r + r :=
    isChain_of_trail? (fun hstep =>
      ⟨(worth_le_of_swap? hprice hstep).1, worth_lt_of_swap? hprice hstep⟩) h
  have hrun := run?_of_trail? h
  have hlast : start.worth p r ≤ (trail.getLastD start).worth p r :=
    rel_of_run? (R := fun old new => old.worth p r ≤ new.worth p r) (fun _ => Nat.le_refl _)
      Nat.le_trans (fun hstep => (worth_le_of_swap? hprice hstep).1) hrun
  refine ⟨hchain, ⟨hlast, ?_⟩, ?_, ?_⟩
  · have hstep : (start :: trail).IsChain fun old new =>
        new.worth p r ≤ old.worth p r + (r - 1) :=
      hchain.imp fun old new hworth => by omega
    rw [← length_of_trail? h]
    exact worth_getLastD_le hstep
  · intro hp hgainA hgainB
    obtain ⟨hA, hB⟩ := Offer.reserves_of_run? hrun
    cases trail with
    | nil =>
      rw [List.getLastD_nil] at hA hB
      omega
    | cons next trail =>
      have hr : 0 < r := by
        have := (List.isChain_cons_cons.1 hchain).1
        omega
      have hsame := reserves_eq_of_worth_le hr hp hlast (by omega) (by omega)
      omega
  · have htrans : Trans (fun old new : Pool => old.worth p r ≤ new.worth p r)
        (fun old new : Pool => old.worth p r ≤ new.worth p r)
        (fun old new : Pool => old.worth p r ≤ new.worth p r) := ⟨Nat.le_trans⟩
    have hpairs := (hchain.imp fun old new hworth => hworth.1).pairwise
    apply hpairs.imp
    intro earlier later hworth v w hv hw
    rw [Curve.value_normalizedValue_of_priceAt hprice] at hv hw
    exact normalizedValue_le_of_worth_le hworth hv hw

/-- A record whose index has been one and three quarters since the start. -/
def oneAndThreeQuarters : RedemptionRate :=
  { RedemptionRate.initial with chi := ⟨7 * Ray.one / 4, by decide⟩ }

/-- Three swaps leave a quarter, three quarters and a quarter of one token A in
the pool, and its value rises by one. A swap and the one that undoes it bring
nothing. -/
theorem swaps_keep_worth_oneAndThreeQuarters :
    let curve := Curve.redemptionRate oneAndThreeQuarters
    let p := 7 * Ray.one / 4
    let start : Pool := ⟨102, 100, 30⟩
    let offers : List Offer := [⟨10, .aToB⟩, ⟨5, .bToA⟩, ⟨10, .aToB⟩]
    let trail : List Pool := [⟨111, 95, 30⟩, ⟨103, 100, 30⟩, ⟨112, 95, 30⟩]
    let back : List Offer := [⟨7, .aToB⟩, ⟨4, .bToA⟩]
    trail? (Offer.step curve (some 0)) start offers = some trail ∧
    ((start :: trail).IsChain fun old new => old.worth p Ray.one ≤ new.worth p Ray.one ∧
      new.worth p Ray.one < old.worth p Ray.one + Ray.one) ∧
    (trail.getLastD start).worth p Ray.one ≤ start.worth p Ray.one + 3 * (Ray.one - 1) ∧
    (∃ v w, (curve.normalizedValue 102 100 (some 0)).value = some v ∧
      (curve.normalizedValue 112 95 (some 0)).value = some w ∧ v ≤ w) ∧
    trail? (Offer.step curve (some 0)) start back = some [⟨109, 96, 30⟩, start] ∧
    (back.map (Offer.gainA curve (some 0))).sum = 0 ∧
    (back.map (Offer.gainB curve (some 0))).sum = 0 := by
  intro curve p start offers trail back
  have hprice : (curve.priceAt (some 0)).value = some ⟨p, Ray.one⟩ := by decide +kernel
  have htrail : trail? (Offer.step curve (some 0)) start offers = some trail := by
    decide +kernel
  have hback : trail? (Offer.step curve (some 0)) start back = some [⟨109, 96, 30⟩, start] := by
    decide +kernel
  have hv : (curve.normalizedValue 102 100 (some 0)).value = some 138 := by decide +kernel
  have hw : (curve.normalizedValue 112 95 (some 0)).value = some 139 := by decide +kernel
  obtain ⟨hchain, ⟨-, hlast⟩, -, hvalue⟩ := swaps_keep_worth hprice htrail
  obtain ⟨-, -, hgain, -⟩ := swaps_keep_worth hprice hback
  have hend : (⟨112, 95, 30⟩ : Pool) ∈ trail := by decide
  have hle := List.rel_of_pairwise_cons hvalue hend _ _ hv hw
  obtain ⟨hA, hB⟩ := hgain (by decide +kernel) (by decide +kernel) (by decide +kernel)
  exact ⟨htrail, hchain, hlast, ⟨_, _, hv, hw, hle⟩, hback, hA, hB⟩

end Pool

end PegPool
