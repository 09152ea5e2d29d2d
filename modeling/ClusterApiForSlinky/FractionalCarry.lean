import Mathlib.Algebra.Order.Floor.Ring
import Mathlib.Algebra.Order.Field.Basic
import Mathlib.Tactic.Linarith

/-!
Whole units taken out of an amount that grows by fractions. The floor is taken
with a tolerance, so that an amount just short of a unit still gives it, and what
is left is rounded to nothing when it is no more than the tolerance. A step may
lose or invent at most the tolerance.
-/

namespace ClusterApiForSlinky.FractionalCarry

universe u
variable {K : Type u} [Field K] [LinearOrder K] [IsStrictOrderedRing K] [FloorRing K]

def units (tolerance amount : K) : ℤ := ⌊amount + tolerance⌋

/-- What is left of the amount once its units are taken. -/
def remainder (tolerance amount : K) : K := max 0 (amount - units tolerance amount)

def snapped (tolerance amount : K) : K :=
  if |remainder tolerance amount| ≤ tolerance then 0 else remainder tolerance amount

variable (tolerance amount : K)

theorem units_nonneg (exact : 0 ≤ tolerance) (given : 0 ≤ amount) : 0 ≤ units tolerance amount :=
  Int.floor_nonneg.mpr (add_nonneg given exact)

omit [IsStrictOrderedRing K] in
theorem snapped_nonneg : 0 ≤ snapped tolerance amount := by
  unfold snapped
  split
  · exact le_rfl
  · exact le_max_left _ _

/-- Together with the tolerance, what is left stays short of a unit. -/
theorem snapped_lt (small : tolerance < 1) : snapped tolerance amount + tolerance < 1 := by
  have short : amount + tolerance < units tolerance amount + 1 := Int.lt_floor_add_one _
  have bound : remainder tolerance amount + tolerance < 1 := by
    unfold remainder
    rcases max_choice 0 (amount - units tolerance amount) with zero | rest
    · rw [zero]
      linarith
    · rw [rest]
      linarith
  unfold snapped
  split
  · linarith
  · exact bound

/-- A step conserves the amount up to the tolerance. -/
theorem units_add_snapped (exact : 0 ≤ tolerance) :
    |(units tolerance amount : K) + snapped tolerance amount - amount| ≤ tolerance := by
  have taken : (units tolerance amount : K) ≤ amount + tolerance := Int.floor_le _
  have left : remainder tolerance amount = 0 ∨
      remainder tolerance amount = amount - units tolerance amount := max_choice _ _
  unfold snapped
  rw [abs_le]
  split
  · next near =>
      -- the whole remainder is dropped, and it was no more than the tolerance
      rw [abs_of_nonneg (le_max_left _ _)] at near
      have most : amount - units tolerance amount ≤ tolerance :=
        le_trans (le_max_right _ _) near
      constructor <;> linarith
  · next far =>
      rcases left with zero | rest
      · rw [zero, abs_zero] at far
        exact absurd exact far
      · rw [rest]
        constructor <;> linarith

/-- No more units come out than the ceiling of what was added to a remainder. -/
theorem units_le_ceil (carried added most : K) (short : carried + tolerance < 1)
    (bounded : added ≤ most) : units tolerance (carried + added) ≤ ⌈most⌉ := by
  have taken : (units tolerance (carried + added) : K) ≤ carried + added + tolerance :=
    Int.floor_le _
  have below : (units tolerance (carried + added) : K) < most + 1 := by linarith
  have ceiling : most ≤ ⌈most⌉ := Int.le_ceil most
  have whole : (units tolerance (carried + added) : K) < (⌈most⌉ : K) + 1 := by linarith
  exact Int.lt_add_one_iff.mp (by exact_mod_cast whole)

end ClusterApiForSlinky.FractionalCarry
