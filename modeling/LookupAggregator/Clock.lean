import Mathlib.Data.List.Basic
import Mathlib.Data.Rat.Defs
import Mathlib.Algebra.Order.Ring.Rat

/-! # The clock

The readings of `time.monotonic()` and the durations of the settings are rationals: the rounding of
floating-point sums, differences and products is not modelled, nor that a product may come out infinite. A
run reads the clock in order; `Chronological l` says that the readings `l` never go back. -/

namespace LookupAggregator

/-- A clock reading or a duration, in seconds. -/
abbrev Time := ℚ

/-- The readings never go back. -/
def Chronological (l : List Time) : Prop := l.Pairwise (· ≤ ·)

theorem chronological_concat {l : List Time} {t : Time} :
    Chronological (l ++ [t]) ↔ Chronological l ∧ ∀ u ∈ l, u ≤ t := by
  simp [Chronological, List.pairwise_append]

theorem Chronological.prefix {l l' : List Time} (h : Chronological (l ++ l')) : Chronological l :=
  (List.pairwise_append.mp h).1

end LookupAggregator
