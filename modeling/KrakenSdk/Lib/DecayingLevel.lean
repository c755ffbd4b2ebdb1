import Mathlib.Algebra.Order.Field.Basic
import Mathlib.Tactic.Linarith
import Mathlib.Tactic.Ring
/-!
# A level that decays

A level falls at a constant rate until it is empty. How long to wait until a cost fits under a cap is linear in the
cost, whatever the floor does: `level_add_le_iff`.
-/
namespace DecayingLevel

variable {K : Type*} [Field K] [LinearOrder K] [IsStrictOrderedRing K]

/-- The level `t` after it was `c`. -/
def level (c k t : K) : K := max (c - k * t) 0

variable {c k t cost cap : K}

/-- The floor does not matter to a cost that fits under the cap by itself. -/
theorem level_add_le_iff (hk : 0 < k) (hcost : cost ≤ cap) : level c k t + cost ≤ cap ↔ (c + cost - cap) / k ≤ t := by
  rw [div_le_iff₀ hk, level]
  constructor
  · intro h
    have hle := le_max_left (c - k * t) 0
    linarith
  · intro h
    rcases max_cases (c - k * t) 0 with ⟨hmax, -⟩ | ⟨hmax, -⟩ <;> rw [hmax] <;> linarith

end DecayingLevel
