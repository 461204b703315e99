import Mathlib.Algebra.Order.Field.Basic
import Mathlib.Tactic.Linarith

namespace LicoMesh.Library

/-! Token buckets: tokens come at a rate up to a burst, and every start takes one. -/

namespace TokenBucket

section Starts

variable {K : Type} [LinearOrder K] {now : K} {starts : List K}

def startsWithin (starts : List K) (first last : K) : Nat :=
  starts.countP fun time => first ≤ time ∧ time ≤ last

theorem startsWithin_of_past (past : ∀ time ∈ starts, time ≤ now)
    (after : now ≤ last) : startsWithin starts first last = startsWithin starts first now := by
  apply List.countP_congr
  intro time member
  have before := past time member
  simp only [decide_eq_true_eq]
  exact ⟨fun inside => ⟨inside.1, before⟩, fun inside => ⟨inside.1, inside.2.trans after⟩⟩

theorem startsWithin_eq_zero (past : ∀ time ∈ starts, time ≤ now) (last : K)
    (after : now < first) : startsWithin starts first last = 0 := by
  unfold startsWithin
  rw [List.countP_eq_zero]
  intro time member
  have before := past time member
  simp only [decide_eq_true_eq]
  exact fun inside => absurd (after.trans_le inside.1) (not_lt.mpr before)

end Starts

variable {K : Type} [Field K] [LinearOrder K] [IsStrictOrderedRing K]

structure Metered (burst rate now level : K) (starts : List K) : Prop where
  nonneg : 0 ≤ level
  full : level ≤ burst
  past : ∀ time ∈ starts, time ≤ now
  reserve : ∀ first, first ≤ now →
    (startsWithin starts first now : K) + level ≤ burst + rate * (now - first)
  bounded : ∀ first last, first ≤ last →
    (startsWithin starts first last : K) ≤ burst + rate * (last - first)

variable {burst rate now later level lower : K} {starts : List K}

theorem metered_full (burst_nonneg : 0 ≤ burst) (rate_nonneg : 0 ≤ rate) (now : K) :
    Metered burst rate now burst [] := by
  refine ⟨burst_nonneg, le_refl _, nofun, ?_, ?_⟩
  · intro first before
    have came := mul_nonneg rate_nonneg (sub_nonneg.mpr before)
    simp only [startsWithin, List.countP_nil, Nat.cast_zero]
    linarith
  · intro first last before
    have came := mul_nonneg rate_nonneg (sub_nonneg.mpr before)
    simp only [startsWithin, List.countP_nil, Nat.cast_zero]
    linarith

namespace Metered

variable (metered : Metered burst rate now level starts)

include metered

theorem lowered (nonneg : 0 ≤ lower) (le : lower ≤ level) :
    Metered burst rate now lower starts := by
  refine ⟨nonneg, le.trans metered.full, metered.past, ?_, metered.bounded⟩
  intro first before
  have reserve := metered.reserve first before
  linarith

theorem refill (rate_nonneg : 0 ≤ rate) (after : now ≤ later) :
    Metered burst rate later (min burst (level + (later - now) * rate)) starts := by
  have elapsed : 0 ≤ (later - now) * rate := mul_nonneg (sub_nonneg.mpr after) rate_nonneg
  have burst_nonneg : 0 ≤ burst := metered.nonneg.trans metered.full
  have more : min burst (level + (later - now) * rate) ≤ level + (later - now) * rate :=
    min_le_right _ _
  refine ⟨?_, min_le_left _ _, fun time member => (metered.past time member).trans after, ?_,
    metered.bounded⟩
  · have level_nonneg := metered.nonneg
    exact le_min burst_nonneg (by linarith)
  · intro first before
    by_cases early : first ≤ now
    · have reserve := metered.reserve first early
      rw [startsWithin_of_past metered.past after]
      linarith
    · have none := startsWithin_eq_zero metered.past later (not_le.mp early)
      have came := mul_nonneg rate_nonneg (sub_nonneg.mpr before)
      have full : min burst (level + (later - now) * rate) ≤ burst := min_le_left _ _
      rw [none, Nat.cast_zero]
      linarith

theorem take (rate_nonneg : 0 ≤ rate) (token : 1 ≤ level) :
    Metered burst rate now (level - 1) (now :: starts) := by
  have counted : ∀ first, first ≤ now →
      startsWithin (now :: starts) first now = startsWithin starts first now + 1 := by
    intro first before
    exact List.countP_cons_of_pos (decide_eq_true ⟨before, le_refl _⟩)
  have past : ∀ time ∈ now :: starts, time ≤ now := by
    intro time member
    cases List.mem_cons.mp member with
    | inl same => exact le_of_eq same
    | inr old => exact metered.past time old
  have full := metered.full
  have reserve : ∀ first, first ≤ now →
      (startsWithin (now :: starts) first now : K) + (level - 1) ≤
        burst + rate * (now - first) := by
    intro first before
    have old := metered.reserve first before
    rw [counted first before, Nat.cast_add, Nat.cast_one]
    linarith
  refine ⟨by linarith, by linarith, past, reserve, ?_⟩
  intro first last before
  by_cases inside : first ≤ now ∧ now ≤ last
  · have now' := reserve first inside.1
    have came := mul_nonneg rate_nonneg (sub_nonneg.mpr inside.2)
    rw [startsWithin_of_past past inside.2]
    linarith
  · have same : startsWithin (now :: starts) first last = startsWithin starts first last :=
      List.countP_cons_of_neg (by simpa using inside)
    rw [same]
    exact metered.bounded first last before

end Metered

end TokenBucket

end LicoMesh.Library
