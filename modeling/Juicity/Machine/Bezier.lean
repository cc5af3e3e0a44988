import Mathlib.Algebra.Order.Field.Basic
import Mathlib.Order.Interval.Set.UnorderedInterval
import Mathlib.Tactic.FieldSimp
import Mathlib.Tactic.Linarith
import Mathlib.Tactic.Ring

/-!
Contract: one coordinate of a cubic Bézier curve whose inner control values lie
between its end values.

Such a curve runs from one end to the other and never turns back. The harmonic
mean of two slopes of one sign is at most twice either of them, so its third
keeps a control value between the ends.
-/

namespace Juicity.Machine.Bezier

section Identities

variable {K : Type} [Field K]

/-- The value at the time `t` of the curve with four control values. -/
def cubic (start first second stop t : K) : K :=
  (1 - t) ^ 3 * start + 3 * (1 - t) ^ 2 * t * first + 3 * (1 - t) * t ^ 2 * second + t ^ 3 * stop

theorem cubic_zero (start first second stop : K) : cubic start first second stop 0 = start := by
  unfold cubic
  ring

theorem cubic_one (start first second stop : K) : cubic start first second stop 1 = stop := by
  unfold cubic
  ring

theorem cubic_neg (start first second stop t : K) :
    cubic (-start) (-first) (-second) (-stop) t = -cubic start first second stop t := by
  unfold cubic
  ring

/-- The rise between two times, by the height of the control values. -/
theorem cubic_sub (start first second stop t u : K) :
    cubic start first second stop u - cubic start first second stop t =
      (first - start) * (3 * (1 - u) ^ 2 * u - 3 * (1 - t) ^ 2 * t) +
        (second - start) * (3 * (1 - u) * u ^ 2 - 3 * (1 - t) * t ^ 2) +
        (stop - start) * (u ^ 3 - t ^ 3) := by
  unfold cubic
  ring

end Identities

variable {K : Type} [Field K] [LinearOrder K] [IsStrictOrderedRing K]

/-- Evenly spaced control values are run through at an even pace. -/
theorem cubic_even (start t : K) :
    cubic start (start + 1 / 3) (start + 2 / 3) (start + 1) t = start + t := by
  unfold cubic
  field_simp
  ring

section Rising

variable {start first second stop t u : K}

theorem mul_min_le {part rise weight : K} (inside : 0 ≤ part) (below : part ≤ rise) :
    rise * min 0 weight ≤ part * weight := by
  rcases le_total 0 weight with positive | negative
  · rw [min_eq_left positive, mul_zero]
    exact mul_nonneg inside positive
  · rw [min_eq_right negative]
    exact mul_le_mul_of_nonpos_right below negative

/-- What two falling weights take away is not more than what the last weight gives. -/
theorem weighted_nonneg {rise left right early late last : K} (leftInside : 0 ≤ left)
    (leftBelow : left ≤ rise) (rightInside : 0 ≤ right) (rightBelow : right ≤ rise)
    (alone : 0 ≤ last) (withEarly : 0 ≤ last + early) (withLate : 0 ≤ last + late)
    (together : 0 ≤ last + early + late) : 0 ≤ left * early + right * late + rise * last := by
  have rises : 0 ≤ rise := le_trans leftInside leftBelow
  have least : 0 ≤ last + min 0 early + min 0 late := by
    rcases le_total 0 early with early | early <;> rcases le_total 0 late with late | late
    all_goals
      simp only [min_eq_left, min_eq_right, early, late, add_zero]
      assumption
  calc
    0 ≤ rise * (last + min 0 early + min 0 late) := mul_nonneg rises least
    _ = rise * min 0 early + rise * min 0 late + rise * last := by ring
    _ ≤ left * early + right * late + rise * last :=
      add_le_add_left
        (add_le_add (mul_min_le leftInside leftBelow) (mul_min_le rightInside rightBelow)) _

/-- Inner values between the ends keep the curve from turning back. -/
theorem cubic_le_cubic (low : start ≤ first) (high : first ≤ stop) (lowSecond : start ≤ second)
    (highSecond : second ≤ stop) (begun : 0 ≤ t) (later : t ≤ u) (ended : u ≤ 1) :
    cubic start first second stop t ≤ cubic start first second stop u := by
  have span : 0 ≤ u - t := sub_nonneg.mpr later
  have uBegun : 0 ≤ u := le_trans begun later
  have uLeft : 0 ≤ 1 - u := sub_nonneg.mpr ended
  have tLeft : 0 ≤ 1 - t := le_trans uLeft (sub_le_sub_left later 1)
  have cubes : 0 ≤ u ^ 3 - t ^ 3 := sub_nonneg.mpr (pow_le_pow_left₀ begun later 3)
  have mirrored : 0 ≤ (1 - t) ^ 3 - (1 - u) ^ 3 :=
    sub_nonneg.mpr (pow_le_pow_left₀ uLeft (sub_le_sub_left later 1) 3)
  have withEarly : 0 ≤ u ^ 3 - t ^ 3 + (3 * (1 - u) ^ 2 * u - 3 * (1 - t) ^ 2 * t) := by
    have factored : u ^ 3 - t ^ 3 + (3 * (1 - u) ^ 2 * u - 3 * (1 - t) ^ 2 * t) =
        (u - t) * (3 * (1 - (u + t)) ^ 2 + (u - t) ^ 2) := by ring
    rw [factored]
    positivity
  have withLate : 0 ≤ u ^ 3 - t ^ 3 + (3 * (1 - u) * u ^ 2 - 3 * (1 - t) * t ^ 2) := by
    have factored : u ^ 3 - t ^ 3 + (3 * (1 - u) * u ^ 2 - 3 * (1 - t) * t ^ 2) =
        (u - t) * (2 * (t * (1 - t)) + 2 * (u * (1 - u)) + u * (1 - t) + t * (1 - u)) := by ring
    rw [factored]
    positivity
  have together : 0 ≤ u ^ 3 - t ^ 3 + (3 * (1 - u) ^ 2 * u - 3 * (1 - t) ^ 2 * t) +
      (3 * (1 - u) * u ^ 2 - 3 * (1 - t) * t ^ 2) := by
    have same : u ^ 3 - t ^ 3 + (3 * (1 - u) ^ 2 * u - 3 * (1 - t) ^ 2 * t) +
        (3 * (1 - u) * u ^ 2 - 3 * (1 - t) * t ^ 2) = (1 - t) ^ 3 - (1 - u) ^ 3 := by ring
    rw [same]
    exact mirrored
  rw [← sub_nonneg, cubic_sub]
  exact weighted_nonneg (sub_nonneg.mpr low) (sub_le_sub_right high start)
    (sub_nonneg.mpr lowSecond) (sub_le_sub_right highSecond start) cubes withEarly withLate together

end Rising

/-! ## Between two values -/

variable {start first second stop t u : K}

/-- Which way the ends lie, the curve does not turn back. -/
theorem monotoneOn_cubic (inside : first ∈ Set.uIcc start stop)
    (insideSecond : second ∈ Set.uIcc start stop) (rising : start ≤ stop) :
    MonotoneOn (cubic start first second stop) (Set.Icc 0 1) := by
  rw [Set.uIcc_of_le rising] at inside insideSecond
  intro t begun u ended later
  exact cubic_le_cubic inside.1 inside.2 insideSecond.1 insideSecond.2 begun.1 later ended.2

theorem antitoneOn_cubic (inside : first ∈ Set.uIcc start stop)
    (insideSecond : second ∈ Set.uIcc start stop) (falling : stop ≤ start) :
    AntitoneOn (cubic start first second stop) (Set.Icc 0 1) := by
  rw [Set.uIcc_of_ge falling] at inside insideSecond
  intro t begun u ended later
  have risen := cubic_le_cubic (neg_le_neg inside.2) (neg_le_neg inside.1)
    (neg_le_neg insideSecond.2) (neg_le_neg insideSecond.1) begun.1 later ended.2
  rw [cubic_neg, cubic_neg] at risen
  exact neg_le_neg_iff.mp risen

/-- The curve stays between its ends. -/
theorem cubic_mem_uIcc (inside : first ∈ Set.uIcc start stop)
    (insideSecond : second ∈ Set.uIcc start stop) (time : t ∈ Set.Icc (0 : K) 1) :
    cubic start first second stop t ∈ Set.uIcc start stop := by
  have begins : (0 : K) ∈ Set.Icc (0 : K) 1 := ⟨le_rfl, zero_le_one⟩
  have ends : (1 : K) ∈ Set.Icc (0 : K) 1 := ⟨zero_le_one, le_rfl⟩
  rcases le_total start stop with rising | falling
  · have monotone := monotoneOn_cubic inside insideSecond rising
    have after := monotone begins time time.1
    have before := monotone time ends time.2
    rw [cubic_zero] at after
    rw [cubic_one] at before
    exact Set.mem_uIcc_of_le after before
  · have antitone := antitoneOn_cubic inside insideSecond falling
    have after := antitone begins time time.1
    have before := antitone time ends time.2
    rw [cubic_zero] at after
    rw [cubic_one] at before
    exact Set.mem_uIcc_of_ge before after

/-! ## Slopes -/

theorem add_ne_zero_of_mul_pos {before after : K} (agree : 0 < before * after) :
    before + after ≠ 0 := by
  rcases mul_pos_iff.mp agree with ⟨left, right⟩ | ⟨left, right⟩
  · exact (add_pos left right).ne'
  · exact (add_neg left right).ne

/-- The share of one slope in the third of a harmonic mean. -/
theorem share_mem {before after : K} (agree : 0 < before * after) :
    2 * after / (3 * (before + after)) ∈ Set.Icc (0 : K) 1 := by
  rcases mul_pos_iff.mp agree with ⟨left, right⟩ | ⟨left, right⟩
  · refine ⟨by positivity, (div_le_one (by positivity)).mpr ?_⟩
    linarith
  · have total : 3 * (before + after) < 0 := by linarith
    refine ⟨div_nonneg_of_nonpos (by linarith) total.le, (div_le_one_of_neg total).mpr ?_⟩
    linarith

/-- A third of the harmonic mean of two slopes of one sign is between nothing and each. -/
theorem harmonic_third_mem {before after : K} (agree : 0 < before * after) :
    2 * before * after / (before + after) / 3 ∈ Set.uIcc 0 before := by
  have shared : 2 * before * after / (before + after) / 3 =
      before * (2 * after / (3 * (before + after))) := by
    have total := add_ne_zero_of_mul_pos agree
    field_simp
  obtain ⟨nonneg, atMostOne⟩ := share_mem agree
  rw [shared]
  rcases le_total 0 before with rising | falling
  · exact Set.mem_uIcc_of_le (mul_nonneg rising nonneg) (mul_le_of_le_one_right rising atMostOne)
  · exact Set.mem_uIcc_of_ge (le_mul_of_le_one_right falling atMostOne)
      (mul_nonpos_of_nonpos_of_nonneg falling nonneg)

theorem harmonic_third_mem_right {before after : K} (agree : 0 < before * after) :
    2 * before * after / (before + after) / 3 ∈ Set.uIcc 0 after := by
  rw [mul_right_comm, add_comm]
  exact harmonic_third_mem (mul_comm before after ▸ agree)

theorem third_mem (slope : K) : slope / 3 ∈ Set.uIcc 0 slope := by
  rcases le_total 0 slope with rising | falling
  · exact Set.mem_uIcc_of_le (by linarith) (by linarith)
  · exact Set.mem_uIcc_of_ge (by linarith) (by linarith)

/-- A part of the rise, above the start or below the stop, is between them. -/
theorem add_mem_uIcc {part : K} (inside : part ∈ Set.uIcc 0 (stop - start)) :
    start + part ∈ Set.uIcc start stop := by
  rcases Set.mem_uIcc.mp inside with ⟨low, high⟩ | ⟨low, high⟩
  · exact Set.mem_uIcc_of_le (by linarith) (by linarith)
  · exact Set.mem_uIcc_of_ge (by linarith) (by linarith)

theorem sub_mem_uIcc {part : K} (inside : part ∈ Set.uIcc 0 (stop - start)) :
    stop - part ∈ Set.uIcc start stop := by
  rcases Set.mem_uIcc.mp inside with ⟨low, high⟩ | ⟨low, high⟩
  · exact Set.mem_uIcc_of_le (by linarith) (by linarith)
  · exact Set.mem_uIcc_of_ge (by linarith) (by linarith)

end Juicity.Machine.Bezier
