/-
# Crochet.Proofs.Yarn -- how a yarn hangs between its ends

Over exact numbers a yarn from `connect` stands over its chord at every
parameter and hangs below it by a share of its sag.  The share is `droop`, one
function for all yarns: nothing at the ends, all of the sag halfway, and the
same from both sides.  So a yarn passes through its three points, is straight
without sag, never hangs lower than its sag, and is the same curve from either
end.
-/
import Crochet.Proofs.Geometry
import Crochet.Yarn

set_option autoImplicit false

namespace Crochet.Yarn

/-! ## The share of the sag -/

/-- How far a half of the curve has come down from its end, as a share of the sag. -/
def descent (w : ℚ) : ℚ := w + w ^ 2 - w ^ 3

/-- How far a yarn hangs below its chord, as a share of its sag. -/
def droop (u : ℚ) : ℚ := descent (1 - |2 * u - 1|)

theorem descent_nonneg {w : ℚ} (low : 0 ≤ w) (high : w ≤ 1) : 0 ≤ descent w := by
  have factored : descent w = w * (1 + w * (1 - w)) := by
    unfold descent
    ring
  rw [factored]
  have rest : 0 ≤ 1 - w := sub_nonneg.mpr high
  positivity

theorem descent_le_one {w : ℚ} (low : 0 ≤ w) : descent w ≤ 1 := by
  have factored : 1 - descent w = (1 - w) ^ 2 * (1 + w) := by
    unfold descent
    ring
  have gap : 0 ≤ 1 - descent w := by
    rw [factored]
    positivity
  linarith

theorem droop_zero : droop 0 = 0 := by norm_num [droop, descent]

theorem droop_half : droop (1 / 2) = 1 := by norm_num [droop, descent]

theorem droop_reverse (u : ℚ) : droop (1 - u) = droop u := by
  unfold droop
  rw [show 2 * (1 - u) - 1 = -(2 * u - 1) by ring, abs_neg]

theorem droop_one : droop 1 = 0 := by
  rw [← droop_zero, ← droop_reverse 0, sub_zero]

theorem droop_first {u : ℚ} (first : 2 * u ≤ 1) : droop u = descent (2 * u) := by
  rw [droop, abs_of_nonpos (by linarith)]
  ring_nf

theorem droop_second {u : ℚ} (second : 1 ≤ 2 * u) : droop u = descent (2 - 2 * u) := by
  rw [droop, abs_of_nonneg (by linarith)]
  ring_nf

theorem droop_mem {u : ℚ} (low : 0 ≤ u) (high : u ≤ 1) : 0 ≤ droop u ∧ droop u ≤ 1 := by
  have inside : |2 * u - 1| ≤ 1 := abs_le.mpr ⟨by linarith, by linarith⟩
  have above : 0 ≤ |2 * u - 1| := abs_nonneg _
  exact ⟨descent_nonneg (by linarith) (by linarith), descent_le_one (by linarith)⟩

/-! ## The curve -/

/-- The point at `u` of the chord, lowered by some drop. -/
def under (start stop : Vec3 ℚ) (u drop : ℚ) : Vec3 ℚ where
  x := start.x + (stop.x - start.x) * u
  y := start.y + (stop.y - start.y) * u - drop
  z := start.z + (stop.z - start.z) * u

variable (start stop : Vec3 ℚ) (sag thickness : ℚ)

theorem firstHalf_connect (w : ℚ) :
    (connect start stop sag thickness).firstHalf w =
      under start stop (w / 2) (sag * descent w) := by
  simp only [firstHalf, connect, cubic, under, descent, Vec3.add_eq, Vec3.sub_eq, Vec3.scale,
    Vec3.half, Vec3.up, Vec3.mk.injEq]
  refine ⟨?_, ?_, ?_⟩ <;> ring

theorem secondHalf_connect (w : ℚ) :
    (connect start stop sag thickness).secondHalf w =
      under start stop ((1 + w) / 2) (sag * descent (1 - w)) := by
  simp only [secondHalf, connect, cubic, under, descent, Vec3.add_eq, Vec3.sub_eq, Vec3.scale,
    Vec3.half, Vec3.up, Vec3.mk.injEq]
  refine ⟨?_, ?_, ?_⟩ <;> ring

theorem cut_le_one (t : ℚ) : max 0 (min t 1) ≤ 1 := max_le zero_le_one (min_le_right t 1)

/-- The curve hangs under its chord, at the parameter cut to its bounds. -/
theorem pointAt_connect (t : ℚ) :
    (connect start stop sag thickness).pointAt t =
      under start stop (max 0 (min t 1)) (sag * droop (max 0 (min t 1))) := by
  have high := cut_le_one t
  have cut : Scalar.clamp 0 1 t = max 0 (min t 1) := Scalar.clamp_eq (zero_le_one' ℚ) t
  generalize max 0 (min t 1) = u at high cut
  simp only [pointAt, cut]
  split_ifs with last second
  · have isOne : u = 1 := by linarith
    rw [secondHalf_connect, isOne, droop_second (by norm_num)]
    norm_num
  · rw [secondHalf_connect, droop_second second]
    congr 1 <;> ring_nf
  · rw [firstHalf_connect, droop_first (by linarith)]
    congr 1
    ring

/-- The points of `connect` at its ends and halfway. -/
theorem under_start : under start stop 0 0 = start := by simp [under]

theorem under_stop : under start stop 1 0 = stop := by simp [under]

theorem under_middle :
    under start stop (1 / 2) sag = (connect start stop sag thickness).middle := by
  simp only [under, connect, Vec3.add_eq, Vec3.sub_eq, Vec3.scale, Vec3.half, Vec3.up,
    Vec3.mk.injEq]
  refine ⟨?_, ?_, ?_⟩ <;> ring

/-- From the other end the chord is walked backwards. -/
theorem under_reverse (u drop : ℚ) : under stop start (1 - u) drop = under start stop u drop := by
  simp only [under, Vec3.mk.injEq]
  refine ⟨?_, ?_, ?_⟩ <;> ring

/-- Cutting a parameter to its bounds may be done from either end. -/
theorem cut_reverse (t : ℚ) : max 0 (min (1 - t) 1) = 1 - max 0 (min t 1) := by
  rcases le_total t 0 with before | after
  · rw [min_eq_right (by linarith), min_eq_left (by linarith), max_eq_right zero_le_one,
      max_eq_left before, sub_zero]
  · rw [min_eq_left (by linarith)]
    rcases le_total t 1 with inside | beyond
    · rw [min_eq_left inside, max_eq_right after, max_eq_right (by linarith)]
    · rw [min_eq_right beyond, max_eq_left (by linarith), max_eq_right zero_le_one, sub_self]

/-! ## Samples -/

theorem sample_length (yarn : Yarn ℚ) (segments : ℕ) :
    (yarn.sample segments).length = max segments 1 + 1 := by simp [sample]

theorem sample_head? (yarn : Yarn ℚ) (segments : ℕ) :
    (yarn.sample segments).head? = some (yarn.pointAt 0) := by
  simp [sample, List.range_succ_eq_map, Scalar.ofNat_eq]

theorem sample_getLast? (yarn : Yarn ℚ) (segments : ℕ) :
    (yarn.sample segments).getLast? = some (yarn.pointAt 1) := by
  have some : ((max segments 1 : ℕ) : ℚ) ≠ 0 := by
    have : max segments 1 ≠ 0 := by omega
    exact_mod_cast this
  simp only [sample, List.range_succ, List.map_append, List.map_singleton, List.getLast?_concat,
    Scalar.ofNat_eq, div_self some]

/-! ## The yarn as a whole -/

/-- **A yarn hangs from its chord** and never lower than its sag.  The share of the sag by which it
hangs is one function of the parameter for all yarns.  So a yarn starts, sags and ends where it
should, runs along its chord when it has no sag, is the same curve from its other end, and its
samples run from end to end. -/
theorem pointAt_hangs :
    (droop 0 = 0 ∧ droop 1 = 0 ∧ droop (1 / 2) = 1 ∧ (∀ u, droop u = droop (1 - u)) ∧
      ∀ u, 0 ≤ u → u ≤ 1 → 0 ≤ droop u ∧ droop u ≤ 1) ∧
    ∀ (start stop : Vec3 ℚ) (sag thickness : ℚ),
      let yarn := connect start stop sag thickness
      (∀ t, let u := max 0 (min t 1)
        (yarn.pointAt t).x = start.x + (stop.x - start.x) * u ∧
        (yarn.pointAt t).y = start.y + (stop.y - start.y) * u - sag * droop u ∧
        (yarn.pointAt t).z = start.z + (stop.z - start.z) * u) ∧
      (yarn.pointAt 0 = start ∧ yarn.pointAt (1 / 2) = yarn.middle ∧ yarn.pointAt 1 = stop) ∧
      (sag = 0 → ∀ t, yarn.pointAt t = start + (stop - start).scale (max 0 (min t 1))) ∧
      (0 ≤ sag → ∀ t, let chord := start.y + (stop.y - start.y) * max 0 (min t 1)
        chord - sag ≤ (yarn.pointAt t).y ∧ (yarn.pointAt t).y ≤ chord) ∧
      (∀ t, (connect stop start sag thickness).pointAt (1 - t) = yarn.pointAt t) ∧
      ∀ n, (yarn.sample n).length = max n 1 + 1 ∧
        (yarn.sample n).head? = some start ∧ (yarn.sample n).getLast? = some stop := by
  refine ⟨⟨droop_zero, droop_one, droop_half, fun u => (droop_reverse u).symm,
    fun u => droop_mem⟩, fun start stop sag thickness => ?_⟩
  intro yarn
  have hangs := pointAt_connect start stop sag thickness
  have first : yarn.pointAt 0 = start := by
    rw [hangs]
    simp [droop_zero, under_start]
  have last : yarn.pointAt 1 = stop := by
    rw [hangs]
    simp [droop_one, under_stop]
  refine ⟨fun t => ?_, ⟨first, ?_, last⟩, ?_, ?_, ?_, fun n => ⟨sample_length yarn n, ?_, ?_⟩⟩
  · intro u
    rw [hangs t]
    exact ⟨rfl, rfl, rfl⟩
  · have inside : max 0 (min (1 / 2) 1) = (1 / 2 : ℚ) := by norm_num
    rw [hangs, inside, droop_half, mul_one]
    exact under_middle start stop sag thickness
  · rintro rfl t
    rw [hangs]
    simp only [under, Vec3.add_eq, Vec3.sub_eq, Vec3.scale, Vec3.mk.injEq]
    refine ⟨?_, ?_, ?_⟩ <;> ring
  · intro slack t chord
    obtain ⟨low, high⟩ := droop_mem (le_max_left 0 (min t 1)) (cut_le_one t)
    have lowest : sag * droop (max 0 (min t 1)) ≤ sag := mul_le_of_le_one_right slack high
    have highest : 0 ≤ sag * droop (max 0 (min t 1)) := mul_nonneg slack low
    rw [hangs]
    exact ⟨sub_le_sub_left lowest chord, sub_le_self chord highest⟩
  · intro t
    rw [hangs, pointAt_connect, cut_reverse, droop_reverse, under_reverse]
  · rw [sample_head?, first]
  · rw [sample_getLast?, last]

/-- A quarter along, a yarn hangs by five eighths of its sag. -/
theorem pointAt_hangs_quarter :
    let yarn : Yarn ℚ := connect ⟨0, 1, 0⟩ ⟨2, 1, 4⟩ (1 / 10) (1 / 30)
    let taut : Yarn ℚ := connect ⟨0, 1, 0⟩ ⟨2, 1, 4⟩ 0 (1 / 30)
    (0 : ℚ) ≤ 1 / 4 ∧ (1 / 4 : ℚ) ≤ 1 ∧ 0 ≤ droop (1 / 4) ∧ droop (1 / 4) ≤ 1 ∧
      (0 : ℚ) ≤ 1 / 10 ∧ 9 / 10 ≤ (yarn.pointAt (1 / 4)).y ∧ (yarn.pointAt (1 / 4)).y ≤ 1 ∧
      yarn.pointAt (1 / 4) = ⟨1 / 2, 15 / 16, 1⟩ ∧ taut.pointAt (1 / 4) = ⟨1 / 2, 1, 1⟩ := by
  intro yarn taut
  obtain ⟨⟨-, -, -, -, share⟩, law⟩ := pointAt_hangs
  obtain ⟨hangs, -, -, bounds, -⟩ := law ⟨0, 1, 0⟩ ⟨2, 1, 4⟩ (1 / 10) (1 / 30)
  obtain ⟨-, -, straight, -⟩ := law ⟨0, 1, 0⟩ ⟨2, 1, 4⟩ 0 (1 / 30)
  have quarter : droop (1 / 4) = 5 / 8 := by norm_num [droop, descent, abs_of_nonpos]
  have inside : max 0 (min (1 / 4) 1) = (1 / 4 : ℚ) := by norm_num
  obtain ⟨low, high⟩ := share (1 / 4) (by norm_num) (by norm_num)
  obtain ⟨lowest, highest⟩ := bounds (by norm_num) (1 / 4)
  obtain ⟨x, y, z⟩ := hangs (1 / 4)
  rw [inside] at x y z
  rw [quarter] at y
  refine ⟨by norm_num, by norm_num, low, high, by norm_num, ?_, ?_, ?_, ?_⟩
  · norm_num at lowest
    exact lowest
  · norm_num at highest
    exact highest
  · ext
    · rw [x]; norm_num
    · rw [y]; norm_num
    · rw [z]; norm_num
  · rw [straight rfl, inside]
    norm_num [Vec3.add_eq, Vec3.sub_eq, Vec3.scale]

end Crochet.Yarn
