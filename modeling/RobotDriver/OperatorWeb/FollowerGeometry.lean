import Mathlib.Analysis.InnerProductSpace.PiL2
import RobotDriver.Lib.RadialClip
import RobotDriver.OperatorWeb.Teleop

/-!
# The follower as a motion in Euclidean space

In exact arithmetic a step of the follower turns its acceleration toward the desired one by at most
`jerk * dt`, clips it to the peak and advances the value, unless it arrives.
-/

namespace RobotDriver.OperatorWeb.Teleop

open StickMath RadialClip
open scoped RealInnerProductSpace

variable {d : ℕ}

/-- `validate_limits`, for one axis. -/
structure AxisLimits.Valid (limits : AxisLimits ℝ) : Prop where
  accel_pos : 0 < limits.accel
  decel_pos : 0 < limits.decel
  stopDecel_pos : 0 < limits.stopDecel
  jerk_pos : 0 < limits.jerk
  decel_le : limits.decel ≤ limits.stopDecel

namespace JerkLimitedFollower

noncomputable def toSpace (v : Fin d → ℝ) : EuclideanSpace ℝ (Fin d) := WithLp.toLp 2 v

section Space

variable (v w : Fin d → ℝ) (c : ℝ)

@[simp] theorem toSpace_add : toSpace (v + w) = toSpace v + toSpace w := rfl

@[simp] theorem toSpace_sub : toSpace (v - w) = toSpace v - toSpace w := rfl

@[simp] theorem toSpace_smul : toSpace (c • v) = c • toSpace v := rfl

@[simp] theorem toSpace_zero : toSpace (0 : Fin d → ℝ) = 0 := rfl

theorem dot_eq_inner : dot v w = ⟪toSpace v, toSpace w⟫ := by
  rw [dot, ← Fin.sum_univ_def, toSpace, toSpace, PiLp.inner_apply]
  exact Finset.sum_congr rfl fun i _ => mul_comm _ _

theorem norm_eq : norm v = ‖toSpace v‖ := by
  rw [norm, dot_eq_inner, real_inner_self_eq_norm_sq]
  exact Real.sqrt_sq (norm_nonneg _)

theorem norm_fin_one (v : Fin 1 → ℝ) : norm v = |v 0| := by
  rw [norm, dot, ← Fin.sum_univ_def, Fin.sum_univ_one]
  exact Real.sqrt_mul_self_eq_abs _

theorem norm_fin_two (v : Fin 2 → ℝ) : norm v = hypot (v 0) (v 1) := by
  rw [norm, dot, ← Fin.sum_univ_def, Fin.sum_univ_two]
  rfl

theorem toSpace_injective : Function.Injective (toSpace : (Fin d → ℝ) → _) :=
  (WithLp.toLp_injective 2)

end Space

variable (f : JerkLimitedFollower d ℝ) (target : Fin d → ℝ) (dt : ℝ) (limits : AxisLimits ℝ)
  (stopping : Bool)

/-- The length the acceleration should have: it tapers towards the target. -/
noncomputable def desiredNorm : ℝ :=
  min (f.peakAndJerk target limits stopping).1
    (sqrt (2 * (f.peakAndJerk target limits stopping).2 *
      max (norm (target - f.value) - norm f.accel * dt) 0))

/-- The acceleration a step heads for. -/
noncomputable def desired : Fin d → ℝ :=
  (f.desiredNorm target dt limits stopping / norm (target - f.value)) • (target - f.value)

/-- The acceleration of a step, limited in jerk and then in length. -/
noncomputable def advanced : EuclideanSpace ℝ (Fin d) :=
  clip (f.peakAndJerk target limits stopping).1
    (toSpace f.accel + clip ((f.peakAndJerk target limits stopping).2 * dt)
      (toSpace (f.desired target dt limits stopping) - toSpace f.accel))

theorem toSpace_clip (r : ℝ) (v : Fin d → ℝ) :
    toSpace (if r < norm v then fun i => v i * r / norm v else v) = clip r (toSpace v) := by
  rw [clip, ← norm_eq]
  split_ifs with h
  · rw [← toSpace_smul]
    congr 1
    funext i
    rw [Pi.smul_apply, smul_eq_mul, div_mul_eq_mul_div, mul_comm]
  · rfl

/-- The acceleration of a step, in the code's coordinates. -/
noncomputable def newAccel : Fin d → ℝ :=
  let (peak, jerk) := f.peakAndJerk target limits stopping
  let delta := f.desired target dt limits stopping - f.accel
  let delta := if jerk * dt < norm delta then fun i => delta i * (jerk * dt) / norm delta else delta
  let accel := f.accel + delta
  if peak < norm accel then fun i => accel i * peak / norm accel else accel

theorem toSpace_newAccel :
    toSpace (f.newAccel target dt limits stopping) = f.advanced target dt limits stopping := by
  simp only [newAccel, toSpace_clip, toSpace_add, toSpace_sub, advanced]

theorem step_eq : f.step target dt limits stopping =
    if norm (target - f.value) < snapError then ⟨target, 0⟩
    else if dot (target - (f.value + dt • f.newAccel target dt limits stopping))
        (target - f.value) ≤ 0 then ⟨target, 0⟩
    else ⟨f.value + dt • f.newAccel target dt limits stopping,
      f.newAccel target dt limits stopping⟩ := by
  have hdelta : (fun i => (target - f.value) i / norm (target - f.value) *
      f.desiredNorm target dt limits stopping - f.accel i) =
      f.desired target dt limits stopping - f.accel := by
    funext i
    simp only [desired, Pi.sub_apply, Pi.smul_apply, smul_eq_mul]
    rw [div_mul_eq_mul_div, div_mul_eq_mul_div, mul_comm]
  have hvalue : (fun i => f.value i + f.newAccel target dt limits stopping i * dt) =
      f.value + dt • f.newAccel target dt limits stopping := by
    funext i
    rw [Pi.add_apply, Pi.smul_apply, smul_eq_mul, mul_comm]
  rw [← hvalue, newAccel, ← hdelta]
  rfl

theorem step_cases :
    f.step target dt limits stopping = ⟨target, 0⟩ ∨
      snapError ≤ ‖toSpace target - toSpace f.value‖ ∧
      toSpace (f.step target dt limits stopping).accel = f.advanced target dt limits stopping ∧
      toSpace (f.step target dt limits stopping).value =
        toSpace f.value + dt • f.advanced target dt limits stopping ∧
      0 < ⟪toSpace target - toSpace (f.step target dt limits stopping).value,
        toSpace target - toSpace f.value⟫ := by
  by_cases hsnap : norm (target - f.value) < snapError
  · left
    rw [step_eq, if_pos hsnap]
  by_cases hcross : dot (target - (f.value + dt • f.newAccel target dt limits stopping))
      (target - f.value) ≤ 0
  · left
    rw [step_eq, if_neg hsnap, if_pos hcross]
  right
  rw [step_eq, if_neg hsnap, if_neg hcross, ← toSpace_newAccel]
  refine ⟨?_, rfl, rfl, ?_⟩
  · rw [norm_eq] at hsnap
    exact not_lt.1 hsnap
  · rw [dot_eq_inner] at hcross
    exact not_le.1 hcross

variable {limits}

theorem peak_pos (h : limits.Valid) : 0 < (f.peakAndJerk target limits stopping).1 := by
  unfold peakAndJerk
  split_ifs
  · exact h.stopDecel_pos
  · exact h.accel_pos
  · exact h.decel_pos

theorem jerk_pos (h : limits.Valid) : 0 < (f.peakAndJerk target limits stopping).2 := by
  unfold peakAndJerk
  split_ifs
  · exact div_pos (mul_pos h.jerk_pos h.stopDecel_pos) h.decel_pos
  · exact h.jerk_pos
  · exact h.jerk_pos

theorem desiredNorm_nonneg (h : limits.Valid) : 0 ≤ f.desiredNorm target dt limits stopping :=
  le_min (f.peak_pos target stopping h).le (Real.sqrt_nonneg _)

theorem norm_desired_le (h : limits.Valid) :
    ‖toSpace (f.desired target dt limits stopping)‖ ≤
      (f.peakAndJerk target limits stopping).1 := by
  have hnonneg := f.desiredNorm_nonneg target dt stopping h
  rw [desired, toSpace_smul, norm_smul, norm_eq,
    Real.norm_of_nonneg (div_nonneg hnonneg (norm_nonneg _))]
  rcases eq_or_ne ‖toSpace (target - f.value)‖ 0 with hzero | hne
  · rw [hzero, mul_zero]
    exact (f.peak_pos target stopping h).le
  · rw [div_mul_cancel₀ _ hne]
    exact min_le_left _ _

end JerkLimitedFollower

end RobotDriver.OperatorWeb.Teleop
