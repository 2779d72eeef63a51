import RobotDriver.Swerve.ModuleTargets
import RobotDriver.Swerve.Odometry

/-!
# The pose exponential, its logarithm and discretisation

The twist of `discretize`, integrated over the period, gives the straight displacement, and the
two pose maps are inverse to each other. Each has a polynomial branch in a band of small angles.
-/

noncomputable section

namespace RobotDriver.Swerve

def poseLog (transform : Pose2d) : BodyDelta :=
  let theta := wrapPi transform.heading
  let coefficient := if |theta| < smallAngleThreshold then 1 - theta * theta / 12
    else theta / 2 / Real.tan (theta / 2)
  ⟨coefficient * transform.x + theta / 2 * transform.y,
    -(theta / 2) * transform.x + coefficient * transform.y, theta⟩

/-- The branch of the pose exponential outside the band. -/
def closedPoseExp (delta : BodyDelta) : Pose2d :=
  let theta := delta.dtheta
  let sineScale := Real.sin theta / theta
  let cosineScale := (1 - Real.cos theta) / theta
  ⟨delta.dx * sineScale - delta.dy * cosineScale, delta.dx * cosineScale + delta.dy * sineScale,
    theta⟩

/-- The branch of the pose logarithm outside the band. -/
def closedPoseLog (transform : Pose2d) : BodyDelta :=
  let theta := wrapPi transform.heading
  let coefficient := theta / 2 / Real.tan (theta / 2)
  ⟨coefficient * transform.x + theta / 2 * transform.y,
    -(theta / 2) * transform.x + coefficient * transform.y, theta⟩

/-- The motion over a period at a constant twist. -/
def ChassisSpeeds.over (speeds : ChassisSpeeds) (dt : ℝ) : BodyDelta :=
  ⟨speeds.vx * dt, speeds.vy * dt, speeds.omega * dt⟩

theorem abs_linear_le {a b x y ε : ℝ} (ha : |a| ≤ ε) (hb : |b| ≤ ε) :
    |a * x + b * y| ≤ ε * (|x| + |y|) := by
  calc |a * x + b * y| ≤ |a * x| + |b * y| := abs_add_le _ _
    _ = |a| * |x| + |b| * |y| := by rw [abs_mul, abs_mul]
    _ ≤ ε * |x| + ε * |y| := add_le_add (mul_le_mul_of_nonneg_right ha (abs_nonneg x))
        (mul_le_mul_of_nonneg_right hb (abs_nonneg y))
    _ = ε * (|x| + |y|) := (mul_add _ _ _).symm

section HalfAngles

variable {theta : ℝ}

theorem sin_half_ne_zero (hne : theta ≠ 0) (hlt : |theta| < Real.pi) :
    Real.sin (theta / 2) ≠ 0 := by
  obtain ⟨hlower, hupper⟩ := abs_lt.1 hlt
  rcases lt_or_gt_of_ne hne with hneg | hpos
  · exact (Real.sin_neg_of_neg_of_neg_pi_lt (by linarith) (by linarith)).ne
  · exact (Real.sin_pos_of_pos_of_lt_pi (by linarith) (by linarith)).ne'

theorem half_div_tan : theta / 2 / Real.tan (theta / 2) =
    theta / 2 * Real.cos (theta / 2) / Real.sin (theta / 2) := by
  rw [Real.tan_eq_sin_div_cos, div_div_eq_mul_div]

theorem sin_eq_half (theta : ℝ) :
    Real.sin theta = 2 * Real.sin (theta / 2) * Real.cos (theta / 2) := by
  rw [← Real.sin_two_mul, mul_div_cancel₀ _ two_ne_zero]

theorem one_sub_cos_eq_half (theta : ℝ) :
    1 - Real.cos theta = 2 * Real.sin (theta / 2) ^ 2 := by
  have hdouble := Real.cos_two_mul (theta / 2)
  rw [mul_div_cancel₀ _ two_ne_zero] at hdouble
  have hsquares := Real.sin_sq_add_cos_sq (theta / 2)
  linarith

theorem scales_along (hne : theta ≠ 0) (hlt : |theta| < Real.pi) :
    theta / 2 / Real.tan (theta / 2) * (Real.sin theta / theta) +
      theta / 2 * ((1 - Real.cos theta) / theta) = 1 := by
  have hsin := sin_half_ne_zero hne hlt
  rw [half_div_tan, sin_eq_half theta, one_sub_cos_eq_half theta]
  field_simp
  linarith [Real.sin_sq_add_cos_sq (theta / 2)]

theorem scales_across (hne : theta ≠ 0) (hlt : |theta| < Real.pi) :
    theta / 2 / Real.tan (theta / 2) * ((1 - Real.cos theta) / theta) =
      theta / 2 * (Real.sin theta / theta) := by
  have hsin := sin_half_ne_zero hne hlt
  rw [half_div_tan, sin_eq_half theta, one_sub_cos_eq_half theta]
  field_simp

end HalfAngles

section Series

theorem abs_sineScale_sub_le {theta : ℝ} (hne : theta ≠ 0) (hlt : |theta| ≤ 1) :
    |(1 - theta * theta / 6) - Real.sin theta / theta| ≤ |theta| ^ 3 := by
  have hbound := Real.sin_bound hlt
  have hpos : 0 < |theta| := abs_pos.2 hne
  have heq : (1 - theta * theta / 6) - Real.sin theta / theta =
      -(Real.sin theta - (theta - theta ^ 3 / 6)) / theta := by
    field_simp
    ring
  rw [heq, abs_div, abs_neg, div_le_iff₀ hpos]
  refine hbound.trans ?_
  have hfourth : 0 ≤ |theta| ^ 3 * |theta| := by positivity
  nlinarith [pow_nonneg hpos.le 4, pow_nonneg hpos.le 5,
    mul_le_mul_of_nonneg_left hlt (pow_nonneg hpos.le 4)]

theorem abs_cosineScale_sub_le {theta : ℝ} (hne : theta ≠ 0) (hlt : |theta| ≤ 1) :
    |theta / 2 - (1 - Real.cos theta) / theta| ≤ |theta| ^ 3 := by
  have hbound := Real.cos_bound hlt
  have hpos : 0 < |theta| := abs_pos.2 hne
  have heq : theta / 2 - (1 - Real.cos theta) / theta =
      (Real.cos theta - (1 - theta ^ 2 / 2)) / theta := by
    field_simp
    ring
  rw [heq, abs_div, div_le_iff₀ hpos]
  refine hbound.trans ?_
  nlinarith [pow_nonneg hpos.le 4]

theorem half_le_abs_sin {h : ℝ} (hle : |h| ≤ 1 / 2) : |h| / 2 ≤ |Real.sin h| := by
  have hbound := Real.sin_bound (hle.trans (by norm_num))
  have hnonneg := abs_nonneg h
  have hcube : |h ^ 3 / 6| ≤ |h| / 24 := by
    rw [abs_div, abs_pow, abs_of_pos (by norm_num : (0 : ℝ) < 6)]
    nlinarith [mul_le_mul hle hle hnonneg (by norm_num)]
  have hfifth : |h| ^ 5 / 100 ≤ |h| / 100 := by
    have hpow := pow_le_one₀ hnonneg (hle.trans (by norm_num)) (n := 4)
    nlinarith [mul_le_mul_of_nonneg_left hpow hnonneg]
  have hsplit : |h| ≤ |Real.sin h| + |Real.sin h - (h - h ^ 3 / 6)| + |h ^ 3 / 6| := by
    have heq : h = Real.sin h - (Real.sin h - (h - h ^ 3 / 6)) + h ^ 3 / 6 := by ring
    calc |h| = |Real.sin h - (Real.sin h - (h - h ^ 3 / 6)) + h ^ 3 / 6| := by rw [← heq]
      _ ≤ |Real.sin h - (Real.sin h - (h - h ^ 3 / 6))| + |h ^ 3 / 6| := abs_add_le _ _
      _ ≤ _ := add_le_add_left (abs_sub _ _) _
  linarith

theorem abs_coefficient_sub_le {theta : ℝ} (hne : theta ≠ 0) (hle : |theta| ≤ 1) :
    |(1 - theta * theta / 12) - theta / 2 / Real.tan (theta / 2)| ≤ |theta| ^ 3 := by
  have hhalf : |theta / 2| = |theta| / 2 := by
    rw [abs_div, abs_of_pos (by norm_num : (0 : ℝ) < 2)]
  obtain ⟨h, rfl⟩ : ∃ h, theta = 2 * h := ⟨theta / 2, by ring⟩
  have hcancel : 2 * h / 2 = h := by ring
  rw [half_div_tan, hcancel] at *
  rw [abs_mul, abs_of_pos (by norm_num : (0 : ℝ) < 2)] at *
  have hbound : |h| ≤ 1 / 2 := by linarith
  have hpos : 0 < |h| := abs_pos.2 fun hzero => hne (by rw [hzero, mul_zero])
  have hsin := half_le_abs_sin hbound
  have hsin_ne : Real.sin h ≠ 0 := abs_pos.1 (by linarith)
  have hnumerator : |(1 - h ^ 2 / 3) * Real.sin h - h * Real.cos h| ≤ |h| ^ 5 / 5 := by
    have hsine := Real.sin_bound (hbound.trans (by norm_num))
    have hcosine := Real.cos_bound (hbound.trans (by norm_num))
    have hfactor : |1 - h ^ 2 / 3| ≤ 1 := by
      have hsquare : h ^ 2 ≤ 1 := by
        rw [← sq_abs]
        nlinarith
      rw [abs_of_nonneg (by linarith)]
      linarith [sq_nonneg h]
    have heq : (1 - h ^ 2 / 3) * Real.sin h - h * Real.cos h =
        (1 - h ^ 2 / 3) * (Real.sin h - (h - h ^ 3 / 6)) -
          h * (Real.cos h - (1 - h ^ 2 / 2)) + h ^ 5 / 18 := by ring
    calc |(1 - h ^ 2 / 3) * Real.sin h - h * Real.cos h|
        ≤ |(1 - h ^ 2 / 3) * (Real.sin h - (h - h ^ 3 / 6))| +
            |h * (Real.cos h - (1 - h ^ 2 / 2))| + |h ^ 5 / 18| := by
          rw [heq]
          exact (abs_add_le _ _).trans (add_le_add_left (abs_sub _ _) _)
      _ ≤ 1 * (|h| ^ 5 / 100) + |h| * (|h| ^ 4 * (5 / 96)) + |h| ^ 5 / 18 := by
          rw [abs_mul, abs_mul, abs_div, abs_pow, abs_of_pos (by norm_num : (0 : ℝ) < 18)]
          gcongr
      _ ≤ |h| ^ 5 / 5 := by
          have := pow_nonneg hpos.le 5
          nlinarith
  have hquotient : (1 - 2 * h * (2 * h) / 12) - h * Real.cos h / Real.sin h =
      ((1 - h ^ 2 / 3) * Real.sin h - h * Real.cos h) / Real.sin h := by
    field_simp
    ring
  rw [hquotient, abs_div, div_le_iff₀ (abs_pos.2 hsin_ne)]
  calc |(1 - h ^ 2 / 3) * Real.sin h - h * Real.cos h| ≤ |h| ^ 5 / 5 := hnumerator
    _ ≤ (2 * |h|) ^ 3 * (|h| / 2) := by
        have := pow_nonneg hpos.le 4
        nlinarith
    _ ≤ (2 * |h|) ^ 3 * |Real.sin h| := mul_le_mul_of_nonneg_left hsin (by positivity)

end Series

section Inverse

theorem poseExp_outside {delta : BodyDelta} (h : smallAngleThreshold ≤ |delta.dtheta|) :
    poseExp delta = closedPoseExp delta := by
  unfold poseExp closedPoseExp
  dsimp only
  rw [if_neg (not_lt.2 h), if_neg (not_lt.2 h)]

theorem poseLog_outside {transform : Pose2d} (hle : smallAngleThreshold ≤ |transform.heading|)
    (hlt : |transform.heading| < Real.pi) : poseLog transform = closedPoseLog transform := by
  unfold poseLog closedPoseLog
  dsimp only
  rw [wrapPi_of_abs_lt hlt, if_neg (not_lt.2 hle)]

theorem ne_zero_of_outside {theta : ℝ} (h : smallAngleThreshold ≤ |theta|) : theta ≠ 0 := by
  rintro rfl
  rw [abs_zero, smallAngleThreshold] at h
  norm_num at h

variable {theta : ℝ}

theorem closedPoseExp_turned (hne : theta ≠ 0) (hlt : |theta| < Real.pi) (x y : ℝ) :
    closedPoseExp ⟨theta / 2 / Real.tan (theta / 2) * x + theta / 2 * y,
      -(theta / 2) * x + theta / 2 / Real.tan (theta / 2) * y, theta⟩ = ⟨x, y, theta⟩ := by
  have halong := scales_along hne hlt
  have hacross := scales_across hne hlt
  unfold closedPoseExp
  ext
  · dsimp only
    linear_combination x * halong - y * hacross
  · dsimp only
    linear_combination y * halong + x * hacross
  · rfl

theorem closedPoseLog_exp (hne : theta ≠ 0) (hlt : |theta| < Real.pi) (dx dy : ℝ) :
    closedPoseLog (closedPoseExp ⟨dx, dy, theta⟩) = ⟨dx, dy, theta⟩ := by
  have halong := scales_along hne hlt
  have hacross := scales_across hne hlt
  unfold closedPoseLog closedPoseExp
  dsimp only
  rw [wrapPi_of_abs_lt hlt, BodyDelta.mk.injEq]
  refine ⟨?_, ?_, rfl⟩
  · linear_combination dx * halong - dy * hacross
  · linear_combination dy * halong + dx * hacross

theorem poseExp_discretize {speeds : ChassisSpeeds} {dt : ℝ}
    (hle : smallAngleThreshold ≤ |speeds.omega * dt|) (hlt : |speeds.omega * dt| < Real.pi) :
    poseExp ((discretize speeds dt).over dt) =
      ⟨speeds.vx * dt, speeds.vy * dt, speeds.omega * dt⟩ := by
  have hne := ne_zero_of_outside hle
  have hcoefficient : discretizationCoefficient (speeds.omega * dt) =
      speeds.omega * dt / 2 / Real.tan (speeds.omega * dt / 2) := if_neg (not_lt.2 hle)
  have hover : (discretize speeds dt).over dt =
      ⟨speeds.omega * dt / 2 / Real.tan (speeds.omega * dt / 2) * (speeds.vx * dt) +
          speeds.omega * dt / 2 * (speeds.vy * dt),
        -(speeds.omega * dt / 2) * (speeds.vx * dt) +
          speeds.omega * dt / 2 / Real.tan (speeds.omega * dt / 2) * (speeds.vy * dt),
        speeds.omega * dt⟩ := by
    unfold discretize ChassisSpeeds.over
    dsimp only
    rw [hcoefficient, BodyDelta.mk.injEq]
    refine ⟨?_, ?_, rfl⟩ <;> ring
  rw [hover, poseExp_outside hle, closedPoseExp_turned hne hlt]

theorem poseExp_poseLog {transform : Pose2d} (hle : smallAngleThreshold ≤ |transform.heading|)
    (hlt : |transform.heading| < Real.pi) : poseExp (poseLog transform) = transform := by
  rw [poseLog_outside hle hlt]
  unfold closedPoseLog
  dsimp only
  rw [wrapPi_of_abs_lt hlt, poseExp_outside hle,
    closedPoseExp_turned (ne_zero_of_outside hle) hlt]

theorem poseLog_poseExp {delta : BodyDelta} (hle : smallAngleThreshold ≤ |delta.dtheta|)
    (hlt : |delta.dtheta| < Real.pi) : poseLog (poseExp delta) = delta := by
  have hheading : (closedPoseExp delta).heading = delta.dtheta := rfl
  rw [poseExp_outside hle, poseLog_outside (by rwa [hheading]) (by rwa [hheading])]
  exact closedPoseLog_exp (ne_zero_of_outside hle) hlt delta.dx delta.dy

end Inverse

section Branches

theorem abs_le_one_of_inside {theta : ℝ} (h : |theta| < smallAngleThreshold) : |theta| ≤ 1 := by
  refine h.le.trans ?_
  norm_num [smallAngleThreshold]

theorem poseExp_near_closed {delta : BodyDelta} (hne : delta.dtheta ≠ 0)
    (h : |delta.dtheta| < smallAngleThreshold) :
    |(poseExp delta).x - (closedPoseExp delta).x| ≤
        |delta.dtheta| ^ 3 * (|delta.dx| + |delta.dy|) ∧
      |(poseExp delta).y - (closedPoseExp delta).y| ≤
        |delta.dtheta| ^ 3 * (|delta.dx| + |delta.dy|) ∧
      (poseExp delta).heading = (closedPoseExp delta).heading := by
  have hsine := abs_sineScale_sub_le hne (abs_le_one_of_inside h)
  have hcosine := abs_cosineScale_sub_le hne (abs_le_one_of_inside h)
  have hcosine' := hcosine
  rw [← abs_neg] at hcosine'
  unfold poseExp closedPoseExp
  dsimp only
  rw [if_pos h, if_pos h]
  refine ⟨?_, ?_, rfl⟩
  · refine (congrArg abs ?_).trans_le (abs_linear_le (x := delta.dx) (y := delta.dy) hsine hcosine')
    ring
  · refine (congrArg abs ?_).trans_le (abs_linear_le (x := delta.dx) (y := delta.dy) hcosine hsine)
    ring

theorem poseLog_near_closed {transform : Pose2d} (hne : transform.heading ≠ 0)
    (h : |transform.heading| < smallAngleThreshold) :
    |(poseLog transform).dx - (closedPoseLog transform).dx| ≤
        |transform.heading| ^ 3 * (|transform.x| + |transform.y|) ∧
      |(poseLog transform).dy - (closedPoseLog transform).dy| ≤
        |transform.heading| ^ 3 * (|transform.x| + |transform.y|) ∧
      (poseLog transform).dtheta = (closedPoseLog transform).dtheta := by
  have hlt : |transform.heading| < Real.pi :=
    (abs_le_one_of_inside h).trans_lt (by linarith [Real.two_le_pi])
  have hcoefficient := abs_coefficient_sub_le hne (abs_le_one_of_inside h)
  have hzero : |(0 : ℝ)| ≤ |transform.heading| ^ 3 := by
    rw [abs_zero]
    positivity
  unfold poseLog closedPoseLog
  dsimp only
  rw [wrapPi_of_abs_lt hlt, if_pos h]
  refine ⟨?_, ?_, rfl⟩
  · refine (congrArg abs ?_).trans_le
      (abs_linear_le (x := transform.x) (y := transform.y) hcoefficient hzero)
    ring
  · refine (congrArg abs ?_).trans_le
      (abs_linear_le (x := transform.x) (y := transform.y) hzero hcoefficient)
    ring

end Branches

/-- Discretisation undoes the pose exponential, the two pose maps undo each other outside the band
of small angles, and inside it every branch agrees with the closed form to the second order. -/
theorem pose_maps_inverse :
    (∀ (speeds : ChassisSpeeds) (dt : ℝ), smallAngleThreshold ≤ |speeds.omega * dt| →
      |speeds.omega * dt| < Real.pi → poseExp ((discretize speeds dt).over dt) =
        ⟨speeds.vx * dt, speeds.vy * dt, speeds.omega * dt⟩) ∧
    (∀ transform : Pose2d, smallAngleThreshold ≤ |transform.heading| →
      |transform.heading| < Real.pi → poseExp (poseLog transform) = transform) ∧
    (∀ delta : BodyDelta, smallAngleThreshold ≤ |delta.dtheta| → |delta.dtheta| < Real.pi →
      poseLog (poseExp delta) = delta) ∧
    (∀ theta : ℝ, theta ≠ 0 → |theta| < smallAngleThreshold →
      |discretizationCoefficient theta - theta / 2 / Real.tan (theta / 2)| ≤ |theta| ^ 3 ∧
      ∀ x y : ℝ,
        (|(poseExp ⟨x, y, theta⟩).x - (closedPoseExp ⟨x, y, theta⟩).x| ≤
            |theta| ^ 3 * (|x| + |y|) ∧
          |(poseExp ⟨x, y, theta⟩).y - (closedPoseExp ⟨x, y, theta⟩).y| ≤
            |theta| ^ 3 * (|x| + |y|) ∧
          (poseExp ⟨x, y, theta⟩).heading = (closedPoseExp ⟨x, y, theta⟩).heading) ∧
        (|(poseLog ⟨x, y, theta⟩).dx - (closedPoseLog ⟨x, y, theta⟩).dx| ≤
            |theta| ^ 3 * (|x| + |y|) ∧
          |(poseLog ⟨x, y, theta⟩).dy - (closedPoseLog ⟨x, y, theta⟩).dy| ≤
            |theta| ^ 3 * (|x| + |y|) ∧
          (poseLog ⟨x, y, theta⟩).dtheta = (closedPoseLog ⟨x, y, theta⟩).dtheta)) := by
  refine ⟨fun _ _ => poseExp_discretize, fun _ => poseExp_poseLog, fun _ => poseLog_poseExp, ?_⟩
  intro theta hne hlt
  have hcoefficient : discretizationCoefficient theta = 1 - theta * theta / 12 := if_pos hlt
  refine ⟨?_, fun x y => ⟨?_, ?_⟩⟩
  · rw [hcoefficient]
    exact abs_coefficient_sub_le hne (abs_le_one_of_inside hlt)
  · exact @poseExp_near_closed ⟨x, y, theta⟩ hne hlt
  · exact @poseLog_near_closed ⟨x, y, theta⟩ hne hlt

/-- A quarter turn in one second at one metre per second. -/
theorem quarter_turn_discretized :
    poseExp ((discretize ⟨1, 0, Real.pi / 2⟩ 1).over 1) = ⟨1, 0, Real.pi / 2⟩ := by
  have hpi := Real.two_le_pi
  have habs : |Real.pi / 2 * 1| = Real.pi / 2 := by
    rw [mul_one, abs_of_nonneg (by linarith)]
  have hinverse := pose_maps_inverse.1 ⟨1, 0, Real.pi / 2⟩ 1
    (by rw [habs, smallAngleThreshold]; norm_num; linarith) (by rw [habs]; linarith)
  simpa using hinverse

end RobotDriver.Swerve

end
