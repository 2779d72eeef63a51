import RobotDriver.OperatorWeb.FollowerGeometry

/-!
# How far the follower leaves the ball of its targets

Seen along any direction in which the value is beyond every allowed target, the acceleration only
loses: a step takes at least the part `jerk * dt / (2 * peak)` of it. What the value can still gain
is bounded by the acceleration it carries, so value and carried gain together never leave a bound.
-/

namespace RobotDriver.OperatorWeb.Teleop

open StickMath RadialClip
open scoped RealInnerProductSpace

variable {d : ℕ}

/-- The largest peak of an axis in any mode. -/
def AxisLimits.peak (limits : AxisLimits ℝ) : ℝ := max limits.accel limits.stopDecel

/-- What a change of direction can add to the magnitude of a command. -/
noncomputable def AxisLimits.overshoot (limits : AxisLimits ℝ) : ℝ :=
  limits.peak * maxTickDtS + 2 * limits.peak / limits.jerk * limits.peak

namespace JerkLimitedFollower

variable (f : JerkLimitedFollower d ℝ) (target : Fin d → ℝ) (dt : ℝ) (limits : AxisLimits ℝ)
  (stopping : Bool)

variable {limits}

theorem limits_peak_pos (h : limits.Valid) : 0 < limits.peak := lt_max_of_lt_left h.accel_pos

theorem peakAndJerk_le (h : limits.Valid) :
    (f.peakAndJerk target limits stopping).1 ≤ limits.peak ∧
      limits.jerk ≤ (f.peakAndJerk target limits stopping).2 := by
  unfold peakAndJerk AxisLimits.peak
  split_ifs
  · refine ⟨le_max_right _ _, ?_⟩
    rw [le_div_iff₀ h.decel_pos]
    exact mul_le_mul_of_nonneg_left h.decel_le h.jerk_pos.le
  · exact ⟨le_max_left _ _, le_rfl⟩
  · exact ⟨h.decel_le.trans (le_max_right _ _), le_rfl⟩

theorem norm_advanced_le (h : limits.Valid) : ‖f.advanced target dt limits stopping‖ ≤
    (f.peakAndJerk target limits stopping).1 :=
  norm_clip_le (f.peak_pos target stopping h).le _

theorem overshoot_nonneg (h : limits.Valid) : 0 ≤ limits.overshoot := by
  have hpeak := (limits_peak_pos h).le
  have hjerk := h.jerk_pos.le
  rw [AxisLimits.overshoot, maxTickDtS]
  positivity

/-- The value along `u` with all that the acceleration along `u` can still add to it. -/
noncomputable def carried (limits : AxisLimits ℝ) (u : EuclideanSpace ℝ (Fin d)) : ℝ :=
  ⟪u, toSpace f.value⟫ + 2 * limits.peak / limits.jerk * max ⟪u, toSpace f.accel⟫ 0

theorem max_inner_clip_le {r : ℝ} (hr : 0 ≤ r) (u v : EuclideanSpace ℝ (Fin d)) :
    max ⟪u, clip r v⟫ 0 ≤ max ⟪u, v⟫ 0 := by
  obtain ⟨t, ht, ht', hclip⟩ := exists_clip_eq_smul hr v
  rw [hclip, real_inner_smul_right]
  refine max_le ?_ (le_max_right _ _)
  calc t * ⟪u, v⟫ ≤ t * max ⟪u, v⟫ 0 := mul_le_mul_of_nonneg_left (le_max_left _ _) ht
    _ ≤ max ⟪u, v⟫ 0 := mul_le_of_le_one_left (le_max_right _ _) ht'

theorem max_inner_turn_le {p m : ℝ} (hp : 0 < p) (hm : 0 ≤ m) {u v w : EuclideanSpace ℝ (Fin d)}
    (hv : ‖v‖ ≤ p) (hw : ‖w‖ ≤ p) (huw : ⟪u, w⟫ ≤ 0) :
    (1 + m / (2 * p)) * max ⟪u, v + clip m (w - v)⟫ 0 ≤ max ⟪u, v⟫ 0 := by
  have hshare : 0 ≤ m / (2 * p) := by positivity
  rcases le_or_gt ‖w - v‖ m with hshort | hlong
  · rw [clip_of_le hshort, add_sub_cancel, max_eq_right huw, mul_zero]
    exact le_max_right _ _
  have hlength : ‖w - v‖ ≤ 2 * p := (norm_sub_le w v).trans (by linarith)
  have hpos : 0 < ‖w - v‖ := hm.trans_lt hlong
  set t := m / ‖w - v‖ with ht
  have hshare' : m / (2 * p) ≤ t := div_le_div_of_nonneg_left hm hpos hlength
  have hone : t ≤ 1 := div_le_one_of_le₀ hlong.le hpos.le
  have hturn : ⟪u, v + clip m (w - v)⟫ ≤ (1 - t) * max ⟪u, v⟫ 0 := by
    rw [clip_of_lt hlong, ← ht, inner_add_right, real_inner_smul_right, inner_sub_right]
    have hwt := mul_nonpos_of_nonneg_of_nonpos (hshare.trans hshare') huw
    have hvt := mul_le_mul_of_nonneg_left (le_max_left ⟪u, v⟫ 0) (sub_nonneg.2 hone)
    linarith
  have hkept : 0 ≤ (1 - t) * max ⟪u, v⟫ 0 :=
    mul_nonneg (sub_nonneg.2 hone) (le_max_right _ _)
  calc (1 + m / (2 * p)) * max ⟪u, v + clip m (w - v)⟫ 0
      ≤ (1 + t) * ((1 - t) * max ⟪u, v⟫ 0) := by
        gcongr
        exact max_le hturn hkept
    _ = (1 - t ^ 2) * max ⟪u, v⟫ 0 := by ring
    _ ≤ max ⟪u, v⟫ 0 := mul_le_of_le_one_left (le_max_right _ _) (by nlinarith)

variable {f target dt stopping}

/-- The accelerations and carried values of a follower whose targets stay in a ball. -/
structure Contained (limits : AxisLimits ℝ) (r : ℝ) (f : JerkLimitedFollower d ℝ) : Prop where
  accel : ‖toSpace f.accel‖ ≤ limits.peak
  carried : ∀ u : EuclideanSpace ℝ (Fin d), ‖u‖ = 1 → f.carried limits u ≤ r + limits.overshoot

theorem Contained.step {r : ℝ} (h : f.Contained limits r) (hvalid : limits.Valid)
    (hdt : 0 ≤ dt) (hdt' : dt ≤ maxTickDtS) (htarget : ‖toSpace target‖ ≤ r) :
    (f.step target dt limits stopping).Contained limits r := by
  have hp := limits_peak_pos hvalid
  have hj := hvalid.jerk_pos
  have hr : ∀ u : EuclideanSpace ℝ (Fin d), ‖u‖ = 1 → ⟪u, toSpace target⟫ ≤ r := by
    intro u hu
    exact (real_inner_le_norm u _).trans (by rwa [hu, one_mul])
  rcases f.step_cases target dt limits stopping with harrived | ⟨-, haccel, hvalue, -⟩
  · rw [harrived]
    refine ⟨by rw [toSpace_zero, norm_zero]; exact hp.le, fun u hu => ?_⟩
    rw [JerkLimitedFollower.carried, toSpace_zero, inner_zero_right, max_self, mul_zero, add_zero]
    exact (hr u hu).trans (le_add_of_nonneg_right (overshoot_nonneg hvalid))
  obtain ⟨hpeak, hjerk⟩ := f.peakAndJerk_le target stopping hvalid
  have hadvanced := (f.norm_advanced_le target dt stopping hvalid).trans hpeak
  refine ⟨haccel ▸ hadvanced, fun u hu => ?_⟩
  rw [JerkLimitedFollower.carried, hvalue, haccel, inner_add_right, real_inner_smul_right]
  set y := ⟪u, f.advanced target dt limits stopping⟫ with hy
  have hyp : y ≤ limits.peak := (real_inner_le_norm u _).trans (by rwa [hu, one_mul])
  rcases le_or_gt ⟪u, toSpace f.value⟫ r with hin | hout
  · -- within the targets one tick adds at most what the bound allows for
    have hgain : dt * y ≤ limits.peak * maxTickDtS :=
      (mul_le_mul_of_nonneg_left hyp hdt).trans (by rw [mul_comm]; gcongr)
    have hcarried : 2 * limits.peak / limits.jerk * max y 0 ≤
        2 * limits.peak / limits.jerk * limits.peak := by
      gcongr
      exact max_le hyp hp.le
    rw [AxisLimits.overshoot]
    linarith
  · -- beyond them the desired acceleration points back
    have hback : ⟪u, toSpace (f.desired target dt limits stopping)⟫ ≤ 0 := by
      rw [desired, toSpace_smul, real_inner_smul_right, toSpace_sub, inner_sub_right]
      refine mul_nonpos_of_nonneg_of_nonpos ?_ (by linarith [hr u hu])
      rw [norm_eq]
      exact div_nonneg (f.desiredNorm_nonneg target dt stopping hvalid) (norm_nonneg _)
    have hturn := max_inner_turn_le hp (mul_nonneg (hj.le.trans hjerk) hdt) h.accel
      ((f.norm_desired_le target dt stopping hvalid).trans hpeak) hback
    have hclip := max_inner_clip_le (f.peak_pos target stopping hvalid).le u
      (toSpace f.accel + clip ((f.peakAndJerk target limits stopping).2 * dt)
        (toSpace (f.desired target dt limits stopping) - toSpace f.accel))
    rw [← advanced, ← hy] at hclip
    set jerk := (f.peakAndJerk target limits stopping).2
    have hjerk' : 0 < jerk := hj.trans_le hjerk
    have hpaid : (1 + jerk * dt / (2 * limits.peak)) * max y 0 ≤ max ⟪u, toSpace f.accel⟫ 0 :=
      (mul_le_mul_of_nonneg_left hclip (by positivity)).trans hturn
    calc ⟪u, toSpace f.value⟫ + dt * y + 2 * limits.peak / limits.jerk * max y 0
        ≤ ⟪u, toSpace f.value⟫ + 2 * limits.peak / limits.jerk *
            ((1 + limits.jerk * dt / (2 * limits.peak)) * max y 0) := by
          have hgain : dt * y ≤ dt * max y 0 := mul_le_mul_of_nonneg_left (le_max_left _ _) hdt
          have hsplit : 2 * limits.peak / limits.jerk *
              ((1 + limits.jerk * dt / (2 * limits.peak)) * max y 0) =
              2 * limits.peak / limits.jerk * max y 0 + dt * max y 0 := by
            field_simp
          linarith
      _ ≤ ⟪u, toSpace f.value⟫ + 2 * limits.peak / limits.jerk *
            ((1 + jerk * dt / (2 * limits.peak)) * max y 0) := by gcongr
      _ ≤ f.carried limits u := by
          rw [JerkLimitedFollower.carried]
          gcongr
      _ ≤ r + limits.overshoot := h.carried u hu

theorem Contained.norm_value_le {r : ℝ} (h : f.Contained limits r) (hvalid : limits.Valid)
    (hr : 0 ≤ r) : ‖toSpace f.value‖ ≤ r + limits.overshoot := by
  have hp := limits_peak_pos hvalid
  have hj := hvalid.jerk_pos
  rcases eq_or_ne (toSpace f.value) 0 with hzero | hne
  · rw [hzero, norm_zero]
    exact add_nonneg hr (overshoot_nonneg hvalid)
  have hpos : 0 < ‖toSpace f.value‖ := norm_pos_iff.2 hne
  set u := (‖toSpace f.value‖)⁻¹ • toSpace f.value with hu
  have hunit : ‖u‖ = 1 := by
    rw [hu, norm_smul, norm_inv, norm_norm, inv_mul_cancel₀ hpos.ne']
  have hself : ⟪u, toSpace f.value⟫ = ‖toSpace f.value‖ := by
    rw [hu, real_inner_smul_left, real_inner_self_eq_norm_sq, sq, inv_mul_cancel_left₀ hpos.ne']
  have hcarried := h.carried u hunit
  rw [JerkLimitedFollower.carried, hself] at hcarried
  have hnonneg : 0 ≤ 2 * limits.peak / limits.jerk * max ⟪u, toSpace f.accel⟫ 0 := by positivity
  linarith

theorem contained_of_value_zero {r : ℝ} (hvalid : limits.Valid) (hr : 0 ≤ r)
    (haccel : ‖toSpace f.accel‖ ≤ limits.peak) (hvalue : f.value = 0) :
    f.Contained limits r := by
  have hp := limits_peak_pos hvalid
  have hj := hvalid.jerk_pos
  refine ⟨haccel, fun u hu => ?_⟩
  have hinner : ⟪u, toSpace f.accel⟫ ≤ limits.peak :=
    (real_inner_le_norm u _).trans (by rwa [hu, one_mul])
  have hcarried : 2 * limits.peak / limits.jerk * max ⟪u, toSpace f.accel⟫ 0 ≤
      2 * limits.peak / limits.jerk * limits.peak := by
    gcongr
    exact max_le hinner hp.le
  have htick : 0 ≤ limits.peak * maxTickDtS := by
    rw [maxTickDtS]
    positivity
  rw [carried, hvalue, toSpace_zero, inner_zero_right, zero_add, AxisLimits.overshoot]
  linarith

theorem error_of_arrived (harrived : f.step target dt limits stopping = ⟨target, 0⟩)
    (hdt : 0 ≤ dt) :
    ‖toSpace target - toSpace f.value‖ < snapError ∨
      ‖toSpace target - toSpace f.value‖ ≤ ‖f.advanced target dt limits stopping‖ * dt := by
  by_cases hsnap : norm (target - f.value) < snapError
  · rw [norm_eq] at hsnap
    exact .inl hsnap
  by_cases hcross : dot (target - (f.value + dt • f.newAccel target dt limits stopping))
      (target - f.value) ≤ 0
  · right
    rw [dot_eq_inner] at hcross
    simp only [toSpace_sub, toSpace_add, toSpace_smul, toSpace_newAccel] at hcross
    set error := toSpace target - toSpace f.value with herror
    have hsub : toSpace target - (toSpace f.value + dt • f.advanced target dt limits stopping) =
        error - dt • f.advanced target dt limits stopping := by rw [herror, sub_add_eq_sub_sub]
    rw [hsub, inner_sub_left, real_inner_self_eq_norm_sq, real_inner_smul_left] at hcross
    have hinner : dt * ⟪f.advanced target dt limits stopping, error⟫ ≤
        dt * (‖f.advanced target dt limits stopping‖ * ‖error‖) :=
      mul_le_mul_of_nonneg_left (real_inner_le_norm _ _) hdt
    rcases (norm_nonneg error).eq_or_lt with hzero | hpos
    · rw [← hzero]
      positivity
    · refine le_of_mul_le_mul_right ?_ hpos
      nlinarith
  · rw [step_eq, if_neg hsnap, if_neg hcross, mk.injEq] at harrived
    rw [harrived.1, sub_self, dot_eq_inner, toSpace_zero, inner_zero_left] at hcross
    exact absurd le_rfl hcross

theorem norm_step_value_sub_le (hvalid : limits.Valid) (hdt : 0 ≤ dt) :
    ‖toSpace (f.step target dt limits stopping).value - toSpace f.value‖ ≤
        (f.peakAndJerk target limits stopping).1 * dt ∨
      ‖toSpace (f.step target dt limits stopping).value - toSpace f.value‖ < snapError := by
  have hpeak := mul_le_mul_of_nonneg_right (f.norm_advanced_le target dt stopping hvalid) hdt
  rcases f.step_cases target dt limits stopping with harrived | ⟨-, -, hvalue, -⟩
  · rcases error_of_arrived harrived hdt with hsnap | hreached
    · rw [harrived]
      exact .inr hsnap
    · rw [harrived]
      exact .inl (hreached.trans hpeak)
  · left
    rw [hvalue, add_sub_cancel_left, norm_smul, Real.norm_of_nonneg hdt, mul_comm]
    exact hpeak

/-- The value is on the way from standstill to the target and the acceleration points there. -/
def Straight (target : Fin d → ℝ) (f : JerkLimitedFollower d ℝ) : Prop :=
  ∃ s b : ℝ, 0 ≤ s ∧ s ≤ 1 ∧ 0 ≤ b ∧ f.value = s • target ∧ f.accel = b • target

theorem straight_reset (target : Fin d → ℝ) : (reset : JerkLimitedFollower d ℝ).Straight target :=
  ⟨0, 0, le_rfl, zero_le_one, le_rfl, (zero_smul _ _).symm, (zero_smul _ _).symm⟩

theorem Straight.step (h : f.Straight target) (hvalid : limits.Valid) (hdt : 0 ≤ dt) :
    (f.step target dt limits stopping).Straight target := by
  obtain ⟨s, b, hs, hs', hb, hfvalue, hfaccel⟩ := h
  rcases f.step_cases target dt limits stopping with harrived | ⟨-, haccel, hvalue, hahead⟩
  · rw [harrived]
    exact ⟨1, 0, zero_le_one, le_rfl, le_rfl, (one_smul _ _).symm, (zero_smul _ _).symm⟩
  have herror : target - f.value = (1 - s) • target := by rw [hfvalue, sub_smul, one_smul]
  set c := f.desiredNorm target dt limits stopping / norm (target - f.value) * (1 - s) with hc
  have hc0 : 0 ≤ c := by
    rw [hc, norm_eq]
    exact mul_nonneg (div_nonneg (f.desiredNorm_nonneg target dt stopping hvalid) (norm_nonneg _))
      (sub_nonneg.2 hs')
  have hdesired : f.desired target dt limits stopping = c • target := by
    rw [desired, hc, mul_smul, ← herror]
  obtain ⟨t, ht, ht', hturn⟩ := exists_clip_eq_smul
    (mul_nonneg (f.jerk_pos target stopping hvalid).le hdt) (toSpace (c • target) - toSpace f.accel)
  obtain ⟨q, hq, -, hpeak⟩ := exists_clip_eq_smul (f.peak_pos target stopping hvalid).le
    (toSpace f.accel + t • (toSpace (c • target) - toSpace f.accel))
  set b' := q * ((1 - t) * b + t * c) with hb'
  have hb0 : 0 ≤ b' := by
    have ht1 := sub_nonneg.2 ht'
    positivity
  have hadvanced : f.advanced target dt limits stopping = toSpace (b' • target) := by
    rw [advanced, hdesired, hturn, hpeak, hfaccel]
    simp only [toSpace_smul, hb']
    module
  rw [hadvanced] at haccel hvalue
  have hvalue' : (f.step target dt limits stopping).value = (s + dt * b') • target := by
    apply toSpace_injective
    rw [hvalue, hfvalue]
    simp only [toSpace_smul]
    module
  refine ⟨s + dt * b', b', by positivity, ?_, hb0, hvalue', toSpace_injective haccel⟩
  -- the target is still ahead
  rw [← toSpace_sub, ← toSpace_sub, hvalue', herror] at hahead
  have hleft : target - (s + dt * b') • target = (1 - (s + dt * b')) • target := by
    rw [sub_smul, one_smul]
  rw [hleft, toSpace_smul, toSpace_smul, real_inner_smul_left, real_inner_smul_right,
    real_inner_self_eq_norm_sq] at hahead
  by_contra! hpast
  have hrest : 0 ≤ (1 - s) * ‖toSpace target‖ ^ 2 := by
    have hs1 := sub_nonneg.2 hs'
    positivity
  exact hahead.not_ge (mul_nonpos_of_nonpos_of_nonneg (by linarith) hrest)

theorem Straight.norm_value_le (h : f.Straight target) : ‖toSpace f.value‖ ≤ ‖toSpace target‖ := by
  obtain ⟨s, b, hs, hs', -, hvalue, -⟩ := h
  rw [hvalue, toSpace_smul, norm_smul, Real.norm_of_nonneg hs]
  exact mul_le_of_le_one_left (norm_nonneg _) hs'

end JerkLimitedFollower

end RobotDriver.OperatorWeb.Teleop
