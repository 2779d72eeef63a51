import RobotDriver.Lib.LabelledRun
import RobotDriver.OperatorWeb.FollowerGeometry

/-!
# When the follower keeps its jerk

The acceleration turns by at most `jerk * dt` and is then clipped to the peak of this step. The
clipping is part of the jerk only when the turn alone reaches the peak, which it may not after a
change to a lower one.
-/

namespace RobotDriver.OperatorWeb.Teleop

open LabelledRun RadialClip StickMath

variable {d : ℕ}

/-- The arguments of a step but for the tick length; the limits are validated. -/
structure StepCall (d : ℕ) where
  target : Fin d → ℝ
  limits : AxisLimits ℝ
  stopping : Bool
  valid : limits.Valid

namespace JerkLimitedFollower

noncomputable def perform (dt : ℝ) (f : JerkLimitedFollower d ℝ) (call : StepCall d) :
    JerkLimitedFollower d ℝ :=
  f.step call.target dt call.limits call.stopping

/-- The jerk of a step; a fast stop scales it with the deceleration. -/
noncomputable def jerkOf (call : StepCall d) : ℝ :=
  if call.stopping then call.limits.jerk * call.limits.stopDecel / call.limits.decel
  else call.limits.jerk

/-- Unless the value arrives, the acceleration changes by at most `jerk * dt`. -/
def JerkBounded (dt : ℝ) (f : JerkLimitedFollower d ℝ) (call : StepCall d) : Prop :=
  (f.perform dt call).value ≠ call.target →
    norm ((f.perform dt call).accel - f.accel) ≤ jerkOf call * dt

/-- Unless the value arrives, some point of the straight way from the acceleration to the desired
one is within the peak and no further than `jerk * dt`. -/
def PeakWithinReach (dt : ℝ) (f : JerkLimitedFollower d ℝ) (call : StepCall d) : Prop :=
  (f.perform dt call).value ≠ call.target →
    ∃ t : ℝ, 0 ≤ t ∧ t ≤ 1 ∧
      norm (t • (f.desired call.target dt call.limits call.stopping - f.accel)) ≤
        jerkOf call * dt ∧
      norm (f.accel + t • (f.desired call.target dt call.limits call.stopping - f.accel)) ≤
        (f.peakAndJerk call.target call.limits call.stopping).1

variable {dt : ℝ} (f : JerkLimitedFollower d ℝ) (call : StepCall d)

theorem peakAndJerk_jerk :
    (f.peakAndJerk call.target call.limits call.stopping).2 = jerkOf call := by
  unfold peakAndJerk jerkOf
  split_ifs <;> rfl

theorem jerkOf_pos : 0 < jerkOf call := by
  rw [← peakAndJerk_jerk reset]
  exact jerk_pos _ _ _ call.valid

theorem jerkBounded_iff (hdt : 0 ≤ dt) :
    f.JerkBounded dt call ↔ f.PeakWithinReach dt call := by
  rcases f.step_cases call.target dt call.limits call.stopping with harrived | ⟨-, haccel, -, -⟩
  · have hvalue : (f.perform dt call).value = call.target := by rw [perform, harrived]
    exact iff_of_true (absurd hvalue) (absurd hvalue)
  refine imp_congr_right fun _ => ?_
  have hmax : 0 ≤ jerkOf call * dt := mul_nonneg (jerkOf_pos call).le hdt
  have hpeak := (f.peak_pos call.target call.stopping call.valid).le
  have hdesired := f.norm_desired_le call.target dt call.stopping call.valid
  rw [norm_eq, toSpace_sub, perform, haccel, advanced, peakAndJerk_jerk,
    norm_clip_step_le_iff hmax hpeak hdesired, norm_step_le_iff_exists hmax hdesired]
  simp only [norm_eq, toSpace_add, toSpace_sub, toSpace_smul]

/-- Along a run the jerk is kept exactly when in every step that does not arrive the peak is within
reach. -/
theorem along_jerkBounded_iff (hdt : 0 ≤ dt) (calls : List (StepCall d)) :
    Along (perform dt) (JerkBounded dt) f calls ↔ Along (perform dt) (PeakWithinReach dt) f calls :=
  along_congr (along_of_forall (fun f call => f.jerkBounded_iff call hdt) f calls)

section Scalar

/-- A follower of one axis. -/
def scalar (v a : ℝ) : JerkLimitedFollower 1 ℝ := ⟨fun _ => v, fun _ => a⟩

noncomputable def cut (r u : ℝ) : ℝ := if r < |u| then u * r / |u| else u

theorem norm_scalar (v : ℝ) : norm (fun _ : Fin 1 => v) = |v| := norm_fin_one _

theorem dot_scalar (v w : ℝ) : dot (fun _ : Fin 1 => v) (fun _ => w) = v * w := by
  rw [dot, List.finRange_succ, List.finRange_zero]
  simp

variable {v a x dt p j : ℝ} {limits : AxisLimits ℝ}

theorem desired_scalar (hj : 0 ≤ j)
    (hpeak : (scalar v a).peakAndJerk (fun _ => x) limits false = (p, j))
    (hfar : p ^ 2 ≤ 2 * j * (|x - v| - |a| * dt)) :
    (scalar v a).desired (fun _ => x) dt limits false = fun _ => p / |x - v| * (x - v) := by
  have hsub : (fun _ => x) - (scalar v a).value = fun _ => x - v := rfl
  have hnorm : (scalar v a).desiredNorm (fun _ => x) dt limits false = p := by
    rw [desiredNorm, hpeak, hsub, norm_scalar, scalar, norm_scalar]
    refine min_eq_left (Real.le_sqrt_of_sq_le (hfar.trans ?_))
    gcongr
    exact le_max_left _ _
  rw [desired, hnorm, hsub, norm_scalar]
  rfl

theorem newAccel_scalar {w : ℝ}
    (hpeak : (scalar v a).peakAndJerk (fun _ => x) limits false = (p, j))
    (hdesired : (scalar v a).desired (fun _ => x) dt limits false = fun _ => w) :
    (scalar v a).newAccel (fun _ => x) dt limits false =
      fun _ => cut p (a + cut (j * dt) (w - a)) := by
  have hcut : ∀ r u : ℝ, (if r < norm (fun _ : Fin 1 => u) then
      fun _ : Fin 1 => u * r / norm (fun _ : Fin 1 => u) else fun _ => u) =
      fun _ => cut r u := by
    intro r u
    rw [norm_scalar, cut]
    split_ifs <;> rfl
  have hdelta : (fun _ => w) - (scalar v a).accel = fun _ => w - a := rfl
  have haccel : (scalar v a).accel + (fun _ => cut (j * dt) (w - a)) =
      fun _ => a + cut (j * dt) (w - a) := rfl
  simp only [newAccel, hpeak, hdesired, hdelta, hcut, haccel]

theorem step_scalar {b : ℝ} (hsnap : snapError ≤ |x - v|)
    (haccel : (scalar v a).newAccel (fun _ => x) dt limits false = fun _ => b)
    (hahead : 0 < (x - (v + dt * b)) * (x - v)) :
    (scalar v a).step (fun _ => x) dt limits false = scalar (v + dt * b) b := by
  have hsub : (fun _ => x) - (scalar v a).value = fun _ => x - v := rfl
  have hnew : (fun _ => x) - ((scalar v a).value + dt • fun _ => b) =
      fun _ => x - (v + dt * b) := rfl
  rw [step_eq, haccel, hnew, hsub, norm_scalar, dot_scalar, if_neg (not_lt.2 hsnap),
    if_neg (not_le.2 hahead)]
  rfl

/-- An axis that brakes with far less than it accelerates. -/
noncomputable def uneven : AxisLimits ℝ where
  accel := 4
  decel := 1 / 4
  stopDecel := 1 / 4
  jerk := 1

theorem uneven_valid : uneven.Valid := by
  constructor <;> norm_num [uneven]

noncomputable def pushed : StepCall 1 := ⟨fun _ => 100, uneven, false, uneven_valid⟩

noncomputable def released : StepCall 1 := ⟨fun _ => 0, uneven, false, uneven_valid⟩

theorem perform_pushed (hv : 0 ≤ v ∧ v ≤ 10) (ha : 0 ≤ a ∧ a < 3) :
    (scalar v a).perform 1 pushed = scalar (v + (a + 1)) (a + 1) := by
  have hpeak : (scalar v a).peakAndJerk (fun _ => 100) uneven false = (4, 1) := by
    rw [peakAndJerk, if_neg Bool.false_ne_true, scalar, norm_scalar, norm_scalar, if_pos]
    · rfl
    · rw [abs_of_nonneg hv.1, epsilon]
      norm_num
      linarith
  have herror : |100 - v| = 100 - v := abs_of_nonneg (by linarith)
  have hdesired : (scalar v a).desired (fun _ => 100) 1 uneven false = fun _ => 4 := by
    rw [desired_scalar zero_le_one hpeak, herror, div_mul_cancel₀ _ (by linarith)]
    rw [herror, abs_of_nonneg ha.1]
    linarith
  have haccel : (scalar v a).newAccel (fun _ => 100) 1 uneven false = fun _ => a + 1 := by
    rw [newAccel_scalar hpeak hdesired]
    have hturn : cut (1 * 1) (4 - a) = 1 := by
      rw [cut, abs_of_pos (by linarith), if_pos (by linarith), mul_one, mul_one,
        div_self (by linarith)]
    rw [hturn, cut, abs_of_nonneg (by linarith), if_neg (by linarith)]
  have hstep := step_scalar (x := 100) (by rw [herror, snapError]; norm_num; linarith) haccel
    (by nlinarith)
  rw [one_mul] at hstep
  exact hstep

/-- Released at speed, the acceleration falls from two to a quarter in one second. -/
theorem release_breaks_jerk :
    ¬Along (perform 1) (JerkBounded 1) (reset : JerkLimitedFollower 1 ℝ)
      [pushed, pushed, released] := by
  have hfirst : (reset : JerkLimitedFollower 1 ℝ).perform 1 pushed = scalar 1 1 := by
    have h := perform_pushed (v := 0) (a := 0) (by norm_num) (by norm_num)
    norm_num at h
    exact h
  have hsecond : (scalar 1 1).perform 1 pushed = scalar 3 2 := by
    rw [perform_pushed (by norm_num) (by norm_num)]
    norm_num
  have hpeak : (scalar 3 2).peakAndJerk (fun _ => 0) uneven false = (1 / 4, 1) := by
    rw [peakAndJerk, if_neg Bool.false_ne_true, scalar, norm_scalar, norm_scalar, if_neg]
    · rfl
    · norm_num [epsilon]
  have hdesired : (scalar 3 2).desired (fun _ => 0) 1 uneven false = fun _ => -(1 / 4) := by
    rw [desired_scalar zero_le_one hpeak (by norm_num)]
    norm_num
  have haccel : (scalar 3 2).newAccel (fun _ => 0) 1 uneven false = fun _ => 1 / 4 := by
    rw [newAccel_scalar hpeak hdesired]
    norm_num [cut]
  have hthird : (scalar 3 2).perform 1 released = scalar (13 / 4) (1 / 4) := by
    refine (step_scalar (x := 0) (by norm_num [snapError]) haccel (by norm_num)).trans ?_
    norm_num
  rintro ⟨-, -, hlast, -⟩
  rw [hfirst, hsecond, JerkBounded, hthird] at hlast
  have hvalue : (scalar (13 / 4) (1 / 4)).value ≠ released.target := by
    intro h
    have := congrFun h 0
    norm_num [scalar, released] at this
  have hchange : (scalar (13 / 4) (1 / 4)).accel - (scalar 3 2).accel = fun _ => 1 / 4 - 2 := rfl
  have hjerk := hlast hvalue
  rw [hchange, norm_scalar, jerkOf] at hjerk
  norm_num [released, uneven] at hjerk

/-- The run that is pushed twice and then released. -/
theorem along_jerkBounded_iff_released : (0 : ℝ) ≤ 1 ∧
    (Along (perform 1) (JerkBounded 1) (reset : JerkLimitedFollower 1 ℝ)
        [pushed, pushed, released] ↔
      Along (perform 1) (PeakWithinReach 1) reset [pushed, pushed, released]) :=
  ⟨zero_le_one, along_jerkBounded_iff reset zero_le_one _⟩

end Scalar

end JerkLimitedFollower

end RobotDriver.OperatorWeb.Teleop
