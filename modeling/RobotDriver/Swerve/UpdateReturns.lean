import RobotDriver.Swerve.HoldLatch

/-!
# Updates that return and stops that slow down

No update throws: a setpoint is only generated from feedback that is ready. Without a fresh command
the wheels do not get faster.
-/

noncomputable section

open scoped Classical

namespace RobotDriver.Swerve.MotionCore

variable {G : Type*} (ruckig : Ruckig G) (core : MotionCore G)
  (feedback : Module → MotionFeedback)

theorem generate_returns (hready : core.feedbackReady feedback = true)
    (desired : Module → SwerveModuleState) {period : ℝ} (hperiod : 0 < period)
    (holding : Module → Bool) :
    (core.generate feedback desired period holding).2.isSome = true := by
  refine SwerveSetpointGenerator.generate_isSome _ _ _ _ hperiod fun index => ?_
  have hmodule : core.moduleReady (feedback index).toModuleFeedback index = true :=
    of_decide_eq_true hready index
  rw [ControlCore.moduleReady, Bool.and_eq_true, decide_eq_true_eq] at hmodule
  exact tolerance_of_within hmodule.2

variable {core} in
theorem usablePeriod_pos {dt : Option ℝ} {period : ℝ} (h : core.usablePeriod dt = some period) :
    0 < period := by
  rw [usablePeriod, Option.filter_eq_some_iff, decide_eq_true_eq] at h
  exact h.2.1

theorem rampStop_returns (hready : core.feedbackReady feedback = true) (status : ControlStatus)
    (dt : Option ℝ) : (core.rampStop ruckig feedback status dt).2 = true := by
  unfold rampStop
  split
  · rfl
  · rename_i period hperiod
    have hsome := core.generate_returns feedback hready core.heldState (usablePeriod_pos hperiod)
      fun _ => true
    split
    · rename_i hgenerate
      simp [hgenerate] at hsome
    · dsimp only
      split_ifs <;> rfl

theorem steerTo_returns (hready : core.feedbackReady feedback = true)
    (desired : Module → SwerveModuleState) (holding : Module → Bool) (waiting : Bool)
    {period : ℝ} (hperiod : 0 < period) :
    (core.steerTo ruckig feedback desired holding waiting period).2 = true := by
  have hsome := core.generate_returns feedback hready
    (desaturateWheelSpeeds desired core.motion.maxWheelSpeed) hperiod holding
  unfold steerTo
  split_ifs
  · rfl
  · split
    · rename_i hgenerate
      simp [hgenerate] at hsome
    · dsimp only
      split_ifs <;> rfl

theorem obey_returns (hready : core.feedbackReady feedback = true) (command : ChassisSpeeds)
    {period : ℝ} (hperiod : 0 < period) :
    (core.obey ruckig feedback command period).2 = true := by
  unfold obey
  dsimp only
  split_ifs
  · exact rampStop_returns ruckig _ feedback (by exact hready) _ _
  · rfl
  · unfold track
    dsimp only
    split_ifs
    · exact rampStop_returns ruckig _ feedback (by exact hready) _ _
    · exact rampStop_returns ruckig _ feedback (by exact hready) _ _
    · exact steerTo_returns ruckig _ feedback (by exact hready) _ _ _ hperiod

theorem update_returns (command : CommandSpeeds) (commandFresh : Bool) (dt : Option ℝ)
    (imu : Option YawSample) :
    (core.update ruckig feedback command commandFresh dt imu).2 = true := by
  unfold update
  split_ifs
  · rfl
  · rfl
  · unfold updateObserved
    dsimp only
    split_ifs with hready
    · rfl
    · rfl
    · rfl
    · rw [Bool.not_eq_true', Bool.not_eq_false] at hready
      exact rampStop_returns ruckig _ feedback (by exact hready) _ _
    · rw [Bool.not_eq_true', Bool.not_eq_false] at hready
      split
      · rename_i period speeds hperiod hspeeds
        exact obey_returns ruckig _ feedback (by exact hready) _ (usablePeriod_pos hperiod)
      · rfl

theorem abs_slowedSpeed_le {period : ℝ} (hperiod : 0 < period) (index : Module) :
    |core.slowedSpeed period index| ≤ |core.previousSpeeds index| := by
  have hstep := mul_pos core.motion.maxWheelAcceleration_pos hperiod
  rw [slowedSpeed, abs_copysign, abs_of_nonneg (le_max_left _ _)]
  exact max_le (abs_nonneg _) (by linarith)

theorem rampStop_slows (status : ControlStatus) (dt : Option ℝ) (index : Module) :
    |(core.rampStop ruckig feedback status dt).1.previousSpeeds index| ≤
      |core.previousSpeeds index| := by
  have hstopped : |(0 : ℝ)| ≤ |core.previousSpeeds index| := by
    rw [abs_zero]
    exact abs_nonneg _
  unfold rampStop
  split
  · exact hstopped
  · rename_i period hperiod
    split
    · exact le_rfl
    · dsimp only
      split_ifs
      · exact core.abs_slowedSpeed_le (usablePeriod_pos hperiod) index
      · exact hstopped

theorem update_slows (command : CommandSpeeds) (dt : Option ℝ) (imu : Option YawSample)
    (index : Module) :
    |(core.update ruckig feedback command false dt imu).1.previousSpeeds index| ≤
      |core.previousSpeeds index| := by
  have hstopped : |(0 : ℝ)| ≤ |core.previousSpeeds index| := by
    rw [abs_zero]
    exact abs_nonneg _
  unfold update
  split_ifs
  · exact hstopped
  · exact hstopped
  · unfold updateObserved
    dsimp only
    split_ifs
    · exact hstopped
    · exact hstopped
    · exact hstopped
    · exact rampStop_slows ruckig _ feedback _ _ index
    · simp_all

end RobotDriver.Swerve.MotionCore

end
