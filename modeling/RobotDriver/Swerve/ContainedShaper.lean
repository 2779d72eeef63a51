import RobotDriver.Swerve.HoldLatch

/-!
# The smoothed command stays within its limits

From rest a trajectory generator does not take an axis beyond the largest velocity it was asked for
there. The shaper starts at rest, so the rate it commands keeps to the angular limit of the core.
-/

noncomputable section

open scoped Classical

namespace RobotDriver.Swerve

section Generator

variable {G : Type*} (ruckig : Ruckig G)

/-- What is reached from rest with target velocities up to the bound on the axis. -/
inductive Ruckig.Reached (maxAcceleration maxJerk : ℝ) (axis : Fin 3) (bound : ℝ) :
    G → TrajectoryState → Prop
  | initial : Reached maxAcceleration maxJerk axis bound ruckig.initial {}
  | reset (generator : G) : Reached maxAcceleration maxJerk axis bound (ruckig.reset generator) {}
  | update {generator next : G} {current state : TrajectoryState} {deltaTime : ℝ}
      {targetVelocity : Fin 3 → ℝ}
      (reached : Reached maxAcceleration maxJerk axis bound generator current)
      (positive : 0 < deltaTime) (target : |targetVelocity axis| ≤ bound)
      (updated : ruckig.update generator
        ⟨deltaTime, current, targetVelocity, maxAcceleration, maxJerk⟩ = (next, some state)) :
      Reached maxAcceleration maxJerk axis bound next state

/-- An axis is not taken beyond its targets. -/
def Ruckig.Contained : Prop :=
  ∀ (maxAcceleration maxJerk : ℝ) (axis : Fin 3) (bound : ℝ) (generator : G)
    (state : TrajectoryState), 0 ≤ bound →
    ruckig.Reached maxAcceleration maxJerk axis bound generator state → |state.velocity axis| ≤ bound

end Generator

namespace BodyVelocityShaper

variable {G : Type*} (ruckig : Ruckig G) (limits : BodyShaperLimits) (maxRate : ℝ)
  {shaper : BodyVelocityShaper G}

/-- The state of a shaper in use was reached with rates up to the limit. -/
def Contained (shaper : BodyVelocityShaper G) : Prop :=
  shaper.valid = true → limits.enabled = true →
    ruckig.Reached (limits.acceleration.getD 0 / √3) (limits.jerk.getD 0 / √3) 2
      (maxRate * limits.rotationRadius) shaper.generator shaper.current

theorem contained_reset (shaper : BodyVelocityShaper G) :
    Contained ruckig limits maxRate (shaper.reset ruckig) :=
  fun _ _ => .reset shaper.generator

variable {ruckig limits maxRate}

theorem Contained.step (h : Contained ruckig limits maxRate shaper) (hruckig : ruckig.Contained)
    (hradius : 0 < limits.rotationRadius) {target : ChassisSpeeds}
    (htarget : |target.omega| ≤ maxRate) (dt : ℝ) :
    Contained ruckig limits maxRate (shaper.step ruckig limits target dt).1 ∧
      |(shaper.step ruckig limits target dt).2.omega| ≤ maxRate := by
  have hrate : 0 ≤ maxRate := (abs_nonneg _).trans htarget
  have hrest : |(0 : ℝ)| ≤ maxRate := by rwa [abs_zero]
  unfold BodyVelocityShaper.step
  by_cases hdt : dt ≤ 0
  · rw [if_pos hdt]
    exact ⟨nofun, hrest⟩
  rw [if_neg hdt]
  by_cases hvalid : (!shaper.valid) = true
  · rw [if_pos hvalid]
    exact ⟨h, hrest⟩
  rw [if_neg hvalid]
  by_cases henabled : (!limits.enabled) = true
  · rw [if_pos henabled]
    refine ⟨fun _ hon => ?_, htarget⟩
    rw [hon] at henabled
    cases henabled
  rw [if_neg henabled]
  rw [Bool.not_eq_true', Bool.not_eq_false] at hvalid henabled
  split
  · exact ⟨nofun, hrest⟩
  · rename_i generator next hupdate
    have hbound : |targetVelocity limits target 2| ≤ maxRate * limits.rotationRadius := by
      change |target.omega * limits.rotationRadius| ≤ _
      rw [abs_mul, abs_of_pos hradius]
      exact mul_le_mul_of_nonneg_right htarget hradius.le
    have hreached := Ruckig.Reached.update (h hvalid henabled) (not_le.1 hdt) hbound hupdate
    refine ⟨fun _ _ => hreached, ?_⟩
    have hvelocity := hruckig _ _ _ _ _ _ (mul_nonneg hrate hradius.le) hreached
    change |next.velocity 2 / limits.rotationRadius| ≤ maxRate
    rw [abs_div, abs_of_pos hradius, div_le_iff₀ hradius]
    exact hvelocity

end BodyVelocityShaper

namespace MotionCore

variable {G : Type*} (ruckig : Ruckig G) {core : MotionCore G}
  (feedback : Module → MotionFeedback)

def Contained (core : MotionCore G) : Prop :=
  core.bodyShaper.Contained ruckig core.bodyLimits core.motion.maxAngularSpeed

theorem rotationRadius_pos (core : MotionCore G) : 0 < core.rotationRadius := by
  unfold rotationRadius
  dsimp only
  split_ifs with hpos
  · exact hpos
  · exact one_pos

theorem abs_limitSpeeds_omega (core : MotionCore G) (command : ChassisSpeeds) :
    |(core.limitSpeeds command).omega| ≤ core.motion.maxAngularSpeed := by
  have hpos := core.motion.maxAngularSpeed_pos
  exact abs_le.2 (clampTo_mem (by linarith))

variable {ruckig}

theorem contained_stop (core : MotionCore G) (status : ControlStatus) :
    (core.stop ruckig feedback status).Contained ruckig :=
  BodyVelocityShaper.contained_reset ruckig _ _ _

theorem contained_restBody (core : MotionCore G) : (core.restBody ruckig).Contained ruckig :=
  BodyVelocityShaper.contained_reset ruckig _ _ _

theorem Contained.rampStop (h : core.Contained ruckig) (status : ControlStatus) (dt : Option ℝ) :
    (core.rampStop ruckig feedback status dt).1.Contained ruckig := by
  unfold MotionCore.rampStop
  split
  · exact contained_stop feedback core status
  · split
    · exact h
    · dsimp only
      split_ifs
      · exact h
      · exact contained_stop feedback _ _

theorem Contained.settle (h : core.Contained ruckig) (targets : AlignmentResult)
    (waiting : Bool) : (core.settle ruckig targets waiting).Contained ruckig := by
  unfold MotionCore.settle
  split_ifs
  · exact BodyVelocityShaper.contained_reset ruckig _ _ _
  · exact h

theorem Contained.follow (h : core.Contained ruckig) (targets : AlignmentResult)
    (holding : Module → Bool) (waiting : Bool) (period : ℝ) :
    (core.follow ruckig targets holding waiting period).Contained ruckig := by
  have hcommitted : (core.commit targets holding (core.followedSpeed targets waiting period)
      .running).Contained ruckig := h
  exact hcommitted.settle targets waiting

theorem Contained.steerTo (h : core.Contained ruckig) (desired : Module → SwerveModuleState)
    (holding : Module → Bool) (waiting : Bool) (period : ℝ) :
    (core.steerTo ruckig feedback desired holding waiting period).1.Contained ruckig := by
  unfold MotionCore.steerTo
  split_ifs
  · exact contained_stop feedback _ _
  · split
    · exact h
    · rename_i setpoints targets hgenerate
      dsimp only
      split_ifs
      · have hset : ({ core with setpoints := setpoints } : MotionCore G).Contained ruckig := h
        exact hset.follow targets holding waiting period
      · exact contained_stop feedback _ _

theorem Contained.track (h : core.Contained ruckig) (shaped : ChassisSpeeds)
    (waiting zeroRequest : Bool) (period : ℝ) :
    (core.track ruckig feedback shaped waiting zeroRequest period).1.Contained ruckig := by
  unfold MotionCore.track
  dsimp only
  split_ifs
  · exact (contained_restBody _).rampStop feedback _ _
  · exact h.rampStop feedback _ _
  · exact h.steerTo feedback _ _ _ _

theorem Contained.shapeBody (h : core.Contained ruckig) (hruckig : ruckig.Contained)
    {command : ChassisSpeeds} (hcommand : |command.omega| ≤ core.motion.maxAngularSpeed)
    (waiting : Bool) (period : ℝ) :
    (core.shapeBody ruckig feedback command waiting period).1.Contained ruckig core.bodyLimits
        core.motion.maxAngularSpeed ∧
      |(core.shapeBody ruckig feedback command waiting period).2.omega| ≤
        core.motion.maxAngularSpeed := by
  have hrequested : |(if core.smoothing && core.zeroRequest feedback command then
      ({} : ChassisSpeeds) else command).omega| ≤ core.motion.maxAngularSpeed := by
    split_ifs
    · rw [abs_zero]
      exact core.motion.maxAngularSpeed_pos.le
    · exact hcommand
  unfold MotionCore.shapeBody
  dsimp only
  generalize (if core.smoothing && core.zeroRequest feedback command then ({} : ChassisSpeeds)
    else command) = requested at hrequested ⊢
  split_ifs
  · exact ⟨h, hrequested⟩
  · exact BodyVelocityShaper.Contained.step h hruckig core.rotationRadius_pos hrequested period

theorem Contained.obey (h : core.Contained ruckig) (hruckig : ruckig.Contained)
    (command : ChassisSpeeds) (period : ℝ) :
    (core.obey ruckig feedback command period).1.Contained ruckig := by
  have hshaped := h.shapeBody feedback hruckig (core.abs_limitSpeeds_omega command)
    (core.smoothing && core.bodyAlignmentWaiting) period
  unfold MotionCore.obey
  dsimp only
  split_ifs
  · exact h.rampStop feedback _ _
  · exact contained_stop feedback _ _
  · have hbody : ({ core with bodyShaper := _ } : MotionCore G).Contained ruckig := hshaped.1
    exact hbody.track feedback _ _ _ _

theorem Contained.updateObserved (h : core.Contained ruckig) (hruckig : ruckig.Contained)
    (command : CommandSpeeds) (commandFresh : Bool) (dt : Option ℝ) :
    (core.updateObserved ruckig feedback command commandFresh dt).1.Contained ruckig := by
  have hmonitored : (core.monitored feedback dt).Contained ruckig := h
  unfold MotionCore.updateObserved
  dsimp only
  split_ifs
  · exact contained_stop feedback _ _
  · exact contained_stop feedback _ _
  · exact contained_stop feedback _ _
  · exact (contained_restBody _).rampStop feedback _ _
  · split
    · exact hmonitored.obey feedback hruckig _ _
    · exact contained_stop feedback _ _

theorem Contained.observed (h : core.Contained ruckig) (imu : Option YawSample) :
    (core.observed feedback imu).Contained ruckig := by
  have hconfig := (core.prepared_observed feedback imu).config
  have hlimits : (core.observed feedback imu).bodyLimits = core.bodyLimits := by
    rw [bodyLimits, bodyLimits, rotationRadius, rotationRadius, hconfig]
    rfl
  rw [Contained, hlimits]
  exact h

end MotionCore

end RobotDriver.Swerve

end
