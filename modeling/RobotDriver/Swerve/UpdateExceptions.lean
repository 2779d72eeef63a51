import RobotDriver.Swerve.FaultLatch
import RobotDriver.Swerve.MeasuredMotion
import RobotDriver.Swerve.SlipRejection
import RobotDriver.Swerve.ThrowingCore

/-!
# Updates throw nothing

What is valid is finite, what is held is a target, and the rate that is commanded turns by less than
half a turn in a tick. The checks of an update all pass then, and it does what the core over the
real numbers does.
-/

noncomputable section

open scoped Classical

namespace RobotDriver.Swerve

open LabelledRun (Along)

namespace Throwing

section Observation

variable {core : ControlCore} {feedback : Module → ModuleFeedback} {index : Module}

theorem finite_of_ready (feedback : Module → ModuleFeedback)
    (h : core.moduleReady (feedback index) index = true) :
    (feedback index).steeringPosition.isSome = true ∧
      (feedback index).wheelPosition.isSome = true ∧
      (feedback index).wheelVelocity.isSome = true := by
  simp only [ControlCore.moduleReady, ControlCore.measurementValid, Bool.and_eq_true] at h
  exact ⟨h.1.1.1.1.2, h.1.1.1.2, h.1.1.2⟩

theorem getD_map_mul (value : Option ℝ) (factor : ℝ) :
    (value.map (· * factor)).getD 0 = value.getD 0 * factor := by
  cases value
  · exact (zero_mul factor).symm
  · rfl

variable (core feedback)

theorem positions_ok : positions core feedback = .ok (position core feedback) := by
  rw [positions, checkEach_of]
  · rfl
  intro index hangle
  unfold ControlCore.angleValid at hangle
  rcases hsteering : (feedback index).steeringPosition with - | angle
  · rw [hsteering] at hangle
    cases hangle
  · rw [hsteering] at hangle
    exact ⟨rfl, (of_decide_eq_true hangle).1⟩

theorem position_valid (index : Module) :
    (position core feedback index).valid = (core.positions feedback index).valid := by
  unfold position ControlCore.positions
  dsimp only
  rcases hready : core.moduleReady (feedback index) index with - | -
  · rfl
  · rw [Option.isSome_map, (finite_of_ready feedback hready).2.1, Bool.and_true]

theorem position_value (index : Module) :
    (position core feedback index).value = core.positions feedback index := by
  have hvalid := position_valid core feedback index
  unfold RawPosition.value
  rw [hvalid]
  unfold position ControlCore.positions
  dsimp only
  rw [getD_map_mul]
  split_ifs <;> rfl

theorem position_finite (index : Module) (h : (position core feedback index).valid = true) :
    (position core feedback index).Finite := by
  simp only [position, Bool.and_eq_true] at h
  refine ⟨h.2, ?_⟩
  unfold position
  dsimp only
  rw [if_pos h.1.1.2]
  rfl

theorem measurement_valid (index : Module) :
    (measurement core feedback (position core feedback) index).valid =
      (core.measured feedback index).valid := by
  unfold measurement ControlCore.measured
  dsimp only
  rw [position_valid]
  rcases hvalid : (core.positions feedback index).valid with - | -
  · rfl
  · simp only [ControlCore.positions, Bool.and_eq_true] at hvalid
    rw [Option.isSome_map, (finite_of_ready feedback hvalid.1.1).2.2, Bool.and_true]

theorem measurement_value (index : Module) :
    (measurement core feedback (position core feedback) index).value =
      core.measured feedback index := by
  have hvalid := measurement_valid core feedback index
  have hangle : (position core feedback index).angle.getD 0 =
      (core.positions feedback index).angle :=
    congrArg SwerveModulePosition.angle (position_value core feedback index)
  unfold RawMeasurement.value
  rw [hvalid]
  unfold measurement ControlCore.measured
  dsimp only
  rw [getD_map_mul, hangle]

theorem measurement_finite (index : Module)
    (h : (measurement core feedback (position core feedback) index).valid = true) :
    (measurement core feedback (position core feedback) index).Finite := by
  simp only [measurement, Bool.and_eq_true] at h
  exact ⟨h.2, (position_finite core feedback index h.1).2⟩

theorem checkSlip_ok :
    checkSlip core feedback (position core feedback) = .ok (core.checkSlip feedback) := by
  have hfit := chassisSpeedsWithSlipRejection_of_finite core.config.locations
    core.config.slipResidualThreshold_pos (measurement_finite core feedback)
  have hmeasured : (fun index => (measurement core feedback (position core feedback) index).value) =
      core.measured feedback := funext (measurement_value core feedback)
  rw [hmeasured] at hfit
  unfold checkSlip ControlCore.checkSlip
  dsimp only
  rw [hfit, ok_bind]
  simp only [measurement_valid]
  rfl

theorem valid_of_slipping (h : (core.checkSlip feedback).slippingModules index = true) :
    (core.positions feedback index).valid = true := by
  unfold ControlCore.checkSlip at h
  dsimp only at h
  split at h
  · rename_i fit hfit
    exact ((partition_of_fit hfit index).1).2 (.inr h)
  · split_ifs at h
    exact h

theorem rejectSlip_value (index : Module) :
    (rejectSlip (core.checkSlip feedback) (position core feedback) index).value =
      core.odometryPositions feedback index := by
  have hvalue := position_value core feedback index
  unfold rejectSlip ControlCore.odometryPositions
  split_ifs
  · rw [← hvalue]
    rfl
  · exact hvalue

theorem rejectSlip_finite (index : Module)
    (h : (rejectSlip (core.checkSlip feedback) (position core feedback) index).valid = true ∨
      (rejectSlip (core.checkSlip feedback) (position core feedback) index).rejectedAsSlip = true) :
    (rejectSlip (core.checkSlip feedback) (position core feedback) index).Finite := by
  unfold rejectSlip at *
  by_cases hslips : (core.checkSlip feedback).slippingModules index = true
  · rw [if_pos hslips]
    refine position_finite core feedback index ?_
    rw [position_valid]
    exact valid_of_slipping core feedback hslips
  · rw [if_neg hslips] at h ⊢
    rcases h with hvalid | hrejected
    · exact position_finite core feedback index hvalid
    · cases hrejected

theorem sample_of_fresh {imu : Option YawSample} {yaw rate : ℝ}
    (h : freshImu imu = some (yaw, rate)) :
    imu.bind (·.yaw) = some yaw ∧ imu.bind (·.rate) = some rate := by
  rcases imu with - | ⟨- | yaw, - | rate⟩ <;> cases h
  exact ⟨rfl, rfl⟩

theorem observedYaw_eq (imu : Option YawSample) :
    observedYaw core imu (core.wheelDelta feedback) = some (core.observedYaw feedback imu) := by
  unfold observedYaw ControlCore.observedYaw
  rcases hfresh : freshImu imu with - | ⟨yaw, rate⟩
  · rfl
  · dsimp only
    rw [if_pos (Option.isSome_some), (sample_of_fresh hfresh).1]
    split_ifs <;> rfl

theorem measuredTwist_eq (imu : Option YawSample) (slip : SlipCheck) :
    measuredTwist imu slip = ((freshImu imu).elim slip.measuredTwist fun (_, rate) =>
      { slip.measuredTwist with omega := rate }).raw := by
  unfold measuredTwist
  rcases hfresh : freshImu imu with - | ⟨yaw, rate⟩
  · rfl
  · rw [if_pos (Option.isSome_some), (sample_of_fresh hfresh).2]
    rfl

end Observation

section Generating

variable {G : Type} (ruckig : Ruckig G) {core : MotionCore G} (feedback : Module → MotionFeedback)

/-- Four targets to hold. -/
def Targeted (core : MotionCore G) : Prop :=
  ∀ index, (core.lastSteeringTargets index).isSome = true

theorem heldState_raw (htargets : Targeted core) :
    heldState core = fun index => (core.heldState index).raw := by
  funext index
  obtain ⟨target, htarget⟩ := Option.isSome_iff_exists.1 (htargets index)
  unfold heldState MotionCore.heldState
  rw [htarget]
  rfl

theorem held_raw (htargets : Targeted core) (states : Module → SwerveModuleState)
    (holding : Module → Bool) :
    held core states holding = fun index => (core.held states holding index).raw := by
  funext index
  unfold held MotionCore.held
  rw [heldState_raw htargets]
  split_ifs <;> rfl

theorem rampDeadband_nonneg (core : MotionCore G) (waiting : Bool) :
    0 ≤ core.rampDeadband waiting := by
  unfold MotionCore.rampDeadband
  split_ifs
  · positivity
  · exact core.motion.velocityDeadband_pos.le

theorem shapeBody_eq (command : ChassisSpeeds) (waiting : Bool) (period : ℝ) :
    shapeBody ruckig core command (core.zeroRequest feedback command) waiting period =
      core.shapeBody ruckig feedback command waiting period := rfl

theorem abs_turn_lt {omega period : ℝ} (homega : |omega| ≤ core.motion.maxAngularSpeed)
    (hpos : 0 < period) (hle : period ≤ core.motion.maxUpdatePeriod) :
    |omega * period| < Real.pi := by
  rw [abs_mul, abs_of_pos hpos]
  exact (mul_le_mul homega hle hpos.le core.motion.maxAngularSpeed_pos.le).trans_lt
    core.motion.halfTurn_lt

section Ready

variable (hready : core.feedbackReady feedback = true)

include hready

theorem steering_of_ready (index : Module) :
    (feedback index).steeringPosition = some (MotionCore.angles feedback index) ∧
      steeringMeasurementWithinTolerance (MotionCore.angles feedback index)
        (core.limits index) := by
  have hmodule : core.moduleReady (feedback index).toModuleFeedback index = true :=
    of_decide_eq_true hready index
  obtain ⟨angle, hangle⟩ := Option.isSome_iff_exists.1
    (finite_of_ready (MotionCore.observedFeedback feedback) hmodule).1
  rw [ControlCore.moduleReady, Bool.and_eq_true, decide_eq_true_eq] at hmodule
  refine ⟨?_, tolerance_of_within hmodule.2⟩
  change (feedback index).steeringPosition = some angle at hangle
  rw [MotionCore.angles, hangle]
  rfl

theorem generateTargets_ok (desired : Module → SwerveModuleState) {period : ℝ}
    (hperiod : 0 < period) (holding : Module → Bool) :
    ∃ next, generateTargets core feedback (fun index => (desired index).raw) period holding =
        .ok next ∧
      core.generate feedback desired period holding = (next.1, some next.2) := by
  have hmeasured : (fun index => (feedback index).steeringPosition) =
      fun index => some (MotionCore.angles feedback index) :=
    funext fun index => (steering_of_ready feedback hready index).1
  unfold generateTargets MotionCore.generate
  rw [hmeasured]
  exact generate_of_within (fun index => (steering_of_ready feedback hready index).2)
    core.motion.setpoint_valid hperiod core.setpoints desired holding

theorem rampStop_ok (htargets : Targeted core) (status : ControlStatus) (dt : Option ℝ) :
    rampStop ruckig core feedback status dt =
      .ok (core.rampStop ruckig feedback status dt).1 := by
  unfold rampStop MotionCore.rampStop
  rcases hperiod : core.usablePeriod dt with - | period
  · rfl
  dsimp only
  obtain ⟨⟨setpoints, targets⟩, hok, hgenerate⟩ := generateTargets_ok feedback hready
    core.heldState (MotionCore.usablePeriod_pos hperiod) fun _ => true
  rw [heldState_raw htargets, hok, ok_bind, hgenerate]
  dsimp only
  split_ifs <;> rfl

theorem steerTo_ok (desired : Module → RawModuleState)
    (hdesired : ∀ index, (desired index).Finite) (holding : Module → Bool) (waiting : Bool)
    {period : ℝ} (hperiod : 0 < period) :
    steerTo ruckig core feedback desired holding waiting period =
      .ok (core.steerTo ruckig feedback (fun index => (desired index).value) holding waiting
        period).1 := by
  unfold steerTo MotionCore.steerTo
  split_ifs with hdeviates
  · rfl
  obtain ⟨⟨setpoints, targets⟩, hok, hgenerate⟩ := generateTargets_ok feedback hready
    (Swerve.desaturateWheelSpeeds (fun index => (desired index).value) core.motion.maxWheelSpeed)
    hperiod holding
  rw [desaturateWheelSpeeds_of_finite core.motion.maxWheelSpeed_pos hdesired, ok_bind, hok, ok_bind,
    hgenerate]
  dsimp only
  split_ifs <;> rfl

theorem moduleStates_ok (speeds : ChassisSpeeds) {deadband : ℝ} (hdeadband : 0 ≤ deadband) :
    moduleStates core feedback speeds.raw deadband =
      .ok (Swerve.inverseKinematics speeds core.config.locations (MotionCore.angles feedback)
        deadband) :=
  inverseKinematics_of_finite (fun index => by
    rw [(steering_of_ready feedback hready index).1]
    rfl) hdeadband speeds core.config.locations

theorem track_ok (htargets : Targeted core) {shaped : ChassisSpeeds} {period : ℝ}
    (hpos : 0 < period) (hturn : |shaped.omega * period| < Real.pi)
    (waiting zeroRequest : Bool) :
    track ruckig core feedback shaped waiting zeroRequest period =
      .ok (core.track ruckig feedback shaped waiting zeroRequest period).1 := by
  unfold track MotionCore.track
  dsimp only
  rw [discretize_of_lt hpos hturn, ok_bind,
    moduleStates_ok feedback hready _ (rampDeadband_nonneg core waiting), ok_bind]
  by_cases hbelow : MotionCore.allBelow (Swerve.inverseKinematics
      (Swerve.discretize shaped period) core.config.locations (MotionCore.angles feedback)
      (core.rampDeadband waiting)) (core.rampDeadband waiting) = true
  · rw [if_pos hbelow, if_pos hbelow]
    refine rampStop_ok ruckig feedback ?_ ?_ _ _ <;> split_ifs <;> assumption
  · rw [if_neg hbelow, if_neg hbelow, held_raw htargets]
    exact steerTo_ok ruckig feedback hready _ (fun index => SwerveModuleState.finite_raw _) _
      waiting hpos

theorem obey_ok (hruckig : ruckig.Contained) (hcontained : core.Contained ruckig)
    (htargets : Targeted core) (command : ChassisSpeeds) {period : ℝ}
    (hpos : 0 < period) (hle : period ≤ core.motion.maxUpdatePeriod) :
    obey ruckig core feedback command period =
      .ok (core.obey ruckig feedback command period).1 := by
  have homega := (hcontained.shapeBody feedback hruckig (core.abs_limitSpeeds_omega command)
    (core.smoothing && core.bodyAlignmentWaiting) period).2
  have hzero : MotionCore.allBelow (Swerve.inverseKinematics (core.limitSpeeds command)
      core.config.locations (MotionCore.angles feedback) core.motion.velocityDeadband)
        core.motion.velocityDeadband = core.zeroRequest feedback (core.limitSpeeds command) := rfl
  unfold obey MotionCore.obey
  dsimp only
  rw [moduleStates_ok feedback hready _ core.motion.velocityDeadband_pos.le, ok_bind, hzero,
    shapeBody_eq]
  by_cases hwaits : (core.smoothing && core.bodyAlignmentWaiting &&
      core.zeroRequest feedback (core.limitSpeeds command)) = true
  · rw [if_pos hwaits, if_pos hwaits]
    exact rampStop_ok ruckig feedback hready htargets _ _
  · rw [if_neg hwaits, if_neg hwaits]
    generalize core.shapeBody ruckig feedback (core.limitSpeeds command)
      (core.smoothing && core.bodyAlignmentWaiting) period = body at homega ⊢
    obtain ⟨shaper, shaped⟩ := body
    dsimp only
    split_ifs
    · rfl
    · have hshaped : ({ core with bodyShaper := shaper } : MotionCore G).feedbackReady feedback =
        true := hready
      exact track_ok ruckig feedback hshaped htargets hpos (abs_turn_lt homega hpos hle) _ _

end Ready

theorem updateObserved_ok (hruckig : ruckig.Contained) (hcontained : core.Contained ruckig)
    (htargets : Targeted core) (command : CommandSpeeds) (commandFresh : Bool) (dt : Option ℝ) :
    updateObserved ruckig core feedback command commandFresh dt =
      .ok (core.updateObserved ruckig feedback command commandFresh dt).1 := by
  unfold updateObserved MotionCore.updateObserved
  dsimp only
  by_cases hready : (!core.feedbackReady feedback) = true
  · rw [if_pos hready, if_pos hready]
  rw [if_neg hready, if_neg hready]
  rw [Bool.not_eq_true', Bool.not_eq_false] at hready
  split_ifs
  · rfl
  · rfl
  · have hrest : ((core.monitored feedback dt).restBody ruckig).feedbackReady feedback = true :=
      hready
    exact rampStop_ok ruckig feedback hrest htargets _ _
  · rcases hperiod : (core.monitored feedback dt).usablePeriod dt with - | period
    · rfl
    rcases command.toFinite with - | speeds
    · rfl
    have hle : period ≤ core.motion.maxUpdatePeriod := by
      rw [MotionCore.usablePeriod, Option.filter_eq_some_iff, decide_eq_true_eq] at hperiod
      exact hperiod.2.2
    have hmonitored : (core.monitored feedback dt).feedbackReady feedback = true := hready
    exact obey_ok ruckig feedback hmonitored hruckig hcontained htargets speeds
      (MotionCore.usablePeriod_pos hperiod) hle

end Generating

end Throwing

namespace ThrowingCore

variable {G : Type} (ruckig : Ruckig G) {t : ThrowingCore G}

/-- What is valid is finite, and the core over the real numbers runs beside. -/
structure Sound (t : ThrowingCore G) : Prop where
  core : t.core.Sound
  contained : t.core.Contained ruckig
  odometry : t.core.odometry = t.odometry.map RawOdometry.value
  baselines : ∀ odometry ∈ t.odometry, odometry.Sound
  previous : t.core.previousPositions = fun index => (t.previousPositions index).value
  finite : ∀ index, (t.previousPositions index).valid = true →
    (t.previousPositions index).Finite

variable {ruckig}

theorem Sound.targeted (h : t.Sound ruckig) (hactive : t.core.active = true) :
    Throwing.Targeted t.core := by
  intro index
  obtain ⟨target, htarget, -⟩ := h.core.safe hactive index
  rw [htarget]
  rfl

theorem Sound.withCore (h : t.Sound ruckig) {core : MotionCore G} (hcore : core.Sound)
    (hcontained : core.Contained ruckig) (hkept : core.observation = t.core.observation) :
    ({ t with core := core } : ThrowingCore G).Sound ruckig := by
  simp only [MotionCore.observation, Prod.mk.injEq] at hkept
  obtain ⟨-, -, hodometry, -, -, hprevious⟩ := hkept
  exact ⟨hcore, hcontained, hodometry.trans h.odometry, h.baselines, hprevious.trans h.previous,
    h.finite⟩

theorem Sound.stop (h : t.Sound ruckig) (feedback : Module → MotionFeedback)
    (status : ControlStatus) (hstatus : t.core.active = true ∨ status = .inactive) :
    ({ t with core := t.core.stop ruckig feedback status } : ThrowingCore G).Sound ruckig :=
  h.withCore (h.core.stopped (t.core.stopped_stop ruckig feedback status hstatus))
    (MotionCore.contained_stop feedback t.core status) rfl

@[simp] theorem finiteOdometry_raw (pose : Pose2d) (twist : ChassisSpeeds) :
    Throwing.finiteOdometry pose twist.raw = .ok (pose, twist) := rfl

theorem Sound.wheelDelta_ok (h : t.Sound ruckig) (feedback : Module → ModuleFeedback) :
    Throwing.wheelChassisDeltaFromPositionDeltas t.core.config.locations t.previousPositions
        (Throwing.rejectSlip (t.core.checkSlip feedback)
          (Throwing.position t.core.toControlCore feedback)) =
      .ok (t.core.wheelDelta feedback) := by
  rw [Throwing.wheelChassisDelta_of_finite t.core.config.locations h.finite fun index hvalid =>
    Throwing.rejectSlip_finite t.core.toControlCore feedback index (.inl hvalid)]
  simp only [Throwing.rejectSlip_value, ControlCore.wheelDelta, h.previous]

theorem Sound.baseline_value (h : t.Sound ruckig) (feedback : Module → ModuleFeedback)
    (index : Module) :
    (if (Throwing.position t.core.toControlCore feedback index).valid then
      Throwing.position t.core.toControlCore feedback index
    else t.previousPositions index).value =
      if (t.core.positions feedback index).valid then t.core.positions feedback index
      else t.core.previousPositions index := by
  rw [Throwing.position_valid, h.previous]
  split_ifs
  · exact Throwing.position_value t.core.toControlCore feedback index
  · rfl

theorem Sound.observe_ok (h : t.Sound ruckig) (feedback : Module → MotionFeedback)
    (imu : Option YawSample) :
    ∃ next, t.observe feedback imu = .ok next ∧ next.core = t.core.observed feedback imu ∧
      next.Sound ruckig := by
  have hdecides : t.core.Decides feedback none (t.core.observed feedback imu, false) :=
    .throws (t.core.prepared_observed feedback imu).toKept
  have hcontained := h.contained.observed feedback imu
  unfold observe
  rcases hodometry : t.odometry with - | odometry
  · refine ⟨t, rfl, ?_, h⟩
    have hnone : t.core.odometry = none := by
      rw [h.odometry, hodometry]
      rfl
    unfold MotionCore.observed ControlCore.observe
    rw [hnone]
  · have hbaselines := h.baselines odometry hodometry
    have hsome : t.core.odometry = some odometry.value := by
      rw [h.odometry, hodometry]
      rfl
    obtain ⟨updated, hok, hvalue, hupdated⟩ := RawOdometry.update_of_sound hbaselines
      (Throwing.rejectSlip_finite t.core.toControlCore (MotionCore.observedFeedback feedback))
      (t.core.observedYaw (MotionCore.observedFeedback feedback) imu)
    simp only [Throwing.rejectSlip_value] at hvalue
    dsimp only
    rw [Throwing.positions_ok, ok_bind, Throwing.checkSlip_ok, ok_bind, h.wheelDelta_ok, ok_bind,
      Throwing.observedYaw_eq, hok, ok_bind, Throwing.measuredTwist_eq, finiteOdometry_raw, ok_bind]
    refine ⟨_, rfl, (and_iff_left_of_imp fun hcore => ?_).2 ?_⟩
    · refine ⟨?_, ?_, rfl, fun _ hmem => ?_, rfl, fun index hvalid => ?_⟩
      · rw [hcore]
        exact h.core.decided hdecides
      · rw [hcore]
        exact hcontained
      · cases hmem
        exact hupdated
      · dsimp only at hvalid ⊢
        split_ifs at hvalid ⊢ with htaken
        · exact Throwing.position_finite _ _ index htaken
        · exact h.finite index hvalid
    · have hpose : updated.pose = _ := congrArg SwerveOdometry.pose hvalue
      have hyaw : updated.previousYaw = _ := congrArg SwerveOdometry.previousYaw hvalue
      unfold MotionCore.observed ControlCore.observe
      simp only [hsome, h.baseline_value, hvalue, hpose, hyaw]
      rfl

/-- An update throws nothing, and does what the core over the real numbers does. -/
theorem Sound.update_ok (h : t.Sound ruckig) (hruckig : ruckig.Contained)
    (feedback : Module → MotionFeedback) (command : CommandSpeeds) (commandFresh : Bool)
    (dt : Option ℝ) (imu : Option YawSample) :
    ∃ next, t.update ruckig feedback command commandFresh dt imu = .ok next ∧
      next.core = (t.core.update ruckig feedback command commandFresh dt imu).1 ∧
      next.Sound ruckig := by
  unfold update MotionCore.update
  by_cases hinactive : (!t.core.active) = true
  · rw [if_pos hinactive, if_pos hinactive]
    exact ⟨_, rfl, rfl, h.stop feedback .inactive (.inr rfl)⟩
  rw [if_neg hinactive, if_neg hinactive]
  rw [Bool.not_eq_true', Bool.not_eq_false] at hinactive
  by_cases hlatched : t.core.holdFaultLatched = true
  · rw [if_pos hlatched, if_pos hlatched]
    exact ⟨_, rfl, rfl, h.stop feedback .steeringHoldFault (.inl hinactive)⟩
  rw [if_neg hlatched, if_neg hlatched]
  rw [Bool.not_eq_true] at hlatched
  obtain ⟨seen, hobserve, hcore, hseen⟩ := h.observe_ok feedback imu
  have hkept := t.core.prepared_observed feedback imu
  rw [← hcore] at hkept ⊢
  have hactive : seen.core.active = true := hkept.active.trans hinactive
  have hdecides := seen.core.decides_updateObserved ruckig feedback command commandFresh dt
    ⟨hactive, hkept.latched.trans hlatched⟩
  rw [hobserve, ok_bind, Throwing.updateObserved_ok ruckig feedback hruckig hseen.contained
    (hseen.targeted hactive)]
  exact ⟨_, rfl, rfl, hseen.withCore (hseen.core.decided hdecides)
    (hseen.contained.updateObserved feedback hruckig command commandFresh dt)
    (seen.core.observation_updateObserved ruckig feedback command commandFresh dt)⟩

theorem Sound.activate (h : t.Sound ruckig) (feedback : Module → MotionFeedback) :
    (t.activate ruckig feedback).Sound ruckig := by
  have hcore := h.core.activate ruckig feedback
  unfold ThrowingCore.activate
  by_cases hready : t.core.feedbackReady feedback = true ∧
      ∀ index, t.core.encoderConsistent (feedback index) index = true
  · let taken := (t.core.takeUp ruckig feedback).toControlCore
    have hvalue : (fun index => (Throwing.position taken (MotionCore.observedFeedback feedback)
        index).value) = taken.positions (MotionCore.observedFeedback feedback) :=
      funext (Throwing.position_value taken _)
    have hfinite := Throwing.position_finite taken (MotionCore.observedFeedback feedback)
    unfold MotionCore.activate at hcore ⊢
    rw [if_pos hready] at hcore ⊢
    refine ⟨hcore, BodyVelocityShaper.contained_reset ruckig _ _ _, ?_, ?_, hvalue.symm, hfinite⟩
    · exact congrArg (fun positions => some (SwerveOdometry.reset t.core.config.locations
        t.core.output.pose t.core.yaw positions)) hvalue.symm
    · rintro _ ⟨⟩
      exact hfinite
  · unfold MotionCore.activate at hcore ⊢
    rw [if_neg hready] at hcore ⊢
    exact h.withCore hcore h.contained rfl

theorem Sound.deactivate (h : t.Sound ruckig) :
    ({ t with core := t.core.deactivate ruckig } : ThrowingCore G).Sound ruckig :=
  h.withCore (h.core.deactivate ruckig) (BodyVelocityShaper.contained_reset ruckig _ _ _) rfl

theorem Sound.call_ok (h : t.Sound ruckig) (hruckig : ruckig.Contained) (call : CoreCall) :
    ∃ next, t.call ruckig call = .ok next ∧ next.core = t.core.called ruckig call ∧
      next.Sound ruckig := by
  cases call with
  | activate feedback =>
    refine ⟨_, rfl, ?_, h.activate feedback⟩
    unfold ThrowingCore.activate MotionCore.called
    dsimp only
    split_ifs <;> rfl
  | deactivate => exact ⟨_, rfl, rfl, h.deactivate⟩
  | update feedback command commandFresh dt imu =>
    exact h.update_ok hruckig feedback command commandFresh dt imu

theorem Sound.step (h : t.Sound ruckig) (hruckig : ruckig.Contained) (call : CoreCall) :
    (t.step ruckig call).Sound ruckig := by
  obtain ⟨next, hok, -, hnext⟩ := h.call_ok hruckig call
  unfold ThrowingCore.step
  rw [hok]
  exact hnext

variable (ruckig) in
theorem sound_create (config : CoreConfig) (motion : MotionConfig) :
    (create ruckig config motion).Sound ruckig where
  core := MotionCore.sound_create ruckig config motion
  contained _ _ := .initial
  odometry := rfl
  baselines := nofun
  previous := rfl
  finite _ _ := ⟨rfl, rfl⟩

end ThrowingCore

/-- Over every sequence of calls none throws. -/
theorem calls_throw_nothing {G : Type} (ruckig : Ruckig G) (hruckig : ruckig.Contained)
    (config : CoreConfig) (motion : MotionConfig) (calls : List CoreCall) :
    Along (ThrowingCore.step ruckig)
      (fun t call => ∃ next, t.call ruckig call = .ok next ∧
        next.core = t.core.called ruckig call)
      (.create ruckig config motion) calls := by
  refine LabelledRun.along_of_invariant (P := ThrowingCore.Sound ruckig)
    (fun t call h => h.step hruckig call) (fun t call h => ?_)
    (ThrowingCore.sound_create ruckig config motion) calls
  obtain ⟨next, hok, hcore, -⟩ := h.call_ok hruckig call
  exact ⟨next, hok, hcore⟩

namespace Bench

/-- A generator that plans nothing but rest and what two equal phases of the largest jerk reach by
the end of the period. -/
def reaching : Ruckig Unit where
  initial := ()
  reset := id
  update generator input :=
    (generator, if input.current.acceleration = 0 ∧ ∀ axis,
        input.targetVelocity axis = input.current.velocity axis ∨
          4 * |input.targetVelocity axis - input.current.velocity axis| =
              input.maxJerk * input.deltaTime ^ 2 ∧
            2 * |input.targetVelocity axis - input.current.velocity axis| ≤
              input.maxAcceleration * input.deltaTime
      then some
        { position := input.current.position +
            (input.deltaTime / 2) • (input.current.velocity + input.targetVelocity)
          velocity := input.targetVelocity
          acceleration := 0 }
      else none)

theorem reaching_contained : reaching.Contained := by
  intro maxAcceleration maxJerk axis bound generator state hbound hreached
  have hrest : |(0 : ℝ)| ≤ bound := by rwa [abs_zero]
  cases hreached with
  | initial => exact hrest
  | reset generator => exact hrest
  | update reached positive target updated =>
    simp only [reaching, Prod.mk.injEq] at updated
    obtain ⟨-, hstate⟩ := updated
    split_ifs at hstate
    cases hstate
    exact target

def smoothed : MotionConfig :=
  { motion with
    maxBodyAcceleration := some (√3 * 100)
    maxBodyJerk := some (√3 * 10 ^ 5)
    bodyLimits_both := rfl }

/-- A tenth of a metre per second, reached within the first period. -/
def cruise : CommandSpeeds := ⟨some (1 / 10), some 0, some 0⟩

theorem smoothed_calls_throw_nothing :
    Along (ThrowingCore.step reaching)
      (fun t call => ∃ next, t.call reaching call = .ok next ∧
        next.core = t.core.called reaching call)
      (.create reaching Spin.config smoothed)
      [.activate (feedback true), .update (feedback true) cruise true (some (1 / 500)) none,
        .update (feedback true) cruise true (some (1 / 500)) none,
        .update (feedback true) { vx := none } true none (some ⟨some 1, none⟩)] :=
  calls_throw_nothing reaching reaching_contained Spin.config smoothed _

end Bench

end RobotDriver.Swerve

end
