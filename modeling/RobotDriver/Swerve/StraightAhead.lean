import RobotDriver.Swerve.SteeringSlew
import RobotDriver.Swerve.SwerveController
import RobotDriver.Swerve.YawContinuity

/-!
# A robot straight ahead

Four modules of full turning range, aligned with the body and at rest, and the tick that drives
them off.
-/

noncomputable section

open scoped Classical

namespace RobotDriver.Swerve

namespace Bench

open SwerveSetpointGenerator

def ruckig : Ruckig Unit := ⟨(), id, fun generator _ => (generator, none)⟩

def setpoint : SwerveSetpointParameters where
  alignmentThreshold := 1
  flipHysteresis := 0
  maximumSteeringSlew := 1
  translationHeadingEpsilon := 0
  steeringAngleDeadband := 0
  maximumSteeringAcceleration := none
  maximumSteeringJerk := none
  alignmentRelease := none

theorem setpoint_valid : setpoint.Valid where
  alignmentThreshold := zero_le_one
  alignmentRelease _ hrelease := nomatch hrelease
  flipHysteresis := ⟨le_rfl, Real.pi_div_two_pos⟩
  maximumSteeringSlew := one_pos
  maximumSteeringAcceleration _ hacceleration := nomatch hacceleration
  maximumSteeringJerk _ hjerk := nomatch hjerk
  translationHeadingEpsilon := ⟨le_rfl, Real.pi_div_two_pos⟩
  steeringAngleDeadband := ⟨le_rfl, Real.pi_div_two_pos⟩

def motion : MotionConfig where
  maxLinearSpeed := 1
  maxAngularSpeed := 1
  maxWheelSpeed := 1
  maxWheelAcceleration := 1
  velocityDeadband := 1 / 1000
  maxUpdatePeriod := 1 / 500
  encoderFaultWindow := 1 / 2000
  maxBodyAcceleration := none
  maxBodyJerk := none
  setpoint := setpoint
  maxLinearSpeed_pos := Real.zero_lt_one
  maxAngularSpeed_pos := Real.zero_lt_one
  maxWheelSpeed_pos := Real.zero_lt_one
  maxWheelAcceleration_pos := Real.zero_lt_one
  velocityDeadband_pos := by norm_num
  maxUpdatePeriod_pos := by norm_num
  encoderFaultWindow_pos := by norm_num
  halfTurn_lt := by linarith [Real.two_le_pi]
  bodyLimits_both := rfl
  setpoint_valid := setpoint_valid

def config : SwerveConfig := ⟨false, 1 / 100, 1, 5⟩

def parameters : SteeringParameters where
  maxSteeringSlew := .finite 1
  maxSteeringAcceleration := .posInf
  maxSteeringJerk := .posInf
  alignment := .finite 1
  alignFirstRelease := .nan
  maxSteeringSlewLimit := .finite 2
  maxSteeringAccelerationLimit := .posInf
  maxSteeringJerkLimit := .posInf

theorem parameters_unchanged : parameters.unchanged config.alignFirst motion.setpoint :=
  ⟨rfl, rfl, rfl, rfl, rfl⟩

/-- Feedback at rest, with external encoders that confirm it or not. -/
def feedback (confirmed : Bool) (_ : Module) : MotionFeedback where
  steeringPosition := some 0
  wheelPosition := some 0
  wheelVelocity := some 0
  valid := true
  enabled := true
  steeringAngle := some 0
  encoderValid := confirmed

def forward : Twist := ⟨some 1, some 0, some 0, some 0, some 0, some 0⟩

structure Straight (core : MotionCore Unit) : Prop where
  active : core.active = true
  config : core.config = Spin.config
  motion : core.motion = motion
  latched : core.holdFaultLatched = false
  targets : core.lastSteeringTargets = fun _ => some 0
  badTime : ∀ index, 0 ≤ core.encoderBadTime index

variable {core : MotionCore Unit} (confirmed : Bool)

theorem feedbackReady_of_config (h : core.config = Spin.config) :
    core.feedbackReady (feedback confirmed) = true := by
  have hlimits : ∀ index, validSteeringAngleLimits (core.config.steeringLimits index) :=
    core.config.steeringLimits_valid
  have hwithin : ∀ index, steeringAngleWithinLimits 0 (core.config.steeringLimits index) := by
    intro index
    have hpi := Real.pi_pos.le
    refine ⟨hlimits index, ?_, ?_⟩ <;> simpa [h, CoreConfig.steeringLimits, Spin.config] using hpi
  refine decide_eq_true fun index => ?_
  simp [ControlCore.moduleReady, ControlCore.measurementValid, feedback, hwithin index]

theorem encoderConsistent_of_config (h : core.config = Spin.config) (index : Module) :
    core.encoderConsistent (feedback confirmed index) index = confirmed := by
  have htolerance : steeringMeasurementWithinTolerance 0 (core.config.steeringLimits index) := by
    have hpi := Real.pi_pos.le
    refine ⟨core.config.steeringLimits_valid index, ?_, ?_⟩ <;>
      simpa [h, CoreConfig.steeringLimits, Spin.config] using hpi
  have hdifference := core.config.maxEncoderDifference_pos.le
  simp [MotionCore.encoderConsistent, MotionCore.limits, feedback, htolerance, hdifference]

theorem no_deviation (h : core.lastSteeringTargets = fun _ => some 0) (holding : Module → Bool) :
    core.holdDeviation (feedback confirmed) holding = false := by
  refine decide_eq_false ?_
  rintro ⟨index, -, -, -, hdeviates⟩
  simp only [MotionCore.deviates, h, feedback, sub_self, abs_zero] at hdeviates
  exact hdeviates.not_gt core.config.maxEncoderDifference_pos

theorem usablePeriod_overlong (h : core.motion = motion) :
    core.usablePeriod (some (4 / 1000)) = none := by
  have hlong : (1 : ℝ) / 500 < 4 / 1000 := by norm_num
  rw [MotionCore.usablePeriod, h]
  simp only [Option.filter_eq_none_iff, decide_eq_true_eq]
  rintro _ ⟨⟩ hperiod
  exact absurd hperiod.2 (not_le.2 hlong)

theorem usablePeriod_tick (h : core.motion = motion) :
    core.usablePeriod (some (1 / 1000)) = some (1 / 1000) := by
  rw [MotionCore.usablePeriod, h, Option.filter_eq_some_iff]
  refine ⟨rfl, decide_eq_true ?_⟩
  norm_num [motion]

namespace Straight

theorem observed (h : Straight core) (imu : Option YawSample) :
    Straight (core.observed (feedback confirmed) imu) := by
  have hkept := core.prepared_observed (feedback confirmed) imu
  exact ⟨hkept.active.trans h.active, hkept.config.trans h.config, hkept.motion.trans h.motion,
    hkept.latched.trans h.latched, hkept.targets.trans h.targets, h.badTime⟩

theorem monitored (h : Straight core) (dt : Option ℝ) :
    Straight (core.monitored (feedback confirmed) dt) := by
  refine ⟨h.active, h.config, h.motion, h.latched, h.targets, fun index => ?_⟩
  change 0 ≤ core.encoderBadTimes (feedback confirmed) dt index
  unfold MotionCore.encoderBadTimes
  split_ifs
  · exact le_rfl
  · refine add_nonneg (h.badTime index) ?_
    cases dt with
    | none => exact le_rfl
    | some period => exact le_max_left 0 period

theorem stop (h : Straight core) (status : ControlStatus) :
    Straight (core.stop ruckig (feedback confirmed) status) ∧
      (core.stop ruckig (feedback confirmed) status).drive.status = status := by
  have hlatched : (core.holdFaultLatched ||
      (core.active && core.holdDeviation (feedback confirmed) fun _ => true)) = false := by
    rw [h.latched, no_deviation confirmed h.targets, Bool.and_false, Bool.or_false]
  refine ⟨⟨h.active, h.config, h.motion, hlatched, h.targets, h.badTime⟩, ?_⟩
  simp only [MotionCore.stop, hlatched, Bool.and_false, Bool.false_eq_true, if_false]

theorem overlong_stops (h : Straight core) (command : CommandSpeeds) (commandFresh : Bool)
    (imu : Option YawSample) : ∃ (seen : MotionCore Unit) (status : ControlStatus),
      Straight seen ∧ (core.update ruckig (feedback true) command commandFresh (some (4 / 1000))
        imu).1 = seen.stop ruckig (feedback true) status := by
  have hobserved := h.observed true imu
  have hmonitored := hobserved.monitored true (some (4 / 1000))
  have htripped : (core.observed (feedback true) imu).encoderMonitorTripped (feedback true)
      (some (4 / 1000)) = false := by
    refine decide_eq_false ?_
    rintro ⟨index, hinconsistent, -⟩
    rw [encoderConsistent_of_config true hobserved.config] at hinconsistent
    exact Bool.false_ne_true hinconsistent.symm
  have hresting : Straight (((core.observed (feedback true) imu).monitored (feedback true)
      (some (4 / 1000))).restBody ruckig) :=
    ⟨hmonitored.active, hmonitored.config, hmonitored.motion, hmonitored.latched,
      hmonitored.targets, hmonitored.badTime⟩
  unfold MotionCore.update MotionCore.updateObserved
  simp only [h.active, h.latched, feedbackReady_of_config true hobserved.config, htripped,
    no_deviation true hmonitored.targets, Bool.not_true, Bool.false_eq_true, if_false]
  split_ifs
  · unfold MotionCore.rampStop
    rw [usablePeriod_overlong hresting.motion]
    exact ⟨_, .commandTimeout, hresting, rfl⟩
  · rw [usablePeriod_overlong hmonitored.motion]
    exact ⟨_, .invalidCommand, hmonitored, rfl⟩

theorem update_overlong (h : Straight core) (command : CommandSpeeds) (commandFresh : Bool)
    (imu : Option YawSample) :
    Straight (core.update ruckig (feedback true) command commandFresh (some (4 / 1000)) imu).1 := by
  obtain ⟨seen, status, hseen, hstops⟩ := h.overlong_stops command commandFresh imu
  rw [hstops]
  exact (hseen.stop true status).1

theorem update_unconfirmed (h : Straight core) (command : CommandSpeeds) (commandFresh : Bool) :
    Straight (core.update ruckig (feedback false) command commandFresh (some (1 / 1000)) none).1 ∧
      (core.update ruckig (feedback false) command commandFresh (some (1 / 1000))
        none).1.drive.status = .feedbackFault := by
  have hobserved := h.observed false none
  have hmonitored := hobserved.monitored false (some (1 / 1000))
  have htripped : (core.observed (feedback false) none).encoderMonitorTripped (feedback false)
      (some (1 / 1000)) = true := by
    have hinconsistent := encoderConsistent_of_config false hobserved.config
    refine decide_eq_true ⟨0, hinconsistent 0, ?_⟩
    have hbad := hobserved.badTime 0
    have hwindow : (core.observed (feedback false) none).motion.encoderFaultWindow = 1 / 2000 := by
      rw [hobserved.motion]
      rfl
    rw [MotionCore.encoderBadTimes, hinconsistent 0, hwindow]
    norm_num
    linarith
  unfold MotionCore.update MotionCore.updateObserved
  simp only [h.active, h.latched, feedbackReady_of_config false hobserved.config, htripped,
    Bool.not_true, Bool.false_eq_true, if_false, if_true]
  exact hmonitored.stop false .feedbackFault

end Straight

variable (core) in
theorem activate_of_config (h : core.config = Spin.config) :
    core.activate ruckig (feedback true) = ((core.activate ruckig (feedback true)).1, true) := by
  have hready : core.feedbackReady (feedback true) = true ∧
      ∀ index, core.encoderConsistent (feedback true index) index = true :=
    ⟨feedbackReady_of_config true h, encoderConsistent_of_config true h⟩
  rw [MotionCore.activate, if_pos hready]

variable (core) in
theorem straight_activate (hconfig : core.config = Spin.config) (hmotion : core.motion = motion) :
    Straight (core.activate ruckig (feedback true)).1 := by
  have hready : core.feedbackReady (feedback true) = true ∧
      ∀ index, core.encoderConsistent (feedback true index) index = true :=
    ⟨feedbackReady_of_config true hconfig, encoderConsistent_of_config true hconfig⟩
  rw [MotionCore.activate, if_pos hready]
  exact ⟨rfl, hconfig, hmotion, rfl, rfl, fun _ => le_rfl⟩

/-- One metre per second straight ahead, with the modules aligned. -/
def straight (_ : Module) : SwerveModuleState := ⟨1, 0⟩

def aligned : OptimizedModuleState := ⟨1, 0, 0, false⟩

structure AtRest (g : SwerveSetpointGenerator) : Prop where
  targets : g.previousTargets = fun _ => some 0
  rates : g.steeringRates = fun _ => 0

theorem translationTarget_straight (index : Module) :
    translationTarget Surge.limits straight (fun _ => 0) false index = some 0 := by
  have hfastest : (fastest straight).2 = 0 := by
    have hmodules : List.finRange moduleCount = [0, 1, 2, 3] := by decide
    rw [fastest, hmodules]
    norm_num [straight]
  have hpi := Real.pi_pos
  have hnearest : nearestEquivalentSteeringTarget (Surge.limits index) 0 0 =
      some (0 + ((0 : ℤ) : ℝ) * (2 * Real.pi)) :=
    Surge.nearest 0 (by simpa using hpi) (by simpa using hpi) index
  rw [translationTarget, hfastest, wrapPi_zero]
  simpa using hnearest

theorem translationBranch_straight {g : SwerveSetpointGenerator}
    (h : g.translationReversed = none) :
    g.translationBranch setpoint Surge.limits straight (fun _ => 0) = some false := by
  have hmodules : List.finRange moduleCount = [0, 1, 2, 3] := by decide
  have hrequested : translationRequested setpoint straight := by
    constructor
    · rw [fastest, hmodules]
      norm_num [straight]
    · rw [maximumHeadingDelta, fastest, hmodules]
      norm_num [straight, setpoint]
  have hfeasible : translationFeasible setpoint Surge.limits straight (fun _ => 0) false :=
    ⟨hrequested, fun index => by rw [translationTarget_straight]; rfl⟩
  have hcost : translationCost Surge.limits straight (fun _ => 0) false = 0 := by
    rw [translationCost, hmodules]
    simp [translationTarget_straight]
  have hother : 0 ≤ translationCost Surge.limits straight (fun _ => 0) true := by
    have hfold : ∀ (cost : Module → ℝ), (∀ index, 0 ≤ cost index) → ∀ (indices : List Module)
        (start : ℝ), 0 ≤ start → 0 ≤ indices.foldl (fun sum index => sum + cost index) start := by
      intro cost hcost indices
      induction indices with
      | nil => exact fun _ hstart => hstart
      | cons index indices ih => exact fun start hstart => ih _ (add_nonneg hstart (hcost index))
    refine hfold _ (fun index => ?_) _ 0 le_rfl
    cases translationTarget Surge.limits straight (fun _ => 0) true index with
    | none => exact le_rfl
    | some target => exact abs_nonneg _
  unfold translationBranch
  rw [if_pos hfeasible, h, hcost]
  split_ifs
  · exact congrArg some (decide_eq_false (not_lt.2 hother))
  · rfl

theorem generateModule_straight {g : SwerveSetpointGenerator} (h : AtRest g)
    (result : AlignmentResult) (dt : ℝ) (index : Module) :
    ∃ next, AtRest next ∧ next.gated = g.gated ∧
      generateModule setpoint Surge.limits straight (fun _ => 0) (some false) dt (fun _ => false)
        (g, some result) index = (next, some (result.record index aligned 0)) := by
  have hoptimized : g.optimized setpoint Surge.limits straight (fun _ => 0) (some false) index =
      some aligned := by
    simp [SwerveSetpointGenerator.optimized, translationTarget_straight, straight, aligned]
  have hstarted : ({ g with reversed := Function.update g.reversed index false } :
      SwerveSetpointGenerator).started index 0 =
        ({ g with reversed := Function.update g.reversed index false }, 0) := by
    simp [SwerveSetpointGenerator.started, h.targets]
  have hstep : ({ g with reversed := Function.update g.reversed index false } :
      SwerveSetpointGenerator).followStep setpoint index 0 dt =
        ⟨0, g.steeringAccelerations index, 0⟩ := by
    simp [followStep, trapezoidalStep, setpoint]
  refine ⟨({ g with reversed := Function.update g.reversed index false } :
    SwerveSetpointGenerator).setModule index 0 ⟨0, g.steeringAccelerations index, 0⟩,
    ⟨?_, ?_⟩, rfl, ?_⟩
  · simp [setModule, h.targets]
  · simp [setModule, h.rates]
  · have hdeadband : setpoint.steeringAngleDeadband = 0 := rfl
    simp [generateModule, hoptimized, followModule, aligned, hstarted, hstep, hdeadband]

theorem generate_straight {g : SwerveSetpointGenerator} (h : AtRest g)
    (hreversed : g.translationReversed = none) (hgated : g.gated = false) {dt : ℝ}
    (hdt : 0 < dt) : ∃ next targets,
      g.generate setpoint Surge.limits straight (fun _ => 0) dt (fun _ => false) =
        (next, some targets) ∧
      (∀ index, targets.modules index = aligned) ∧ targets.gated = false := by
  have hloop : ∀ (indices : List Module) (g : SwerveSetpointGenerator) (result : AlignmentResult),
      AtRest g → result.maximumError = 0 → ∃ next last,
        indices.foldl (generateModule setpoint Surge.limits straight (fun _ => 0) (some false) dt
          fun _ => false) (g, some result) = (next, some last) ∧
        last.maximumError = 0 ∧ next.gated = g.gated ∧
        ∀ index, index ∈ indices ∨ result.modules index = aligned →
          last.modules index = aligned := by
    intro indices
    induction indices with
    | nil =>
      intro g result _ hresult
      exact ⟨g, result, rfl, hresult, rfl, fun index hindex => hindex.resolve_left nofun⟩
    | cons first indices ih =>
      intro g result hrest hresult
      obtain ⟨next, hnext, hkept, hmodule⟩ := generateModule_straight hrest result dt first
      obtain ⟨last, final, hrun, herror, hlast, hall⟩ :=
        ih next (result.record first aligned 0) hnext (by simp [AlignmentResult.record, hresult])
      refine ⟨last, final, ?_, herror, hlast.trans hkept, fun index hindex => hall index ?_⟩
      · rw [List.foldl_cons, hmodule]
        exact hrun
      · by_cases heq : index = first
        · right
          rw [heq]
          simp [AlignmentResult.record]
        · rcases hindex with hmem | hbefore
          · exact .inl ((List.mem_cons.1 hmem).resolve_left heq)
          · right
            simpa [AlignmentResult.record, heq] using hbefore
  have hstart : ¬(dt ≤ 0 ∨ ∃ index : Module,
      ¬steeringMeasurementWithinTolerance 0 (Surge.limits index)) := by
    rw [not_or, not_exists]
    exact ⟨not_le.2 hdt, fun index => not_not.2 (Surge.within index)⟩
  obtain ⟨next, last, hrun, herror, hkept, hall⟩ := hloop (List.finRange moduleCount)
    { g with translationReversed := some false } {} ⟨h.targets, h.rates⟩ rfl
  refine ⟨(next.gate setpoint last).1, (next.gate setpoint last).2, ?_, ?_⟩
  · rw [generate, if_neg hstart]
    simp only [Surge.clamp_zero, translationBranch_straight hreversed, hrun]
    rfl
  · have hthreshold : ¬setpoint.alignmentThreshold < 0 := not_lt.2 zero_le_one
    have hgate : ¬(if next.gated = true then
        setpoint.alignmentRelease.getD setpoint.alignmentThreshold
          else setpoint.alignmentThreshold) < last.maximumError := by
      rw [herror, hkept, hgated, if_neg Bool.false_ne_true]
      exact hthreshold
    rw [gate]
    simp only [hgate, decide_false, Bool.false_eq_true, if_false, and_true]
    exact fun index => hall index (.inl (List.mem_finRange index))

/-- Straight ahead from rest, as an activation leaves the core. -/
structure Parked (core : MotionCore Unit) : Prop extends Straight core where
  setpoints : core.setpoints = .reset fun _ => some 0
  speeds : core.previousSpeeds = fun _ => 0
  shaper : core.bodyShaper.valid = true

theorem Straight.parked_overlong {core : MotionCore Unit} (h : Straight core)
    (command : CommandSpeeds) (commandFresh : Bool) (imu : Option YawSample) :
    Parked (core.update ruckig (feedback true) command commandFresh (some (4 / 1000)) imu).1 := by
  obtain ⟨seen, status, hseen, hstops⟩ := h.overlong_stops command commandFresh imu
  rw [hstops]
  exact ⟨(hseen.stop true status).1, congrArg SwerveSetpointGenerator.reset hseen.targets, rfl, rfl⟩

/-- The wheels have been told to drive off, by one step of the ramp. -/
structure DrivesOff (core : MotionCore Unit) (period : ℝ) (next : MotionCore Unit) : Prop where
  drive : next.drive =
    { steeringPosition := fun _ => some 0
      driveVelocity := fun _ => period
      status := .running }
  badTime : next.encoderBadTime = core.encoderBadTime

def ahead : CommandSpeeds := ⟨some 1, some 0, some 0⟩

variable {period : ℝ}

theorem inverseKinematics_ahead (locations : Module → Translation2d) (previousAngles : Module → ℝ)
    (dt : ℝ) : inverseKinematics (discretize ⟨1, 0, 0⟩ dt) locations previousAngles (1 / 1000) =
      straight := by
  funext index
  have hspeed : hypot 1 0 = 1 := by simp [hypot]
  have hangle : atan2 0 1 = 0 := by
    have hone : (⟨1, 0⟩ : ℂ) = 1 := rfl
    rw [atan2, hone, Complex.arg_one]
  have hslow : ¬(1 : ℝ) < 1000⁻¹ := by norm_num
  simp [inverseKinematics, discretize, discretizationCoefficient, straight, hspeed, hangle, hslow]

theorem desaturate_straight : desaturateWheelSpeeds straight 1 = straight := by
  have hmodules : List.finRange moduleCount = [0, 1, 2, 3] := by decide
  funext index
  rw [desaturateWheelSpeeds, if_pos]
  rw [largestSpeed, hmodules]
  norm_num [straight]

theorem Parked.generates (h : Parked core) (hpos : 0 < period) : ∃ next targets,
    core.generate (feedback true) (desaturateWheelSpeeds straight core.motion.maxWheelSpeed) period
        (fun _ => false) = (next, some targets) ∧
      (∀ index, targets.modules index = aligned) ∧ targets.gated = false := by
  have hlimits : core.limits = Surge.limits := by
    funext index
    rw [MotionCore.limits, h.config]
    rfl
  rw [MotionCore.generate, h.setpoints, hlimits, h.motion]
  change ∃ next targets, (SwerveSetpointGenerator.reset fun _ => some 0).generate setpoint
    Surge.limits (desaturateWheelSpeeds straight 1) (fun _ => 0) period (fun _ => false) = _ ∧ _
  rw [desaturate_straight]
  exact generate_straight ⟨rfl, rfl⟩ rfl rfl hpos

theorem Parked.steers (h : Parked core) (hpos : 0 < period) (hle : period ≤ 1 / 500) :
    DrivesOff core period
      (core.steerTo ruckig (feedback true) straight (fun _ => false) false period).1 := by
  obtain ⟨next, targets, hgenerate, haligned, hgated⟩ := h.generates hpos
  have hwithin : ({ core with setpoints := next } : MotionCore Unit).withinLimits targets := by
    intro index
    change steeringAngleWithinLimits _ (core.config.steeringLimits index)
    rw [haligned, h.config]
    have hpi := Real.pi_pos.le
    refine ⟨Spin.config.steeringLimits_valid index, ?_, ?_⟩ <;>
      simpa [aligned, CoreConfig.steeringLimits, Spin.config] using hpi
  have hspeed : ∀ index, clampTo ((targets.modules index).speed)
      (core.previousSpeeds index - core.motion.maxWheelAcceleration * period)
      (core.previousSpeeds index + core.motion.maxWheelAcceleration * period) = period := by
    intro index
    have hslow : ¬(1 : ℝ) < 0 - 1 * period := by linarith
    have hfast : (0 : ℝ) + 1 * period < 1 := by linarith
    rw [haligned, h.speeds, h.motion]
    change clampTo 1 (0 - 1 * period) (0 + 1 * period) = period
    rw [clampTo, if_neg hslow, if_pos hfast]
    ring
  have hradius : core.config.wheelRadius = fun _ => 1 := by
    rw [h.config]
    rfl
  unfold MotionCore.steerTo
  rw [no_deviation true h.targets, if_neg Bool.false_ne_true, hgenerate]
  dsimp only
  rw [if_pos hwithin]
  unfold MotionCore.follow MotionCore.settle MotionCore.commit
  simp only [hgated, Bool.false_or, Bool.and_false, Bool.false_eq_true, if_false, Bool.false_and,
    haligned]
  refine ⟨?_, rfl⟩
  change DriveOutput.mk _ _ _ = DriveOutput.mk _ _ _
  congr 1
  funext index
  rw [hradius, div_one, MotionCore.followedSpeed]
  simpa [hgated] using hspeed index

theorem Parked.smoothing (h : Parked core) : core.smoothing = false := by
  rw [MotionCore.smoothing, MotionCore.bodyLimits, h.motion]
  rfl

theorem Parked.tracks (h : Parked core) (hpos : 0 < period) (hle : period ≤ 1 / 500)
    (zeroRequest : Bool) :
    DrivesOff core period
      (core.track ruckig (feedback true) ⟨1, 0, 0⟩ false zeroRequest period).1 := by
  have hdeadband : core.rampDeadband false = 1 / 1000 := by
    rw [MotionCore.rampDeadband, h.smoothing, Bool.false_and, if_neg Bool.false_ne_true, h.motion]
    rfl
  have hfast : ¬|(1 : ℝ)| < 1 / 1000 := by norm_num
  have hmoves : MotionCore.allBelow straight (1 / 1000) = false :=
    decide_eq_false fun hall => hfast (hall 0)
  have hholding : (fun index : Module => decide (|(straight index).speed| < 1 / 1000)) =
      fun _ => false := by
    funext index
    exact decide_eq_false hfast
  have hheld : core.held straight (fun _ => false) = straight := by
    funext index
    rfl
  unfold MotionCore.track
  simp only [hdeadband, inverseKinematics_ahead, hmoves, hholding, hheld, Bool.false_eq_true,
    if_false]
  exact h.steers hpos hle

theorem Parked.obeys (h : Parked core) (hpos : 0 < period) (hle : period ≤ 1 / 500) :
    DrivesOff core period (core.obey ruckig (feedback true) ⟨1, 0, 0⟩ period).1 := by
  have hlimited : core.limitSpeeds ⟨1, 0, 0⟩ = ⟨1, 0, 0⟩ := by
    rw [MotionCore.limitSpeeds, h.motion]
    norm_num [motion, hypot, clampTo]
  have henabled : core.bodyLimits.enabled = false := h.smoothing
  obtain ⟨shaper, hshaped, hvalid⟩ : ∃ shaper, core.shapeBody ruckig (feedback true) ⟨1, 0, 0⟩
      false period = (shaper, ⟨1, 0, 0⟩) ∧ shaper.valid = true := by
    unfold MotionCore.shapeBody BodyVelocityShaper.step
    simp only [h.smoothing, henabled, h.shaper, not_le.2 hpos, Bool.false_and, Bool.not_true,
      Bool.not_false, Bool.false_eq_true, if_false, if_true]
    exact ⟨_, rfl, rfl⟩
  have hparked : Parked { core with bodyShaper := shaper } :=
    ⟨⟨h.active, h.config, h.motion, h.latched, h.targets, h.badTime⟩, h.setpoints, h.speeds, hvalid⟩
  unfold MotionCore.obey
  simp only [hlimited, h.smoothing, Bool.false_and, Bool.false_eq_true, if_false, hshaped, hvalid,
    Bool.not_true]
  have hmoves := hparked.tracks hpos hle (core.zeroRequest (feedback true) ⟨1, 0, 0⟩)
  exact ⟨hmoves.drive, hmoves.badTime⟩

theorem Parked.updates (h : Parked core) (hpos : 0 < period) (hle : period ≤ 1 / 500) :
    DrivesOff ((core.observed (feedback true) none).monitored (feedback true) (some period)) period
      (core.update ruckig (feedback true) ahead true (some period) none).1 := by
  have hobserved := h.toStraight.observed true none
  have hmonitored := hobserved.monitored true (some period)
  have hparked : Parked ((core.observed (feedback true) none).monitored (feedback true)
      (some period)) := ⟨hmonitored, h.setpoints, h.speeds, h.shaper⟩
  have htripped : (core.observed (feedback true) none).encoderMonitorTripped (feedback true)
      (some period) = false := by
    refine decide_eq_false ?_
    rintro ⟨index, hinconsistent, -⟩
    rw [encoderConsistent_of_config true hobserved.config] at hinconsistent
    exact Bool.false_ne_true hinconsistent.symm
  have husable : ((core.observed (feedback true) none).monitored (feedback true)
      (some period)).usablePeriod (some period) = some period := by
    rw [MotionCore.usablePeriod, hmonitored.motion, Option.filter_eq_some_iff]
    exact ⟨rfl, decide_eq_true ⟨hpos, hle⟩⟩
  unfold MotionCore.update MotionCore.updateObserved
  simp only [h.active, h.latched, feedbackReady_of_config true hobserved.config, htripped,
    no_deviation true hmonitored.targets, husable, Bool.not_true, Bool.false_eq_true, if_false]
  exact hparked.obeys hpos hle

theorem Parked.straight_update (h : Parked core) (hpos : 0 < period) (hle : period ≤ 1 / 500)
    (hsound : core.Sound) :
    Straight (core.update ruckig (feedback true) ahead true (some period) none).1 := by
  have hmoves := h.updates hpos hle
  have hdecides := core.decides_update ruckig (feedback true) ahead true (some period) none
  have hnext := hsound.decided hdecides
  refine ⟨hdecides.active_eq.trans h.active, hdecides.config_eq.trans h.config,
    hdecides.motion_eq.trans h.motion, ?_, ?_, fun index => ?_⟩
  · -- a latched hold fault would show in the status
    rw [← Bool.not_eq_true]
    intro hlatched
    generalize core.update ruckig (feedback true) ahead true (some period) none = outcome
      at hmoves hdecides hlatched
    cases hdecides with
    | throws kept =>
      exact ne_true_of_eq_false h.latched (kept.latched.symm.trans hlatched)
    | stops stopped =>
      have hstatus := congrArg DriveOutput.status hmoves.drive
      rcases stopped.status hlatched with hfault | hinactive
      · exact nomatch hstatus.symm.trans hfault
      · exact nomatch hstatus.symm.trans hinactive
    | commits committed =>
      exact ne_true_of_eq_false h.latched (committed.latched.symm.trans hlatched)
  · rw [← hnext.published, hmoves.drive]
  · rw [hmoves.badTime]
    exact ((h.toStraight.observed true none).monitored true (some period)).badTime index

variable (core) in
theorem parked_activate (hconfig : core.config = Spin.config) (hmotion : core.motion = motion) :
    Parked (core.activate ruckig (feedback true)).1 := by
  have hready : core.feedbackReady (feedback true) = true ∧
      ∀ index, core.encoderConsistent (feedback true index) index = true :=
    ⟨feedbackReady_of_config true hconfig, encoderConsistent_of_config true hconfig⟩
  refine ⟨straight_activate core hconfig hmotion, ?_, ?_, ?_⟩ <;>
    rw [MotionCore.activate, if_pos hready] <;> rfl

end Bench

end RobotDriver.Swerve

end
