import RobotDriver.Swerve.CheckedKinematics
import RobotDriver.Swerve.ContainedShaper

/-!
# Checks of the setpoint generator

`SwerveSetpointGenerator::generate` with its checks and the exceptions of the modules it optimizes.
With finite states and measurements inside the tolerance it is the generator over the real numbers.
-/

noncomputable section

open scoped Classical

namespace RobotDriver.Swerve.Throwing

variable (p : SwerveSetpointParameters) (limits : Module → SteeringAngleLimits)

/-- The checks of one module, in the order of the loop. -/
def planModule (desired : RawModuleState) (measured : Option ℝ) (limits : SteeringAngleLimits) :
    Except Thrown PUnit := do
  require desired.Finite (.invalidArgument "swerve module state must be finite")
  require (withinTolerance measured limits)
    (.outOfRange "steering measurement exceeds physical limit tolerance")
  let _ ← clampSteeringMeasurementToSafeRange measured limits

def optimized (g : SwerveSetpointGenerator) (desired : Module → RawModuleState)
    (planning : Module → ℝ) (reversal : Option Bool) (index : Module) :
    Except Thrown OptimizedModuleState :=
  match reversal with
  | some reversed =>
    let targetAngle := (SwerveSetpointGenerator.translationTarget limits
      (fun index => (desired index).value) planning reversed index).getD 0
    .ok {
      speed := if reversed then -(desired index).value.speed else (desired index).value.speed
      targetAngle := targetAngle
      error := targetAngle - planning index
      reversed := reversed }
  | none =>
    optimizeModule (desired index) (some (planning index)) (g.reversed index) p.flipHysteresis
      (limits index)

def generateModule (desired : Module → RawModuleState) (planning : Module → ℝ)
    (reversal : Option Bool) (dt : ℝ) (hold : Module → Bool)
    (state : SwerveSetpointGenerator × AlignmentResult) (index : Module) :
    Except Thrown (SwerveSetpointGenerator × AlignmentResult) := do
  if hold index then
    return state.1.holdModule p index state.2 (desired index).value (planning index) dt
  else
    let optimized ← optimized p limits state.1 desired planning reversal index
    return state.1.followModule p index state.2 optimized (planning index) dt

def generate (g : SwerveSetpointGenerator) (desired : Module → RawModuleState)
    (measured : Module → Option ℝ) (dt : Option ℝ) (hold : Module → Bool) :
    Except Thrown (SwerveSetpointGenerator × AlignmentResult) := do
  let dt ← positive dt "setpoint period must be finite and positive"
  (List.finRange moduleCount).forM fun index =>
    planModule (desired index) (measured index) (limits index)
  let planning index :=
    Swerve.clampSteeringMeasurementToSafeRange ((measured index).getD 0) (limits index)
  let reversal := g.translationBranch p limits (fun index => (desired index).value) planning
  let (g, result) ← (List.finRange moduleCount).foldlM
    (generateModule p limits desired planning reversal dt hold)
    ({ g with translationReversed := reversal }, {})
  return g.gate p result

variable {p limits}

theorem planModule_of_within {measured : ℝ} {limits : SteeringAngleLimits}
    (h : steeringMeasurementWithinTolerance measured limits) (desired : SwerveModuleState) :
    planModule desired.raw (some measured) limits = .ok ⟨⟩ := by
  rw [planModule, require_of desired.finite_raw, ok_bind, require_of ⟨measured, rfl, h⟩, ok_bind,
    clamp_of_valid h.1]
  rfl

section Modules

variable (desired : Module → SwerveModuleState) {planning : Module → ℝ}

theorem optimized_of_within
    (hplan : ∀ index, steeringAngleWithinLimits (planning index) (limits index))
    (hvalid : p.Valid) (g : SwerveSetpointGenerator) (reversal : Option Bool) (index : Module) :
    ∃ result, optimized p limits g (fun index => (desired index).raw) planning reversal index =
        .ok result ∧
      g.optimized p limits desired planning reversal index = some result := by
  cases reversal with
  | some reversed => exact ⟨_, rfl, rfl⟩
  | none =>
    have hwithin := hplan index
    obtain ⟨result, hok, hsome⟩ := optimizeModule_eq (tolerance_of_within hwithin)
      hvalid.flipHysteresis.1 hvalid.flipHysteresis.2 (desired index) (g.reversed index)
    refine ⟨result, hok, ?_⟩
    have hclamp : Swerve.clampSteeringMeasurementToSafeRange (planning index) (limits index) =
        planning index := by
      unfold Swerve.clampSteeringMeasurementToSafeRange
      rw [max_eq_left hwithin.2.1, min_eq_left hwithin.2.2]
    rwa [hclamp] at hsome

theorem foldlM_of_within
    (hplan : ∀ index, steeringAngleWithinLimits (planning index) (limits index))
    (hvalid : p.Valid) (reversal : Option Bool) (dt : ℝ) (hold : Module → Bool)
    (indices : List Module) (g : SwerveSetpointGenerator) (result : AlignmentResult) :
    ∃ next, indices.foldlM (generateModule p limits (fun index => (desired index).raw) planning
        reversal dt hold) (g, result) = .ok next ∧
      indices.foldl (SwerveSetpointGenerator.generateModule p limits desired planning reversal dt
        hold) (g, some result) = (next.1, some next.2) := by
  induction indices generalizing g result with
  | nil => exact ⟨(g, result), rfl, rfl⟩
  | cons index indices ih =>
    have hmodule : ∃ next, generateModule p limits (fun index => (desired index).raw) planning
        reversal dt hold (g, result) index = .ok next ∧
        SwerveSetpointGenerator.generateModule p limits desired planning reversal dt hold
          (g, some result) index = (next.1, some next.2) := by
      unfold generateModule SwerveSetpointGenerator.generateModule
      dsimp only
      by_cases hhold : hold index = true
      · rw [if_pos hhold, if_pos hhold]
        exact ⟨_, rfl, rfl⟩
      · obtain ⟨optimized, hok, hsome⟩ :=
          optimized_of_within desired hplan hvalid g reversal index
        rw [if_neg hhold, if_neg hhold, hok, hsome]
        exact ⟨_, rfl, rfl⟩
    obtain ⟨⟨g', result'⟩, hok, hnext⟩ := hmodule
    obtain ⟨next, hrest, hlast⟩ := ih g' result'
    refine ⟨next, ?_, ?_⟩
    · rw [List.foldlM_cons, hok]
      exact hrest
    · rw [List.foldl_cons, hnext]
      exact hlast

end Modules

theorem generate_of_within {measured : Module → ℝ}
    (hmeasured : ∀ index, steeringMeasurementWithinTolerance (measured index) (limits index))
    (hvalid : p.Valid) {dt : ℝ} (hdt : 0 < dt) (g : SwerveSetpointGenerator)
    (desired : Module → SwerveModuleState) (hold : Module → Bool) :
    ∃ next, generate p limits g (fun index => (desired index).raw)
        (fun index => some (measured index)) (some dt) hold = .ok next ∧
      g.generate p limits desired measured dt hold = (next.1, some next.2) := by
  have hplan (index : Module) : steeringAngleWithinLimits
      (Swerve.clampSteeringMeasurementToSafeRange (measured index) (limits index))
      (limits index) := within_clamp (hmeasured index).1 _
  have hchecks : (List.finRange moduleCount).forM (fun index =>
      planModule (desired index).raw (some (measured index)) (limits index)) = .ok ⟨⟩ :=
    forM_eq_ok_iff.2 fun index _ => planModule_of_within (hmeasured index) (desired index)
  have hstart : ¬(dt ≤ 0 ∨ ∃ index,
      ¬steeringMeasurementWithinTolerance (measured index) (limits index)) := by
    rw [not_or, not_exists]
    exact ⟨not_le.2 hdt, fun index => not_not.2 (hmeasured index)⟩
  obtain ⟨⟨g', result⟩, hok, hloop⟩ := foldlM_of_within desired hplan hvalid
    (g.translationBranch p limits desired fun index =>
      Swerve.clampSteeringMeasurementToSafeRange (measured index) (limits index)) dt hold
    (List.finRange moduleCount) { g with translationReversed := _ } {}
  refine ⟨g'.gate p result, ?_, ?_⟩
  · rw [generate, positive_of hdt, ok_bind, hchecks, ok_bind]
    dsimp only [Option.getD_some, SwerveModuleState.value_raw]
    rw [hok]
    rfl
  · rw [SwerveSetpointGenerator.generate, if_neg hstart]
    dsimp only
    rw [hloop]
    rfl

end RobotDriver.Swerve.Throwing

end

/-!
# Exceptions of the control core

`ControlCore::update` with every check under it that throws. The core holds the positions of its
modules as they were measured; an exception ends the update.
-/

noncomputable section

open scoped Classical

namespace RobotDriver.Swerve

namespace Throwing

section Observation

variable (core : ControlCore) (feedback : Module → ModuleFeedback)

def position (index : Module) : RawPosition :=
  let distance := (feedback index).wheelPosition.map (· * core.config.wheelRadius index)
  { distance := distance
    angle :=
      if core.angleValid (feedback index) index then
        some (Swerve.clampSteeringMeasurementToSafeRange
          ((feedback index).steeringPosition.getD 0) (core.config.steeringLimits index))
      else (feedback index).steeringPosition
    valid := core.moduleReady (feedback index) index && core.angleValid (feedback index) index &&
      core.holdConsistent (feedback index) index && distance.isSome }

/-- Only an angle that is used is clamped. -/
def positions : Except Thrown (Module → RawPosition) := do
  checkEach (fun index => core.angleValid (feedback index) index = true →
    (feedback index).steeringPosition.isSome = true ∧
      validSteeringAngleLimits (core.config.steeringLimits index))
    (.invalidArgument "steering measurement and limits must be valid")
  return position core feedback

def measurement (current : Module → RawPosition) (index : Module) : RawMeasurement :=
  let speed := (feedback index).wheelVelocity.map (· * core.config.wheelRadius index)
  { speed := speed
    angle := (current index).angle
    valid := (current index).valid && speed.isSome }

def checkSlip (current : Module → RawPosition) : Except Thrown SlipCheck := do
  let measured := measurement core feedback current
  let measuredCount := ((List.finRange moduleCount).filter fun index =>
    (measured index).valid).length
  let fit ← chassisSpeedsWithSlipRejection core.config.locations measured
    core.config.slipResidualThreshold
  return match fit with
    | some fit => ⟨fit.speeds, fit.slippingModules, fit.slipDetected, fit.usedModuleCount⟩
    | none =>
      if 2 ≤ measuredCount then ⟨{}, fun index => (measured index).valid, true, 0⟩
      else ⟨{}, fun _ => false, false, measuredCount⟩

def rejectSlip (slip : SlipCheck) (current : Module → RawPosition) (index : Module) : RawPosition :=
  if slip.slippingModules index then
    { current index with valid := false, rejectedAsSlip := true }
  else current index

variable (imu : Option YawSample)

def observedYaw (delta : Option ChassisDelta) : Option ℝ :=
  if (freshImu imu).isSome then
    if core.imuFallback then some core.yaw
    else (imu.bind (·.yaw)).map fun yaw => core.yaw + wrapPi (yaw - core.lastImuYaw)
  else some (core.yaw + delta.elim 0 (·.dtheta))

def measuredTwist (slip : SlipCheck) : CommandSpeeds :=
  { slip.measuredTwist.raw with
    omega := if (freshImu imu).isSome then imu.bind (·.rate) else some slip.measuredTwist.omega }

def finiteOdometry (pose : Pose2d) (twist : CommandSpeeds) :
    Except Thrown (Pose2d × ChassisSpeeds) :=
  match twist.toFinite with
  | some twist => .ok (pose, twist)
  | none => .error (.runtimeError "Non-finite swerve odometry")

end Observation

end Throwing

/-- The core beside what it holds of the measured positions. -/
structure ThrowingCore (G : Type) where
  core : MotionCore G
  odometry : Option RawOdometry := none
  previousPositions : Module → RawPosition := fun _ => ⟨some 0, some 0, true, false⟩

namespace Throwing

variable {G : Type} (ruckig : Ruckig G) (core : MotionCore G) (feedback : Module → MotionFeedback)

section Generating

def generateTargets (desired : Module → RawModuleState) (period : ℝ) (holding : Module → Bool) :
    Except Thrown (SwerveSetpointGenerator × AlignmentResult) :=
  generate core.motion.setpoint core.limits core.setpoints desired
    (fun index => (feedback index).steeringPosition) (some period) holding

def heldState (index : Module) : RawModuleState := ⟨some 0, core.lastSteeringTargets index⟩

def rampStop (status : ControlStatus) (dt : Option ℝ) : Except Thrown (MotionCore G) :=
  match core.usablePeriod dt with
  | none => .ok (core.stop ruckig feedback status)
  | some period => do
    let (setpoints, targets) ← generateTargets core feedback (heldState core) period fun _ => true
    let core := { core with setpoints := setpoints }
    return if core.withinLimits targets then
        core.commit targets (fun _ => true) (core.slowedSpeed period) status
      else core.stop ruckig feedback .steeringLimit

def steerTo (desired : Module → RawModuleState) (holding : Module → Bool) (waiting : Bool)
    (period : ℝ) : Except Thrown (MotionCore G) := do
  if core.holdDeviation feedback holding then
    return core.latchHold.stop ruckig feedback .steeringHoldFault
  else
    let desired ← desaturateWheelSpeeds desired core.motion.maxWheelSpeed
    let (setpoints, targets) ← generateTargets core feedback (fun index => (desired index).raw)
      period holding
    let core := { core with setpoints := setpoints }
    return if core.withinLimits targets then core.follow ruckig targets holding waiting period
      else core.stop ruckig feedback .steeringLimit

def held (states : Module → SwerveModuleState) (holding : Module → Bool) (index : Module) :
    RawModuleState :=
  if holding index then heldState core index else (states index).raw

def moduleStates (speeds : CommandSpeeds) (deadband : ℝ) :
    Except Thrown (Module → SwerveModuleState) :=
  inverseKinematics speeds core.config.locations (fun index => (feedback index).steeringPosition)
    deadband

def track (shaped : ChassisSpeeds) (waiting zeroRequest : Bool) (period : ℝ) :
    Except Thrown (MotionCore G) := do
  let deadband := core.rampDeadband waiting
  let speeds ← discretize shaped.raw (some period)
  let desired ← moduleStates core feedback speeds deadband
  if MotionCore.allBelow desired deadband then
    rampStop ruckig (if zeroRequest then core.restBody ruckig else core) feedback .running
      (some period)
  else
    let holding index := decide (|(desired index).speed| < deadband)
    steerTo ruckig core feedback (held core desired holding) holding waiting period

def shapeBody (command : ChassisSpeeds) (zeroRequest waiting : Bool) (period : ℝ) :
    BodyVelocityShaper G × ChassisSpeeds :=
  let requested := if core.smoothing && zeroRequest then {} else command
  if waiting then (core.bodyShaper, requested)
  else core.bodyShaper.step ruckig core.bodyLimits requested period

def obey (command : ChassisSpeeds) (period : ℝ) : Except Thrown (MotionCore G) := do
  let command := core.limitSpeeds command
  let requested ← moduleStates core feedback command.raw core.motion.velocityDeadband
  let zeroRequest := MotionCore.allBelow requested core.motion.velocityDeadband
  let waiting := core.smoothing && core.bodyAlignmentWaiting
  if waiting && zeroRequest then rampStop ruckig core feedback .running (some period)
  else
    let (shaper, shaped) := shapeBody ruckig core command zeroRequest waiting period
    let core := { core with bodyShaper := shaper }
    if !shaper.valid then return core.stop ruckig feedback .invalidCommand
    else track ruckig core feedback shaped waiting zeroRequest period

variable (command : CommandSpeeds) (commandFresh : Bool) (dt : Option ℝ)

def updateObserved : Except Thrown (MotionCore G) :=
  if !core.feedbackReady feedback then .ok (core.stop ruckig feedback .feedbackFault)
  else if core.encoderMonitorTripped feedback dt then
    .ok ((core.monitored feedback dt).stop ruckig feedback .feedbackFault)
  else
    let core := core.monitored feedback dt
    if core.holdDeviation feedback core.holdingModules then
      .ok (core.latchHold.stop ruckig feedback .steeringHoldFault)
    else if !commandFresh then
      rampStop ruckig (core.restBody ruckig) feedback .commandTimeout dt
    else
      match core.usablePeriod dt, command.toFinite with
      | some period, some speeds => obey ruckig core feedback speeds period
      | _, _ => .ok (core.stop ruckig feedback .invalidCommand)

end Generating

end Throwing

namespace ThrowingCore

variable {G : Type} (ruckig : Ruckig G) (t : ThrowingCore G) (feedback : Module → MotionFeedback)
  (command : CommandSpeeds) (commandFresh : Bool) (dt : Option ℝ) (imu : Option YawSample)

def create (config : CoreConfig) (motion : MotionConfig) : ThrowingCore G where
  core := .create ruckig config motion

def observe : Except Thrown (ThrowingCore G) :=
  match t.odometry with
  | none => .ok t
  | some odometry => do
    let sampled := MotionCore.observedFeedback feedback
    let current ← Throwing.positions t.core.toControlCore sampled
    let slip ← Throwing.checkSlip t.core.toControlCore sampled current
    let positions := Throwing.rejectSlip slip current
    let delta ← Throwing.wheelChassisDeltaFromPositionDeltas t.core.config.locations
      t.previousPositions positions
    let yaw := Throwing.observedYaw t.core.toControlCore imu delta
    let updated ← odometry.update yaw positions
    let (pose, twist) ← Throwing.finiteOdometry updated.pose (Throwing.measuredTwist imu slip)
    let previousPositions index :=
      if (current index).valid then current index else t.previousPositions index
    return {
      core := { t.core with
        odometry := some updated.value
        previousPositions := fun index => (previousPositions index).value
        output :=
          { pose := pose
            measuredTwist := twist
            validModules := slip.validModules
            imuFallback := (freshImu imu).isNone
            slippingModules := slip.slippingModules
            slipDetected := slip.slipDetected }
        -- The yaw that the odometry has accepted.
        yaw := updated.previousYaw
        lastImuYaw := (freshImu imu).elim t.core.lastImuYaw (·.1)
        imuFallback := (freshImu imu).isNone }
      odometry := some updated
      previousPositions := previousPositions }

def update : Except Thrown (ThrowingCore G) := do
  if !t.core.active then return { t with core := t.core.stop ruckig feedback .inactive }
  else if t.core.holdFaultLatched then
    return { t with core := t.core.stop ruckig feedback .steeringHoldFault }
  else
    let t ← t.observe feedback imu
    let core ← Throwing.updateObserved ruckig t.core feedback command commandFresh dt
    return { t with core := core }

/-- An activation that succeeds takes the positions up as they are measured. -/
def activate : ThrowingCore G :=
  let (core, activated) := t.core.activate ruckig feedback
  if activated then
    let taken := (t.core.takeUp ruckig feedback).toControlCore
    let positions := Throwing.position taken (MotionCore.observedFeedback feedback)
    { core := core
      odometry := some {
        moduleLocations := core.config.locations
        previousPositions := positions
        pose := t.core.output.pose
        previousYaw := t.core.yaw
        yawOffset := t.core.output.pose.heading - t.core.yaw }
      previousPositions := positions }
  else { t with core := core }

def call : CoreCall → Except Thrown (ThrowingCore G)
  | .activate feedback => .ok (t.activate ruckig feedback)
  | .deactivate => .ok { t with core := t.core.deactivate ruckig }
  | .update feedback command commandFresh dt imu =>
    t.update ruckig feedback command commandFresh dt imu

/-- A call that throws leaves the core as it was. -/
def step (t : ThrowingCore G) (call : CoreCall) : ThrowingCore G :=
  match t.call ruckig call with
  | .ok next => next
  | .error _ => t

end ThrowingCore

/-- The core over the real numbers after a call. -/
def MotionCore.called {G : Type} (ruckig : Ruckig G) (core : MotionCore G) :
    CoreCall → MotionCore G
  | .activate feedback => (core.activate ruckig feedback).1
  | .deactivate => core.deactivate ruckig
  | .update feedback command commandFresh dt imu =>
    (core.update ruckig feedback command commandFresh dt imu).1

end RobotDriver.Swerve

end
