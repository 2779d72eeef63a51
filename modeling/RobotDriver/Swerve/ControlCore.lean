import RobotDriver.Swerve.Odometry

/-!
# Swerve control core

The part of `ControlCore` that observes a cycle: module positions, slip rejection, the heading from
the IMU or from the wheels, and the odometry. A measurement that is not finite is `none`.
-/

noncomputable section

open scoped Classical

namespace RobotDriver.Swerve

structure CoreConfig where
  locations : Module → Translation2d
  wheelRadius : Module → ℝ
  steeringMin : Module → ℝ
  steeringMax : Module → ℝ
  steeringLimitMargin : Module → ℝ
  steeringLimitTolerance : Module → ℝ
  maxEncoderDifference : ℝ
  slipResidualThreshold : ℝ
  wheelRadius_pos : ∀ index, 0 < wheelRadius index
  maxEncoderDifference_pos : 0 < maxEncoderDifference
  slipResidualThreshold_pos : 0 < slipResidualThreshold
  steeringLimits_valid : ∀ index, validSteeringAngleLimits
    ⟨steeringMin index, steeringMax index, steeringLimitMargin index, steeringLimitTolerance index⟩

def CoreConfig.steeringLimits (config : CoreConfig) (index : Module) : SteeringAngleLimits :=
  ⟨config.steeringMin index, config.steeringMax index, config.steeringLimitMargin index,
    config.steeringLimitTolerance index⟩

structure ModuleFeedback where
  steeringPosition : Option ℝ
  wheelPosition : Option ℝ
  wheelVelocity : Option ℝ
  valid : Bool
  enabled : Bool

structure YawSample where
  yaw : Option ℝ
  rate : Option ℝ

structure ControlOutput where
  pose : Pose2d := {}
  measuredTwist : ChassisSpeeds := {}
  validModules : ℕ := 0
  imuFallback : Bool := true
  slippingModules : Module → Bool := fun _ => false
  slipDetected : Bool := false

structure ControlCore where
  config : CoreConfig
  odometry : Option SwerveOdometry
  previousPositions : Module → SwerveModulePosition
  lastSteeringTargets : Module → Option ℝ
  holdingModules : Module → Bool
  output : ControlOutput
  yaw : ℝ
  lastImuYaw : ℝ
  active : Bool
  imuFallback : Bool

/-- The verdict of the slip check on one cycle. -/
structure SlipCheck where
  measuredTwist : ChassisSpeeds
  slippingModules : Module → Bool
  slipDetected : Bool
  validModules : ℕ

/-- The yaw and the rate of a sample, if both are finite. -/
def freshImu (imu : Option YawSample) : Option (ℝ × ℝ) := do
  let sample ← imu
  let yaw ← sample.yaw
  let rate ← sample.rate
  return (yaw, rate)

namespace ControlCore

variable (core : ControlCore) (feedback : Module → ModuleFeedback) (imu : Option YawSample)

def measurementValid (f : ModuleFeedback) : Bool :=
  f.valid && f.steeringPosition.isSome && f.wheelPosition.isSome && f.wheelVelocity.isSome

def moduleReady (f : ModuleFeedback) (index : Module) : Bool :=
  measurementValid f && f.enabled &&
    decide (steeringAngleWithinLimits (f.steeringPosition.getD 0)
      (core.config.steeringLimits index))

def angleValid (f : ModuleFeedback) (index : Module) : Bool :=
  f.steeringPosition.elim false fun angle =>
    decide (steeringMeasurementWithinTolerance angle (core.config.steeringLimits index))

/-- A holding module has not left its latched target. -/
def holdConsistent (f : ModuleFeedback) (index : Module) : Bool :=
  match core.lastSteeringTargets index, f.steeringPosition with
  | some target, some angle =>
    !(core.holdingModules index && core.active &&
      decide (core.config.maxEncoderDifference < |angle - target|))
  | _, _ => true

def positions (index : Module) : SwerveModulePosition where
  distance := (feedback index).wheelPosition.getD 0 * core.config.wheelRadius index
  angle :=
    if core.angleValid (feedback index) index then
      clampSteeringMeasurementToSafeRange ((feedback index).steeringPosition.getD 0)
        (core.config.steeringLimits index)
    else (feedback index).steeringPosition.getD 0
  valid := core.moduleReady (feedback index) index && core.angleValid (feedback index) index &&
    core.holdConsistent (feedback index) index

def measured (index : Module) : SwerveModuleMeasurement where
  speed := (feedback index).wheelVelocity.getD 0 * core.config.wheelRadius index
  angle := (core.positions feedback index).angle
  valid := (core.positions feedback index).valid

def checkSlip : SlipCheck :=
  let measuredCount := ((List.finRange moduleCount).filter fun index =>
    (core.measured feedback index).valid).length
  match chassisSpeedsWithSlipRejection (core.measured feedback) core.config.locations
      core.config.slipResidualThreshold with
  | some fit => ⟨fit.speeds, fit.slippingModules, fit.slipDetected, fit.usedModuleCount⟩
  | none =>
    if 2 ≤ measuredCount then ⟨{}, fun index => (core.measured feedback index).valid, true, 0⟩
    else ⟨{}, fun _ => false, false, measuredCount⟩

def odometryPositions (index : Module) : SwerveModulePosition :=
  if (core.checkSlip feedback).slippingModules index then
    { core.positions feedback index with valid := false, rejectedAsSlip := true }
  else core.positions feedback index

def wheelDelta : Option ChassisDelta :=
  wheelChassisDeltaFromPositionDeltas core.previousPositions (core.odometryPositions feedback)
    core.config.locations

/-- A sample that follows a cycle without one only anchors the IMU. -/
def observedYaw : ℝ :=
  match freshImu imu with
  | some (yaw, _) =>
    if core.imuFallback then core.yaw else core.yaw + wrapPi (yaw - core.lastImuYaw)
  | none => core.yaw + (core.wheelDelta feedback).elim 0 (·.dtheta)

variable {core feedback imu}

theorem observedYaw_of_wheels (h : freshImu imu = none) :
    core.observedYaw feedback imu = core.yaw + (core.wheelDelta feedback).elim 0 (·.dtheta) := by
  rw [observedYaw, h]

theorem observedYaw_of_anchor {yaw rate : ℝ} (h : freshImu imu = some (yaw, rate))
    (hfallback : core.imuFallback = true) : core.observedYaw feedback imu = core.yaw := by
  rw [observedYaw, h]
  exact if_pos hfallback

theorem observedYaw_of_imu {yaw rate : ℝ} (h : freshImu imu = some (yaw, rate))
    (hfallback : core.imuFallback = false) :
    core.observedYaw feedback imu = core.yaw + wrapPi (yaw - core.lastImuYaw) := by
  rw [observedYaw, h]
  exact if_neg (by simp [hfallback])

variable (core feedback imu)

def observe : ControlCore :=
  match core.odometry with
  | none => core
  | some odometry =>
    let slip := core.checkSlip feedback
    let yaw := core.observedYaw feedback imu
    let updated := odometry.update yaw (core.odometryPositions feedback)
    let current := core.positions feedback
    { core with
      odometry := some updated
      previousPositions := fun index =>
        if (current index).valid then current index else core.previousPositions index
      output :=
        { pose := updated.pose
          measuredTwist := (freshImu imu).elim slip.measuredTwist fun (_, rate) =>
            { slip.measuredTwist with omega := rate }
          validModules := slip.validModules
          imuFallback := (freshImu imu).isNone
          slippingModules := slip.slippingModules
          slipDetected := slip.slipDetected }
      yaw := yaw
      lastImuYaw := (freshImu imu).elim core.lastImuYaw (·.1)
      imuFallback := (freshImu imu).isNone }

end ControlCore

end RobotDriver.Swerve

end
