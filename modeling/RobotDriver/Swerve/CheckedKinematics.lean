import RobotDriver.Swerve.Exceptions
import RobotDriver.Swerve.MotionCore

/-!
# Checks of the kinematics and of the odometry

As in the exceptions of a single module, a double that is not finite is `none` and a function past
its checks is the one over the real numbers. The one quotient that is not checked where it is taken
is the cotangent of the discretization.
-/

noncomputable section

open scoped Classical

namespace RobotDriver.Swerve

structure RawMeasurement where
  speed : Option ℝ
  angle : Option ℝ
  valid : Bool

structure RawPosition where
  distance : Option ℝ
  angle : Option ℝ
  valid : Bool
  rejectedAsSlip : Bool := false

def RawModuleState.value (state : RawModuleState) : SwerveModuleState :=
  ⟨state.speed.getD 0, state.angle.getD 0⟩

def RawMeasurement.value (measurement : RawMeasurement) : SwerveModuleMeasurement :=
  ⟨measurement.speed.getD 0, measurement.angle.getD 0, measurement.valid⟩

def RawPosition.value (position : RawPosition) : SwerveModulePosition :=
  ⟨position.distance.getD 0, position.angle.getD 0, position.valid, position.rejectedAsSlip⟩

def ChassisSpeeds.raw (speeds : ChassisSpeeds) : CommandSpeeds :=
  ⟨some speeds.vx, some speeds.vy, some speeds.omega⟩

def RawModuleState.Finite (state : RawModuleState) : Prop :=
  state.speed.isSome = true ∧ state.angle.isSome = true

def RawMeasurement.Finite (measurement : RawMeasurement) : Prop :=
  measurement.speed.isSome = true ∧ measurement.angle.isSome = true

def RawPosition.Finite (position : RawPosition) : Prop :=
  position.distance.isSome = true ∧ position.angle.isSome = true

@[simp] theorem SwerveModuleState.value_raw (state : SwerveModuleState) :
    state.raw.value = state := rfl

theorem SwerveModuleState.finite_raw (state : SwerveModuleState) : state.raw.Finite := ⟨rfl, rfl⟩

namespace Throwing

/-- Every module passes, or the first one that does not throws. -/
def checkEach (ok : Module → Prop) (thrown : Thrown) : Except Thrown PUnit :=
  (List.finRange moduleCount).forM fun index => require (ok index) thrown

theorem checkEach_of {ok : Module → Prop} (h : ∀ index, ok index) (thrown : Thrown) :
    checkEach ok thrown = .ok ⟨⟩ :=
  forM_eq_ok_iff.2 fun index _ => require_of (h index)

def positive (value : Option ℝ) (what : String) : Except Thrown ℝ := do
  let value ← finite value what
  require (0 < value) (.invalidArgument what)
  return value

theorem positive_of {value : ℝ} (h : 0 < value) (what : String) :
    positive (some value) what = .ok value := by
  rw [positive, finite_some, ok_bind, require_of h]
  rfl

section Speeds

def validateSpeeds (speeds : CommandSpeeds) : Except Thrown ChassisSpeeds :=
  match speeds.toFinite with
  | some speeds => .ok speeds
  | none => .error (.invalidArgument "chassis speeds must be finite")

@[simp] theorem validateSpeeds_raw (speeds : ChassisSpeeds) :
    validateSpeeds speeds.raw = .ok speeds := rfl

/-- A quotient by zero is not finite. -/
def quotient (x y : ℝ) : Option ℝ := if y = 0 then none else some (x / y)

def discretizationCoefficient (theta : ℝ) : Option ℝ :=
  if |theta| < 1 / 10 ^ 9 then some (1 - theta * theta / 12)
  else quotient (theta / 2) (Real.tan (theta / 2))

theorem discretizationCoefficient_of_lt {theta : ℝ} (h : |theta| < Real.pi) :
    discretizationCoefficient theta = some (Swerve.discretizationCoefficient theta) := by
  unfold discretizationCoefficient Swerve.discretizationCoefficient
  by_cases hsmall : |theta| < 1 / 10 ^ 9
  · rw [if_pos hsmall, if_pos hsmall]
  rw [if_neg hsmall, if_neg hsmall]
  refine if_neg fun htan => hsmall ?_
  obtain ⟨hlow, hhigh⟩ := abs_lt.1 h
  have hzero : theta / 2 = 0 := by
    have hbelow : theta / 2 < Real.pi / 2 := by linarith
    have habove : -(Real.pi / 2) < theta / 2 := by linarith
    have hpi := Real.pi_pos
    exact Real.injOn_tan ⟨habove, hbelow⟩ ⟨by linarith, by linarith⟩ (htan.trans Real.tan_zero.symm)
  rw [show theta = 0 by linarith, abs_zero]
  norm_num

def discretize (speeds : CommandSpeeds) (dt : Option ℝ) : Except Thrown CommandSpeeds := do
  let speeds ← validateSpeeds speeds
  let dt ← positive dt "discretization period must be finite and positive"
  let theta := speeds.omega * dt
  let coefficient := discretizationCoefficient theta
  return {
    vx := coefficient.map fun value => value * speeds.vx + theta / 2 * speeds.vy
    vy := coefficient.map fun value => -(theta / 2) * speeds.vx + value * speeds.vy
    omega := some speeds.omega }

theorem discretize_of_lt {speeds : ChassisSpeeds} {dt : ℝ} (hpos : 0 < dt)
    (h : |speeds.omega * dt| < Real.pi) :
    discretize speeds.raw (some dt) = .ok (Swerve.discretize speeds dt).raw := by
  rw [discretize, validateSpeeds_raw, ok_bind, positive_of hpos, ok_bind]
  dsimp only
  rw [discretizationCoefficient_of_lt h]
  rfl

def inverseKinematics (speeds : CommandSpeeds) (moduleLocations : Module → Translation2d)
    (previousAngles : Module → Option ℝ) (velocityDeadband : ℝ) :
    Except Thrown (Module → SwerveModuleState) := do
  let speeds ← validateSpeeds speeds
  require (0 ≤ velocityDeadband)
    (.invalidArgument "velocity deadband must be finite and nonnegative")
  checkEach (fun index => (previousAngles index).isSome = true)
    (.invalidArgument "module geometry and previous angles must be finite")
  return Swerve.inverseKinematics speeds moduleLocations (fun index => (previousAngles index).getD 0)
    velocityDeadband

theorem inverseKinematics_of_finite {previousAngles : Module → Option ℝ} {velocityDeadband : ℝ}
    (hangles : ∀ index, (previousAngles index).isSome = true) (hdeadband : 0 ≤ velocityDeadband)
    (speeds : ChassisSpeeds) (moduleLocations : Module → Translation2d) :
    inverseKinematics speeds.raw moduleLocations previousAngles velocityDeadband =
      .ok (Swerve.inverseKinematics speeds moduleLocations
        (fun index => (previousAngles index).getD 0) velocityDeadband) := by
  rw [inverseKinematics, validateSpeeds_raw, ok_bind, require_of hdeadband, ok_bind,
    checkEach_of hangles]
  rfl

def desaturateWheelSpeeds (states : Module → RawModuleState) (maximumSpeed : ℝ) :
    Except Thrown (Module → SwerveModuleState) := do
  require (0 < maximumSpeed)
    (.invalidArgument "maximum wheel speed must be finite and positive")
  checkEach (fun index => (states index).Finite)
    (.invalidArgument "swerve module state must be finite")
  return Swerve.desaturateWheelSpeeds (fun index => (states index).value) maximumSpeed

theorem desaturateWheelSpeeds_of_finite {states : Module → RawModuleState} {maximumSpeed : ℝ}
    (hpos : 0 < maximumSpeed) (hstates : ∀ index, (states index).Finite) :
    desaturateWheelSpeeds states maximumSpeed =
      .ok (Swerve.desaturateWheelSpeeds (fun index => (states index).value) maximumSpeed) := by
  rw [desaturateWheelSpeeds, require_of hpos, ok_bind, checkEach_of hstates]
  rfl

end Speeds

section Observation

variable (moduleLocations : Module → Translation2d)

def chassisSpeedsWithSlipRejection (modules : Module → RawMeasurement)
    (slipResidualThreshold : ℝ) : Except Thrown (Option ChassisSpeedFit) := do
  require (0 < slipResidualThreshold)
    (.invalidArgument "slip residual threshold must be finite and positive")
  checkEach (fun index => (modules index).valid = true → (modules index).Finite)
    (.invalidArgument "valid module velocity samples and geometry must be finite")
  return Swerve.chassisSpeedsWithSlipRejection (fun index => (modules index).value) moduleLocations
    slipResidualThreshold

theorem chassisSpeedsWithSlipRejection_of_finite {modules : Module → RawMeasurement}
    {slipResidualThreshold : ℝ} (hpos : 0 < slipResidualThreshold)
    (h : ∀ index, (modules index).valid = true → (modules index).Finite) :
    chassisSpeedsWithSlipRejection moduleLocations modules slipResidualThreshold =
      .ok (Swerve.chassisSpeedsWithSlipRejection (fun index => (modules index).value)
        moduleLocations slipResidualThreshold) := by
  rw [chassisSpeedsWithSlipRejection, require_of hpos, ok_bind, checkEach_of h]
  rfl

variable (previous current : Module → RawPosition)

def checkSamples : Except Thrown PUnit :=
  checkEach (fun index => (previous index).valid = true ∧ (current index).valid = true →
    (previous index).Finite ∧ (current index).Finite)
    (.invalidArgument "valid module samples and geometry must be finite")

def wheelTranslationFromPositionDeltas (deltaYaw : Option ℝ) :
    Except Thrown (Option Translation2d) := do
  let deltaYaw ← finite deltaYaw "gyro yaw delta must be finite"
  checkSamples previous current
  return Swerve.wheelTranslationFromPositionDeltas (fun index => (previous index).value)
    (fun index => (current index).value) moduleLocations deltaYaw

def wheelChassisDeltaFromPositionDeltas : Except Thrown (Option ChassisDelta) := do
  checkSamples previous current
  return Swerve.wheelChassisDeltaFromPositionDeltas (fun index => (previous index).value)
    (fun index => (current index).value) moduleLocations

variable {previous current}

theorem checkSamples_of_finite
    (hprevious : ∀ index, (previous index).valid = true → (previous index).Finite)
    (hcurrent : ∀ index, (current index).valid = true → (current index).Finite) :
    checkSamples previous current = .ok ⟨⟩ :=
  checkEach_of (fun index h => ⟨hprevious index h.1, hcurrent index h.2⟩) _

theorem wheelTranslation_of_finite
    (hprevious : ∀ index, (previous index).valid = true → (previous index).Finite)
    (hcurrent : ∀ index, (current index).valid = true → (current index).Finite)
    (deltaYaw : ℝ) :
    wheelTranslationFromPositionDeltas moduleLocations previous current (some deltaYaw) =
      .ok (Swerve.wheelTranslationFromPositionDeltas (fun index => (previous index).value)
        (fun index => (current index).value) moduleLocations deltaYaw) := by
  rw [wheelTranslationFromPositionDeltas, finite_some, ok_bind,
    checkSamples_of_finite hprevious hcurrent]
  rfl

theorem wheelChassisDelta_of_finite
    (hprevious : ∀ index, (previous index).valid = true → (previous index).Finite)
    (hcurrent : ∀ index, (current index).valid = true → (current index).Finite) :
    wheelChassisDeltaFromPositionDeltas moduleLocations previous current =
      .ok (Swerve.wheelChassisDeltaFromPositionDeltas (fun index => (previous index).value)
        (fun index => (current index).value) moduleLocations) := by
  rw [wheelChassisDeltaFromPositionDeltas, checkSamples_of_finite hprevious hcurrent]
  rfl

end Observation

end Throwing

/-- The odometry over baselines that need not be finite. -/
structure RawOdometry where
  moduleLocations : Module → Translation2d
  previousPositions : Module → RawPosition
  pose : Pose2d
  previousYaw : ℝ
  yawOffset : ℝ

namespace RawOdometry

def value (o : RawOdometry) : SwerveOdometry where
  moduleLocations := o.moduleLocations
  previousPositions index := (o.previousPositions index).value
  pose := o.pose
  previousYaw := o.previousYaw
  yawOffset := o.yawOffset

def updateValidBaselines (baselines positions : Module → RawPosition) : Module → RawPosition :=
  fun index =>
    if (positions index).valid || (positions index).rejectedAsSlip then
      { positions index with valid := true, rejectedAsSlip := false }
    else baselines index

def update (o : RawOdometry) (yaw : Option ℝ) (positions : Module → RawPosition) :
    Except Thrown RawOdometry := do
  let yaw ← Throwing.finite yaw "odometry yaw must be finite"
  let deltaYaw := wrapPi (yaw - o.previousYaw)
  let translation ← Throwing.wheelTranslationFromPositionDeltas o.moduleLocations
    o.previousPositions positions (some deltaYaw)
  let delta : BodyDelta := ⟨translation.elim 0 (·.x), translation.elim 0 (·.y), deltaYaw⟩
  return { o with
    pose := integratePose o.pose delta (o.yawOffset + yaw)
    previousPositions := updateValidBaselines o.previousPositions positions
    previousYaw := yaw }

/-- The baselines that are used are finite. -/
def Sound (o : RawOdometry) : Prop :=
  ∀ index, (o.previousPositions index).valid = true → (o.previousPositions index).Finite

variable {o : RawOdometry} {positions : Module → RawPosition}

theorem value_updateValidBaselines (baselines positions : Module → RawPosition) (index : Module) :
    (updateValidBaselines baselines positions index).value =
      Swerve.updateValidBaselines (fun index => (baselines index).value)
        (fun index => (positions index).value) index := by
  unfold updateValidBaselines Swerve.updateValidBaselines
  split_ifs with h h'
  · rfl
  · exact absurd h h'
  · exact absurd ‹_› h
  · rfl

theorem update_of_sound (h : o.Sound)
    (hpositions : ∀ index, (positions index).valid = true ∨
      (positions index).rejectedAsSlip = true → (positions index).Finite) (yaw : ℝ) :
    ∃ next, o.update (some yaw) positions = .ok next ∧
      next.value = o.value.update yaw (fun index => (positions index).value) ∧ next.Sound := by
  have htranslation := Throwing.wheelTranslation_of_finite o.moduleLocations h
    (fun index hvalid => hpositions index (.inl hvalid)) (wrapPi (yaw - o.previousYaw))
  unfold update
  rw [Throwing.finite_some, ok_bind]
  dsimp only
  rw [htranslation]
  refine ⟨_, rfl, ?_, fun index hvalid => ?_⟩
  · unfold value SwerveOdometry.update
    simp only [value_updateValidBaselines]
  · dsimp only [updateValidBaselines] at hvalid ⊢
    split_ifs at hvalid ⊢ with htaken
    · rw [Bool.or_eq_true] at htaken
      exact hpositions index htaken
    · exact h index hvalid

end RawOdometry

end RobotDriver.Swerve

end
