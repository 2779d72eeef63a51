import RobotDriver.Lib.Fallible
import RobotDriver.Swerve.ModuleTargets

/-!
# Exceptions of the swerve kinematics

The checks that precede a `throw`, with the texts that are thrown. A double that is not finite is
`none`; past its checks a function is the one over the real numbers.
-/

noncomputable section

open scoped Classical

namespace RobotDriver.Swerve

inductive Thrown
  | invalidArgument (what : String)
  | outOfRange (what : String)
  | runtimeError (what : String)
  deriving DecidableEq

/-- A module state as it is passed. -/
structure RawModuleState where
  speed : Option ℝ
  angle : Option ℝ

def SwerveModuleState.raw (state : SwerveModuleState) : RawModuleState :=
  ⟨some state.speed, some state.angle⟩

namespace Throwing

def finite (value : Option ℝ) (what : String) : Except Thrown ℝ :=
  match value with
  | some value => .ok value
  | none => .error (.invalidArgument what)

@[simp] theorem finite_some (value : ℝ) (what : String) : finite (some value) what = .ok value :=
  rfl

def validateState (state : RawModuleState) : Except Thrown SwerveModuleState := do
  let speed ← finite state.speed "swerve module state must be finite"
  let angle ← finite state.angle "swerve module state must be finite"
  return ⟨speed, angle⟩

@[simp] theorem validateState_raw (state : SwerveModuleState) :
    validateState state.raw = .ok state := rfl

def clampSteeringMeasurementToSafeRange (angle : Option ℝ) (limits : SteeringAngleLimits) :
    Except Thrown ℝ :=
  match angle with
  | some angle =>
    if validSteeringAngleLimits limits then
      .ok (Swerve.clampSteeringMeasurementToSafeRange angle limits)
    else .error (.invalidArgument "steering measurement and limits must be valid")
  | none => .error (.invalidArgument "steering measurement and limits must be valid")

theorem clamp_of_valid {limits : SteeringAngleLimits} (h : validSteeringAngleLimits limits)
    (angle : ℝ) : clampSteeringMeasurementToSafeRange (some angle) limits =
      .ok (Swerve.clampSteeringMeasurementToSafeRange angle limits) := if_pos h

def withinTolerance (angle : Option ℝ) (limits : SteeringAngleLimits) : Prop :=
  ∃ value ∈ angle, steeringMeasurementWithinTolerance value limits

def optimizeModule (desired : RawModuleState) (currentAngle : Option ℝ) (previousReversed : Bool)
    (hysteresis : ℝ) (limits : SteeringAngleLimits) : Except Thrown OptimizedModuleState := do
  let desired ← validateState desired
  require (0 ≤ hysteresis ∧ hysteresis < Real.pi / 2)
    (.invalidArgument "flip hysteresis must be finite and in [0, pi/2)")
  require (validSteeringAngleLimits limits)
    (.invalidArgument "steering angle limits must span [pi, 2*pi]")
  require (withinTolerance currentAngle limits)
    (.outOfRange "current steering angle exceeds physical limit tolerance")
  let planningAngle ← clampSteeringMeasurementToSafeRange currentAngle limits
  match Swerve.optimizeModule limits desired planningAngle previousReversed hysteresis with
  | some optimized => return optimized
  | none => throw (.outOfRange "no equivalent steering target is inside mechanical limits")

theorem optimizeModule_eq {limits : SteeringAngleLimits} {currentAngle hysteresis : ℝ}
    (hangle : steeringMeasurementWithinTolerance currentAngle limits) (hnonneg : 0 ≤ hysteresis)
    (hlt : hysteresis < Real.pi / 2) (desired : SwerveModuleState) (previousReversed : Bool) :
    ∃ optimized, optimizeModule desired.raw (some currentAngle) previousReversed hysteresis limits =
        .ok optimized ∧
      Swerve.optimizeModule limits desired
        (Swerve.clampSteeringMeasurementToSafeRange currentAngle limits) previousReversed
        hysteresis = some optimized := by
  have hwithin := within_clamp hangle.1 currentAngle
  obtain ⟨optimized, hoptimized⟩ := Option.isSome_iff_exists.1
    (optimizeModule_isSome (tolerance_of_within hwithin) desired previousReversed hysteresis)
  refine ⟨optimized, ?_, hoptimized⟩
  have htolerance : withinTolerance (some currentAngle) limits := ⟨currentAngle, rfl, hangle⟩
  simp only [optimizeModule, validateState_raw, require, hnonneg, hlt, hangle.1, htolerance,
    clamp_of_valid hangle.1, and_self, if_true]
  change (match Swerve.optimizeModule limits desired
    (Swerve.clampSteeringMeasurementToSafeRange currentAngle limits) previousReversed
    hysteresis with
    | some optimized => (Except.ok optimized : Except Thrown OptimizedModuleState)
    | none => _) = _
  rw [hoptimized]

end Throwing

end RobotDriver.Swerve

end
