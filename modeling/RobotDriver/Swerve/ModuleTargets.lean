import RobotDriver.Lib.Double
import RobotDriver.Swerve.Kinematics

/-!
# Module targets

From a chassis speed to the speed and the angle of each module, and from an angle to the equivalent
steering target inside the safe range that is nearest to the measurement.
-/

noncomputable section

open scoped Classical

namespace RobotDriver.Swerve

structure SwerveModuleState where
  speed : ℝ := 0
  angle : ℝ := 0

structure OptimizedModuleState where
  speed : ℝ := 0
  targetAngle : ℝ := 0
  error : ℝ := 0
  reversed : Bool := false

def clampTo {α : Type*} [LinearOrder α] (value low high : α) : α :=
  if value < low then low else if high < value then high else value

theorem clampTo_mem {α : Type*} [LinearOrder α] {value low high : α} (h : low ≤ high) :
    low ≤ clampTo value low high ∧ clampTo value low high ≤ high := by
  unfold clampTo
  split_ifs with hlow hhigh
  · exact ⟨le_rfl, h⟩
  · exact ⟨h, le_rfl⟩
  · exact ⟨not_lt.1 hlow, not_lt.1 hhigh⟩

/-- The sign of `sign` on the magnitude of `value`. -/
def copysign (value sign : ℝ) : ℝ := if sign < 0 then -|value| else |value|

theorem abs_copysign (value sign : ℝ) : |copysign value sign| = |value| := by
  unfold copysign
  split_ifs
  · rw [abs_neg, abs_abs]
  · rw [abs_abs]

def hypot (x y : ℝ) : ℝ := √(x ^ 2 + y ^ 2)

section Speeds

def discretizationCoefficient (theta : ℝ) : ℝ :=
  if |theta| < 1 / 10 ^ 9 then 1 - theta * theta / 12 else theta / 2 / Real.tan (theta / 2)

def discretize (speeds : ChassisSpeeds) (dt : ℝ) : ChassisSpeeds :=
  let theta := speeds.omega * dt
  let coefficient := discretizationCoefficient theta
  { vx := coefficient * speeds.vx + theta / 2 * speeds.vy
    vy := -(theta / 2) * speeds.vx + coefficient * speeds.vy
    omega := speeds.omega }

def inverseKinematics (speeds : ChassisSpeeds) (moduleLocations : Module → Translation2d)
    (previousAngles : Module → ℝ) (velocityDeadband : ℝ) (index : Module) : SwerveModuleState :=
  let wheelX := speeds.vx - speeds.omega * (moduleLocations index).y
  let wheelY := speeds.vy + speeds.omega * (moduleLocations index).x
  let speed := hypot wheelX wheelY
  { speed := speed
    angle := if speed < velocityDeadband then previousAngles index else atan2 wheelY wheelX }

def largestSpeed (states : Module → SwerveModuleState) : ℝ :=
  (List.finRange moduleCount).foldl (fun largest index => max largest |(states index).speed|) 0

def desaturateWheelSpeeds (states : Module → SwerveModuleState) (maximumSpeed : ℝ)
    (index : Module) : SwerveModuleState :=
  if largestSpeed states ≤ maximumSpeed then states index
  else
    { states index with speed := (states index).speed * (maximumSpeed / largestSpeed states) }

end Speeds

section Targets

variable (limits : SteeringAngleLimits)

def safeMinimum : ℝ := limits.minimum + limits.margin

def safeMaximum : ℝ := limits.maximum - limits.margin

def nearestEquivalentSteeringTarget (angle currentAngle : ℝ) : Option ℝ :=
  if ¬steeringAngleWithinLimits currentAngle limits then none
  else
    let firstTurn := ⌈(safeMinimum limits - angle) / (2 * Real.pi)⌉
    let lastTurn := ⌊(safeMaximum limits - angle) / (2 * Real.pi)⌋
    if lastTurn < firstTurn then none
    else
      some (angle + clampTo (Double.llround ((currentAngle - angle) / (2 * Real.pi))) firstTurn
        lastTurn * (2 * Real.pi))

/-- Without a target of either direction the source throws. -/
def optimizeModule (desired : SwerveModuleState) (currentAngle : ℝ) (previousReversed : Bool)
    (hysteresis : ℝ) : Option OptimizedModuleState :=
  if ¬steeringMeasurementWithinTolerance currentAngle limits then none
  else
    let planningAngle := clampSteeringMeasurementToSafeRange currentAngle limits
    let forwardBase := wrapPi desired.angle
    let forward := nearestEquivalentSteeringTarget limits forwardBase planningAngle
    let reverse := nearestEquivalentSteeringTarget limits (forwardBase + Real.pi) planningAngle
    let reversed :=
      match (if previousReversed then reverse else forward),
          (if previousReversed then forward else reverse) with
      | none, _ => !previousReversed
      | some _, none => previousReversed
      | some current, some alternative =>
        if |alternative - planningAngle| + hysteresis < |current - planningAngle| then
          !previousReversed
        else previousReversed
    (if reversed then reverse else forward).map fun targetAngle =>
      { speed := if reversed then -desired.speed else desired.speed
        targetAngle := targetAngle
        error := targetAngle - planningAngle
        reversed := reversed }

variable {limits}

theorem safeRange_of_valid (h : validSteeringAngleLimits limits) :
    Real.pi ≤ safeMaximum limits - safeMinimum limits := by
  have := h.2.2.2
  unfold safeMaximum safeMinimum
  linarith

theorem within_clamp (h : validSteeringAngleLimits limits) (angle : ℝ) :
    steeringAngleWithinLimits (clampSteeringMeasurementToSafeRange angle limits) limits := by
  have hrange := safeRange_of_valid h
  have hpi := Real.pi_pos
  unfold safeMaximum safeMinimum at hrange
  unfold clampSteeringMeasurementToSafeRange
  refine ⟨h, ?_, min_le_right _ _⟩
  exact le_min (le_max_right _ _) (by linarith)

theorem tolerance_of_within {angle : ℝ} (h : steeringAngleWithinLimits angle limits) :
    steeringMeasurementWithinTolerance angle limits := by
  obtain ⟨hvalid, hlow, hhigh⟩ := h
  have hmargin := hvalid.1
  have htolerance := hvalid.2.1
  exact ⟨hvalid, by linarith, by linarith⟩

theorem nearest_isSome_iff {angle currentAngle : ℝ}
    (h : steeringAngleWithinLimits currentAngle limits) :
    (nearestEquivalentSteeringTarget limits angle currentAngle).isSome = true ↔
      ∃ turn : ℤ, safeMinimum limits ≤ angle + turn * (2 * Real.pi) ∧
        angle + turn * (2 * Real.pi) ≤ safeMaximum limits := by
  have hturn : 0 < 2 * Real.pi := by positivity
  have hfirst : ∀ turn : ℤ, ⌈(safeMinimum limits - angle) / (2 * Real.pi)⌉ ≤ turn ↔
      safeMinimum limits ≤ angle + turn * (2 * Real.pi) := by
    intro turn
    rw [Int.ceil_le, div_le_iff₀ hturn, sub_le_iff_le_add']
  have hlast : ∀ turn : ℤ, turn ≤ ⌊(safeMaximum limits - angle) / (2 * Real.pi)⌋ ↔
      angle + turn * (2 * Real.pi) ≤ safeMaximum limits := by
    intro turn
    rw [Int.le_floor, le_div_iff₀ hturn, le_sub_iff_add_le']
  simp only [nearestEquivalentSteeringTarget, not_true, if_false, h, ← hfirst, ← hlast]
  constructor
  · intro hsome
    split_ifs at hsome with hempty
    · exact absurd hsome (by simp)
    · exact ⟨_, le_rfl, not_lt.1 hempty⟩
  · rintro ⟨turn, hlow, hhigh⟩
    rw [if_neg (not_lt.2 (hlow.trans hhigh))]
    rfl

theorem exists_half_turn (h : validSteeringAngleLimits limits) (angle : ℝ) :
    ∃ turn : ℤ, safeMinimum limits ≤ angle + turn * Real.pi ∧
      angle + turn * Real.pi ≤ safeMaximum limits := by
  have hrange := safeRange_of_valid h
  refine ⟨⌈(safeMinimum limits - angle) / Real.pi⌉, ?_, ?_⟩
  · have hceil := Int.le_ceil ((safeMinimum limits - angle) / Real.pi)
    rw [div_le_iff₀ Real.pi_pos] at hceil
    linarith
  · have hceil := Int.ceil_lt_add_one ((safeMinimum limits - angle) / Real.pi)
    have hstep := mul_lt_mul_of_pos_right hceil Real.pi_pos
    rw [add_mul, div_mul_cancel₀ _ Real.pi_ne_zero] at hstep
    linarith

theorem nearest_forward_or_reverse {currentAngle : ℝ}
    (h : steeringAngleWithinLimits currentAngle limits) (angle : ℝ) :
    (nearestEquivalentSteeringTarget limits angle currentAngle).isSome = true ∨
      (nearestEquivalentSteeringTarget limits (angle + Real.pi) currentAngle).isSome = true := by
  obtain ⟨turn, hlow, hhigh⟩ := exists_half_turn h.1 angle
  rw [nearest_isSome_iff h, nearest_isSome_iff h]
  rcases Int.even_or_odd' turn with ⟨half, rfl | rfl⟩
  · left
    refine ⟨half, ?_, ?_⟩ <;> push_cast at hlow hhigh <;> linarith
  · right
    refine ⟨half, ?_, ?_⟩ <;> push_cast at hlow hhigh <;> linarith

theorem optimizeModule_isSome {currentAngle : ℝ}
    (h : steeringMeasurementWithinTolerance currentAngle limits) (desired : SwerveModuleState)
    (previousReversed : Bool) (hysteresis : ℝ) :
    (optimizeModule limits desired currentAngle previousReversed hysteresis).isSome = true := by
  have htarget := nearest_forward_or_reverse (within_clamp h.1 currentAngle) (wrapPi desired.angle)
  simp only [optimizeModule, h, not_true, if_false, Option.isSome_map]
  revert htarget
  generalize nearestEquivalentSteeringTarget limits (wrapPi desired.angle) _ = forward
  generalize nearestEquivalentSteeringTarget limits (wrapPi desired.angle + Real.pi) _ = reverse
  intro htarget
  cases previousReversed <;> cases forward <;> cases reverse <;> simp_all <;> split_ifs <;> rfl

end Targets

end RobotDriver.Swerve

end
