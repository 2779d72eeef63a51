import RobotDriver.Swerve.ModuleTargets

/-!
# Steering setpoints

`SwerveSetpointGenerator`: one steering target and one speed per module and tick, under a slew
limit, an acceleration limit or a jerk limit. An infinite limit is `none`.
-/

noncomputable section

open scoped Classical

namespace RobotDriver.Swerve

structure SwerveSetpointParameters where
  alignmentThreshold : ℝ
  flipHysteresis : ℝ
  maximumSteeringSlew : ℝ
  translationHeadingEpsilon : ℝ
  steeringAngleDeadband : ℝ
  maximumSteeringAcceleration : Option ℝ
  maximumSteeringJerk : Option ℝ
  /-- Without one the threshold releases, too. -/
  alignmentRelease : Option ℝ

structure SwerveSetpointParameters.Valid (p : SwerveSetpointParameters) : Prop where
  alignmentThreshold : 0 ≤ p.alignmentThreshold
  alignmentRelease : ∀ release ∈ p.alignmentRelease, 0 ≤ release ∧ release ≤ p.alignmentThreshold
  flipHysteresis : 0 ≤ p.flipHysteresis ∧ p.flipHysteresis < Real.pi / 2
  maximumSteeringSlew : 0 < p.maximumSteeringSlew
  maximumSteeringAcceleration : ∀ acceleration ∈ p.maximumSteeringAcceleration, 0 < acceleration
  maximumSteeringJerk : ∀ jerk ∈ p.maximumSteeringJerk,
    0 < jerk ∧ p.maximumSteeringAcceleration.isSome = true
  translationHeadingEpsilon :
    0 ≤ p.translationHeadingEpsilon ∧ p.translationHeadingEpsilon < Real.pi / 2
  steeringAngleDeadband : 0 ≤ p.steeringAngleDeadband ∧ p.steeringAngleDeadband < Real.pi / 2

structure AlignmentResult where
  modules : Module → OptimizedModuleState := fun _ => {}
  maximumError : ℝ := 0
  gated : Bool := false

def AlignmentResult.record (result : AlignmentResult) (index : Module)
    (state : OptimizedModuleState) (error : ℝ) : AlignmentResult :=
  { result with
    modules := Function.update result.modules index state
    maximumError := max result.maximumError |error| }

structure SwerveSetpointGenerator where
  reversed : Module → Bool := fun _ => false
  translationReversed : Option Bool := none
  previousTargets : Module → Option ℝ := fun _ => none
  steeringRates : Module → ℝ := fun _ => 0
  steeringAccelerations : Module → ℝ := fun _ => 0
  gated : Bool := false

/-- The rate and the acceleration that a step ends with, and the way it takes. -/
structure SteeringStep where
  rate : ℝ
  acceleration : ℝ
  step : ℝ

section Profiles

/-- The way until rest when braking now: the acceleration falls to the peak, is held and returns. -/
def stoppingDistance (v a maximumAcceleration jerk : ℝ) : ℝ :=
  if v ≤ 0 ∧ a ≤ 0 then 0
  else if a < 0 ∧ v ≤ a * a / (2 * jerk) then
    let t := -a / jerk
    max 0 (v * t + a * t * t / 2 + jerk * t * t * t / 6)
  else
    let square := jerk * v + a * a / 2
    -- The root of a negative number is not smaller than the limit.
    let peak := if square < 0 then maximumAcceleration else min maximumAcceleration (√square)
    let t1 := (a + peak) / jerk
    let v1 := v + a * t1 - jerk * t1 * t1 / 2
    let d1 := v * t1 + a * t1 * t1 / 2 - jerk * t1 * t1 * t1 / 6
    let t2 := max 0 ((v1 - peak * peak / (2 * jerk)) / peak)
    let d2 := v1 * t2 - peak * t2 * t2 / 2
    let d3 := peak * peak * peak / (6 * jerk * jerk)
    d1 + d2 + d3

def jerkLimitedStep (maximumAcceleration jerk maximumRate rate acceleration delta dt : ℝ) :
    SteeringStep :=
  let direction : ℝ := if 0 ≤ delta then 1 else -1
  let remaining := |delta|
  let v := rate * direction
  let a := acceleration * direction
  if remaining = 0 ∧ v = 0 ∧ a = 0 then ⟨rate, acceleration, 0⟩
  else
    let jerkStep := jerk * dt
    let cruiseAcceleration :=
      min maximumAcceleration (√(2 * jerk * max (maximumRate - v) 0))
    let wantedA := clampTo cruiseAcceleration (a - jerkStep) (a + jerkStep)
    let wantedV := v + wantedA * dt
    let wantedStep := (v + wantedV) / 2 * dt
    let candidate : SteeringStep :=
      if remaining - wantedStep < stoppingDistance wantedV wantedA maximumAcceleration jerk then
        let brakingA := max (a - jerkStep) (-maximumAcceleration)
        let brakingV := v + brakingA * dt
        ⟨brakingV, brakingA, (v + max brakingV 0) / 2 * dt⟩
      else ⟨wantedV, wantedA, wantedStep⟩
    -- Arrived at rest, or never past the goal.
    let next : SteeringStep :=
      if candidate.rate ≤ 0 ∧ 0 ≤ v ∧ remaining ≤ candidate.step + 1 / 10 ^ 12 then
        ⟨0, 0, remaining⟩
      else if remaining ≤ candidate.step then ⟨0, 0, remaining⟩
      else candidate
    ⟨clampTo next.rate (-maximumRate) maximumRate * direction, next.acceleration * direction,
      next.step * direction⟩

def jerkLimitedStop (maximumAcceleration jerk rate acceleration dt : ℝ) : SteeringStep :=
  if rate = 0 then ⟨0, 0, 0⟩
  else
    let wanted := copysign (min maximumAcceleration (√(2 * jerk * |rate|))) (-rate)
    let next := clampTo wanted (acceleration - jerk * dt) (acceleration + jerk * dt)
    let nextRate := rate + next * dt
    if nextRate * rate ≤ 0 then ⟨0, 0, 0⟩ else ⟨nextRate, next, nextRate * dt⟩

/-- A limited acceleration slows a rate down over the tick; an unlimited one stops it. -/
def slowedRate (maximumAcceleration : Option ℝ) (rate dt : ℝ) : ℝ :=
  copysign (maximumAcceleration.elim 0 fun limit => max 0 (|rate| - limit * dt)) rate

/-- Never faster than the slew limit or the braking distance allows. -/
def trapezoidalStep (maximumAcceleration : Option ℝ) (maximumRate rate delta dt : ℝ) :
    SteeringStep :=
  let wanted :=
    if delta = 0 then 0
    else copysign (maximumAcceleration.elim maximumRate fun limit =>
      min maximumRate (√(2 * limit * |delta|))) delta
  let limited := maximumAcceleration.elim wanted fun limit =>
    clampTo wanted (rate - limit * dt) (rate + limit * dt)
  if delta ≠ 0 ∧ 1 < limited * dt / delta then ⟨delta / dt, 0, delta⟩
  else ⟨limited, 0, limited * dt⟩

end Profiles

namespace SwerveSetpointGenerator

def reset (targets : Module → Option ℝ) : SwerveSetpointGenerator where
  previousTargets := targets

variable (p : SwerveSetpointParameters) (limits : Module → SteeringAngleLimits)
  (g : SwerveSetpointGenerator)

section Translation

variable (desired : Module → SwerveModuleState) (planning : Module → ℝ)

/-- The largest speed and the heading of the first module that has it. -/
def fastest : ℝ × ℝ :=
  (List.finRange moduleCount).foldl (fun fastest index =>
    if fastest.1 < |(desired index).speed| then (|(desired index).speed|, (desired index).angle)
    else fastest) (-1, 0)

def maximumHeadingDelta : ℝ :=
  (List.finRange moduleCount).foldl (fun largest index =>
    max largest |wrapPi ((desired index).angle - (fastest desired).2)|) 0

def translationRequested : Prop :=
  1 / 10 ^ 6 < (fastest desired).1 ∧ maximumHeadingDelta desired ≤ p.translationHeadingEpsilon

def translationTarget (reversed : Bool) (index : Module) : Option ℝ :=
  nearestEquivalentSteeringTarget (limits index)
    (wrapPi (fastest desired).2 + if reversed then Real.pi else 0) (planning index)

def translationFeasible (reversed : Bool) : Prop :=
  translationRequested p desired ∧
    ∀ index, (translationTarget limits desired planning reversed index).isSome = true

def translationCost (reversed : Bool) : ℝ :=
  (List.finRange moduleCount).foldl (fun cost index =>
    cost + (translationTarget limits desired planning reversed index).elim 0 fun target =>
      |target - planning index|) 0

/-- The direction in which all modules translate together, if there is one. -/
def translationBranch : Option Bool :=
  if translationFeasible p limits desired planning false then
    if translationFeasible p limits desired planning true then
      match g.translationReversed with
      | none =>
        some (decide (translationCost limits desired planning true <
          translationCost limits desired planning false))
      | some reversed =>
        if translationCost limits desired planning (!reversed) +
            p.flipHysteresis * moduleCount < translationCost limits desired planning reversed then
          some !reversed
        else some reversed
    else some false
  else if translationFeasible p limits desired planning true then some true
  else none

end Translation

section Modules

variable (index : Module)

def setModule (target : ℝ) (step : SteeringStep) : SwerveSetpointGenerator :=
  { g with
    previousTargets := Function.update g.previousTargets index (some target)
    steeringRates := Function.update g.steeringRates index step.rate
    steeringAccelerations := Function.update g.steeringAccelerations index step.acceleration }

/-- The target so far, taken up at rest where there is none. -/
def started (fallback : ℝ) : SwerveSetpointGenerator × ℝ :=
  match g.previousTargets index with
  | some target => (g, target)
  | none => (g.setModule index fallback ⟨0, 0, 0⟩, fallback)

def holdStep (dt : ℝ) : SteeringStep :=
  match p.maximumSteeringJerk with
  | some jerk =>
    jerkLimitedStop (p.maximumSteeringAcceleration.getD 0) jerk (g.steeringRates index)
      (g.steeringAccelerations index) dt
  | none =>
    let rate := slowedRate p.maximumSteeringAcceleration (g.steeringRates index) dt
    ⟨rate, g.steeringAccelerations index, rate * dt⟩

def followStep (delta dt : ℝ) : SteeringStep :=
  match p.maximumSteeringJerk with
  | some jerk =>
    jerkLimitedStep (p.maximumSteeringAcceleration.getD 0) jerk p.maximumSteeringSlew
      (g.steeringRates index) (g.steeringAccelerations index) delta dt
  | none =>
    { trapezoidalStep p.maximumSteeringAcceleration p.maximumSteeringSlew
        (g.steeringRates index) delta dt with
      acceleration := g.steeringAccelerations index }

/-- A steering rate in flight is ramped to zero, then the target that was reached is latched. -/
def holdModule (result : AlignmentResult) (desired : SwerveModuleState) (planning dt : ℝ) :
    SwerveSetpointGenerator × AlignmentResult :=
  let (g, previous) := g.started index desired.angle
  let step := g.holdStep p index dt
  let hold := previous + step.step
  (g.setModule index hold step,
    result.record index ⟨0, hold, hold - planning, g.reversed index⟩
      (hold - planning))

def followModule (result : AlignmentResult) (optimized : OptimizedModuleState)
    (planning dt : ℝ) : SwerveSetpointGenerator × AlignmentResult :=
  let g := { g with reversed := Function.update g.reversed index optimized.reversed }
  let (g, previous) := g.started index planning
  let delta := optimized.targetAngle - previous
  let step := g.followStep p index (if |delta| < p.steeringAngleDeadband then 0 else delta) dt
  let limitedTarget := previous + step.step
  (g.setModule index limitedTarget step,
    result.record index
      { optimized with
        targetAngle := limitedTarget
        speed := optimized.speed * max 0 (Real.cos optimized.error) } optimized.error)

end Modules

section Generate

variable (desired : Module → SwerveModuleState) (planning : Module → ℝ)

def optimized (reversal : Option Bool) (index : Module) : Option OptimizedModuleState :=
  match reversal with
  | some reversed =>
    let targetAngle := (translationTarget limits desired planning reversed index).getD 0
    some {
      speed := if reversed then -(desired index).speed else (desired index).speed
      targetAngle := targetAngle
      error := targetAngle - planning index
      reversed := reversed }
  | none =>
    optimizeModule (limits index) (desired index) (planning index) (g.reversed index)
      p.flipHysteresis

/-- One module of the tick; an exception keeps what the modules before it have changed. -/
def generateModule (reversal : Option Bool) (dt : ℝ) (hold : Module → Bool)
    (state : SwerveSetpointGenerator × Option AlignmentResult) (index : Module) :
    SwerveSetpointGenerator × Option AlignmentResult :=
  match state with
  | (g, none) => (g, none)
  | (g, some result) =>
    if hold index then
      (g.holdModule p index result (desired index) (planning index) dt).map id some
    else
      match g.optimized p limits desired planning reversal index with
      | none => (g, none)
      | some optimized => (g.followModule p index result optimized (planning index) dt).map id some

/-- All modules gate together, with a hysteresis between the threshold and the release. -/
def gate (result : AlignmentResult) : SwerveSetpointGenerator × AlignmentResult :=
  let threshold :=
    if g.gated then p.alignmentRelease.getD p.alignmentThreshold else p.alignmentThreshold
  let gated := decide (threshold < result.maximumError)
  ({ g with gated := gated },
    { result with
      modules := if gated then fun index => { result.modules index with speed := 0 }
        else result.modules
      gated := gated })

variable (measured : Module → ℝ) (dt : ℝ) (hold : Module → Bool)

def generate : SwerveSetpointGenerator × Option AlignmentResult :=
  if dt ≤ 0 ∨ ∃ index, ¬steeringMeasurementWithinTolerance (measured index) (limits index) then
    (g, none)
  else
    let planning := fun index =>
      clampSteeringMeasurementToSafeRange (measured index) (limits index)
    let reversal := g.translationBranch p limits desired planning
    match (List.finRange moduleCount).foldl
        (generateModule p limits desired planning reversal dt hold)
        ({ g with translationReversed := reversal }, some {}) with
    | (g, none) => (g, none)
    | (g, some result) => (g.gate p result).map id some

variable {limits measured dt}

theorem generate_isSome (hdt : 0 < dt)
    (h : ∀ index, steeringMeasurementWithinTolerance (measured index) (limits index)) :
    (g.generate p limits desired measured dt hold).2.isSome = true := by
  have hstart : ¬(dt ≤ 0 ∨ ∃ index,
      ¬steeringMeasurementWithinTolerance (measured index) (limits index)) := by
    rw [not_or, not_exists]
    exact ⟨not_le.2 hdt, fun index => not_not.2 (h index)⟩
  rw [generate, if_neg hstart]
  dsimp only
  generalize g.translationBranch p limits desired _ = reversal
  generalize hplanning : (fun index => clampSteeringMeasurementToSafeRange (measured index)
    (limits index)) = planning
  have hplan : ∀ index, steeringMeasurementWithinTolerance (planning index) (limits index) := by
    intro index
    rw [← hplanning]
    exact tolerance_of_within (within_clamp (h index).1 _)
  have hloop : ∀ (indices : List Module) (state : SwerveSetpointGenerator × Option AlignmentResult),
      state.2.isSome = true →
      (indices.foldl (generateModule p limits desired planning reversal dt hold)
        state).2.isSome = true := by
    intro indices
    induction indices with
    | nil => exact fun _ hsome => hsome
    | cons index indices ih =>
      rintro ⟨g, result⟩ hsome
      refine ih _ ?_
      obtain ⟨result, rfl⟩ := Option.isSome_iff_exists.1 hsome
      unfold generateModule
      split_ifs
      · rfl
      · have htarget : (g.optimized p limits desired planning reversal index).isSome = true := by
          unfold optimized
          split
          · rfl
          · exact optimizeModule_isSome (hplan index) _ _ _
        obtain ⟨optimized, hoptimized⟩ := Option.isSome_iff_exists.1 htarget
        simp only [hoptimized]
        rfl
  have hresult := hloop (List.finRange moduleCount)
    ({ g with translationReversed := reversal }, some {}) rfl
  split
  · simp_all
  · rfl

end Generate

end SwerveSetpointGenerator

end RobotDriver.Swerve

end
