import RobotDriver.Lib.LabelledRun
import RobotDriver.Swerve.SetpointGenerator

/-!
# Calls of the setpoint generator, module by module

A call of `generate` moves every module by one step of its own, whatever the other modules do.
-/

noncomputable section

open scoped Classical

namespace RobotDriver.Swerve

structure SteeringCall where
  desired : Module → SwerveModuleState
  measured : Module → ℝ
  dt : ℝ
  hold : Module → Bool := fun _ => false

namespace SteeringCall

variable (limits : Module → SteeringAngleLimits) (call : SteeringCall)

structure Valid : Prop where
  dt_pos : 0 < call.dt
  tolerance : ∀ index, steeringMeasurementWithinTolerance (call.measured index) (limits index)

def planning (index : Module) : ℝ :=
  clampSteeringMeasurementToSafeRange (call.measured index) (limits index)

variable {limits call}

theorem Valid.planning (h : call.Valid limits) (index : Module) :
    steeringMeasurementWithinTolerance (call.planning limits index) (limits index) :=
  tolerance_of_within (within_clamp (h.tolerance index).1 _)

end SteeringCall

namespace SwerveSetpointGenerator

variable (p : SwerveSetpointParameters) (limits : Module → SteeringAngleLimits)

/-- The state behind a call. -/
def call (g : SwerveSetpointGenerator) (call : SteeringCall) : SwerveSetpointGenerator :=
  (g.generate p limits call.desired call.measured call.dt call.hold).1

/-- A module without a target is at rest. -/
def Fresh (g : SwerveSetpointGenerator) : Prop :=
  ∀ index, g.previousTargets index = none →
    g.steeringRates index = 0 ∧ g.steeringAccelerations index = 0

theorem fresh_reset (targets : Module → Option ℝ) : (reset targets).Fresh :=
  fun _ _ => ⟨rfl, rfl⟩

section Step

variable (g : SwerveSetpointGenerator) (c : SteeringCall) (index : Module)

/-- The target that the call starts from. -/
def target : ℝ :=
  (g.previousTargets index).getD
    (if c.hold index then (c.desired index).angle else c.planning limits index)

/-- The angle that a module moves towards that is not held. -/
def goal (reversal : Option Bool) : ℝ :=
  ((g.optimized p limits c.desired (c.planning limits) reversal index).map (·.targetAngle)).getD 0

/-- The way to the goal. -/
def delta (reversal : Option Bool) : ℝ := g.goal p limits c index reversal - g.target limits c index

/-- The way to the goal, zero inside the deadband. -/
def targetDelta (reversal : Option Bool) : ℝ :=
  if |g.delta p limits c index reversal| < p.steeringAngleDeadband then 0
  else g.delta p limits c index reversal

def moduleStep (reversal : Option Bool) : SteeringStep :=
  if c.hold index then g.holdStep p index c.dt
  else g.followStep p index (g.targetDelta p limits c index reversal) c.dt

end Step

/-- What the generator keeps of one module. -/
def kept (g : SwerveSetpointGenerator) (index : Module) : Option ℝ × ℝ × ℝ × Bool :=
  (g.previousTargets index, g.steeringRates index, g.steeringAccelerations index,
    g.reversed index)

variable {p limits} {g g' : SwerveSetpointGenerator} {c : SteeringCall} {index : Module}

theorem Fresh.started (h : g.Fresh) (index : Module) (fallback : ℝ) :
    ∃ g', g.started index fallback = (g', (g.previousTargets index).getD fallback) ∧
      (∀ other, other ≠ index → g'.kept other = g.kept other) ∧
      g'.steeringRates index = g.steeringRates index ∧
      g'.steeringAccelerations index = g.steeringAccelerations index ∧
      g'.reversed index = g.reversed index := by
  unfold SwerveSetpointGenerator.started
  cases htarget : g.previousTargets index with
  | some target => exact ⟨g, rfl, fun _ _ => rfl, rfl, rfl, rfl⟩
  | none =>
    obtain ⟨hrate, hacceleration⟩ := h index htarget
    refine ⟨_, rfl, fun other hother => ?_, ?_, ?_, rfl⟩
    · simp [kept, setModule, hother]
    · simp [setModule, hrate]
    · simp [setModule, hacceleration]

theorem holdStep_congr (hrate : g'.steeringRates index = g.steeringRates index)
    (hacceleration : g'.steeringAccelerations index = g.steeringAccelerations index) (dt : ℝ) :
    g'.holdStep p index dt = g.holdStep p index dt := by
  unfold holdStep
  rw [hrate, hacceleration]

theorem followStep_congr (hrate : g'.steeringRates index = g.steeringRates index)
    (hacceleration : g'.steeringAccelerations index = g.steeringAccelerations index)
    (delta dt : ℝ) : g'.followStep p index delta dt = g.followStep p index delta dt := by
  unfold followStep
  rw [hrate, hacceleration]

/-- Where a step has taken a module. -/
structure Moved (g g' : SwerveSetpointGenerator) (index : Module) (target : ℝ)
    (step : SteeringStep) : Prop where
  target : g'.previousTargets index = some (target + step.step)
  rate : g'.steeringRates index = step.rate
  acceleration : g'.steeringAccelerations index = step.acceleration
  other : ∀ other, other ≠ index → g'.kept other = g.kept other

theorem moved_setModule {started : SwerveSetpointGenerator}
    (hother : ∀ other, other ≠ index → started.kept other = g.kept other) (target : ℝ)
    (step : SteeringStep) :
    Moved g (started.setModule index (target + step.step) step) index target step := by
  refine ⟨by simp [setModule], by simp [setModule], by simp [setModule], fun other hne => ?_⟩
  rw [← hother other hne]
  simp [kept, setModule, hne]

theorem holdModule_moved (h : g.Fresh) (result : AlignmentResult) (desired : SwerveModuleState)
    (planning dt : ℝ) :
    Moved g (g.holdModule p index result desired planning dt).1 index
      ((g.previousTargets index).getD desired.angle) (g.holdStep p index dt) := by
  obtain ⟨started, heq, hother, hrate, hacceleration, -⟩ := h.started index desired.angle
  unfold holdModule
  rw [heq]
  dsimp only
  rw [holdStep_congr hrate hacceleration]
  exact moved_setModule hother _ _

theorem followModule_moved (h : g.Fresh) (index : Module) (result : AlignmentResult)
    (optimized : OptimizedModuleState) (planning dt : ℝ) :
    let target := (g.previousTargets index).getD planning
    let delta := optimized.targetAngle - target
    Moved g (g.followModule p index result optimized planning dt).1 index target
      (g.followStep p index (if |delta| < p.steeringAngleDeadband then 0 else delta) dt) := by
  let turned : SwerveSetpointGenerator :=
    { g with reversed := Function.update g.reversed index optimized.reversed }
  have hturned : turned.Fresh := h
  obtain ⟨started, heq, hother, hrate, hacceleration, -⟩ := hturned.started index planning
  have hkept : ∀ other, other ≠ index → started.kept other = g.kept other := by
    intro other hne
    rw [hother other hne]
    simp [kept, turned, hne]
  unfold followModule
  dsimp only
  rw [show SwerveSetpointGenerator.started { g with
    reversed := Function.update g.reversed index optimized.reversed } index planning =
      (started, (g.previousTargets index).getD planning) from heq]
  dsimp only
  rw [followStep_congr (g := g) hrate hacceleration]
  exact moved_setModule hkept _ _

theorem Moved.fresh (h : g.Fresh) {target : ℝ} {step : SteeringStep}
    (hmoved : Moved g g' index target step) : g'.Fresh := by
  intro other hnone
  by_cases hother : other = index
  · subst hother
    rw [hmoved.target] at hnone
    cases hnone
  · have hkept := hmoved.other other hother
    simp only [kept, Prod.mk.injEq] at hkept
    rw [hkept.2.1, hkept.2.2.1]
    exact h other (hkept.1.symm.trans hnone)

theorem generateModule_moved (h : g.Fresh) (hvalid : c.Valid limits) (reversal : Option Bool)
    (result : AlignmentResult) (index : Module) :
    ∃ g' result', generateModule p limits c.desired (c.planning limits) reversal c.dt c.hold
        (g, some result) index = (g', some result') ∧
      Moved g g' index (g.target limits c index) (g.moduleStep p limits c index reversal) := by
  unfold generateModule target moduleStep
  dsimp only
  by_cases hhold : c.hold index = true
  · rw [if_pos hhold, if_pos hhold, if_pos hhold]
    exact ⟨_, _, rfl, holdModule_moved h result (c.desired index) (c.planning limits index) c.dt⟩
  · rw [if_neg hhold, if_neg hhold, if_neg hhold]
    have htarget : (g.optimized p limits c.desired (c.planning limits) reversal index).isSome =
        true := by
      unfold optimized
      split
      · rfl
      · exact optimizeModule_isSome (hvalid.planning index) _ _ _
    obtain ⟨optimized, hoptimized⟩ := Option.isSome_iff_exists.1 htarget
    simp only [hoptimized]
    refine ⟨_, _, rfl, ?_⟩
    have hmoved := followModule_moved (p := p) h index result optimized (c.planning limits index)
      c.dt
    unfold targetDelta delta goal target
    rw [hoptimized, if_neg hhold]
    exact hmoved

theorem target_congr (h : g'.kept index = g.kept index) :
    g'.target limits c index = g.target limits c index := by
  unfold target
  rw [show g'.previousTargets index = g.previousTargets index from congrArg Prod.fst h]

theorem moduleStep_congr (h : g'.kept index = g.kept index) (reversal : Option Bool) :
    g'.moduleStep p limits c index reversal = g.moduleStep p limits c index reversal := by
  have htarget : g'.target limits c index = g.target limits c index := target_congr h
  simp only [kept, Prod.mk.injEq] at h
  obtain ⟨-, hrate, hacceleration, hreversed⟩ := h
  have hgoal : g'.goal p limits c index reversal = g.goal p limits c index reversal := by
    unfold goal optimized
    rw [hreversed]
  unfold moduleStep targetDelta delta
  rw [hgoal, htarget, holdStep_congr hrate hacceleration, followStep_congr hrate hacceleration]

/-- The modules of the list, each moved by its own step, and the others kept. -/
structure AllMoved (p : SwerveSetpointParameters) (limits : Module → SteeringAngleLimits)
    (c : SteeringCall) (reversal : Option Bool) (g g' : SwerveSetpointGenerator)
    (indices : List Module) : Prop where
  fresh : g'.Fresh
  moved : ∀ index ∈ indices, g'.previousTargets index =
      some (g.target limits c index + (g.moduleStep p limits c index reversal).step) ∧
    g'.steeringRates index = (g.moduleStep p limits c index reversal).rate ∧
    g'.steeringAccelerations index = (g.moduleStep p limits c index reversal).acceleration
  other : ∀ index, index ∉ indices → g'.kept index = g.kept index

theorem foldl_generateModule (hvalid : c.Valid limits) (reversal : Option Bool)
    {indices : List Module} (hnodup : indices.Nodup) (h : g.Fresh) (result : AlignmentResult) :
    ∃ g' result', indices.foldl
        (generateModule p limits c.desired (c.planning limits) reversal c.dt c.hold)
        (g, some result) = (g', some result') ∧ AllMoved p limits c reversal g g' indices := by
  induction indices generalizing g result with
  | nil => exact ⟨g, result, rfl, h, fun _ hmem => absurd hmem List.not_mem_nil, fun _ _ => rfl⟩
  | cons first rest ih =>
    obtain ⟨hfirst, hrest⟩ := List.nodup_cons.1 hnodup
    obtain ⟨g₁, result₁, hstep, hmoved⟩ := generateModule_moved (p := p) h hvalid reversal result
      first
    obtain ⟨g₂, result₂, hfold, hall⟩ := ih hrest (hmoved.fresh h) result₁
    rw [List.foldl_cons, hstep]
    refine ⟨g₂, result₂, hfold, hall.fresh, fun index hmem => ?_, fun index hmem => ?_⟩
    · rcases List.mem_cons.1 hmem with rfl | hmem
      · have hkept := hall.other index hfirst
        simp only [kept, Prod.mk.injEq] at hkept
        rw [hkept.1, hkept.2.1, hkept.2.2.1]
        exact ⟨hmoved.target, hmoved.rate, hmoved.acceleration⟩
      · have hkept := hmoved.other index fun heq => hfirst (heq ▸ hmem)
        have hindex := hall.moved index hmem
        rw [target_congr hkept, moduleStep_congr hkept] at hindex
        exact hindex
    · rw [List.mem_cons, not_or] at hmem
      exact (hall.other index hmem.2).trans (hmoved.other index hmem.1)

theorem call_moved (hvalid : c.Valid limits) (h : g.Fresh) :
    (g.call p limits c).Fresh ∧ ∀ index,
      let step := g.moduleStep p limits c index
        (g.translationBranch p limits c.desired (c.planning limits))
      (g.call p limits c).previousTargets index = some (g.target limits c index + step.step) ∧
        (g.call p limits c).steeringRates index = step.rate ∧
        (g.call p limits c).steeringAccelerations index = step.acceleration := by
  let reversal := g.translationBranch p limits c.desired (c.planning limits)
  have hstart : ¬(c.dt ≤ 0 ∨ ∃ index,
      ¬steeringMeasurementWithinTolerance (c.measured index) (limits index)) := by
    rw [not_or, not_exists]
    exact ⟨not_le.2 hvalid.dt_pos, fun index => not_not.2 (hvalid.tolerance index)⟩
  obtain ⟨g', result, hfold, hall⟩ := foldl_generateModule (p := p)
    (g := { g with translationReversed := reversal }) hvalid reversal (List.nodup_finRange _) h {}
  have hgenerate : g.call p limits c = (g'.gate p result).1 := by
    unfold call generate
    rw [if_neg hstart]
    dsimp only
    rw [show (List.finRange moduleCount).foldl (generateModule p limits c.desired
      (fun index => clampSteeringMeasurementToSafeRange (c.measured index) (limits index))
      (g.translationBranch p limits c.desired fun index =>
        clampSteeringMeasurementToSafeRange (c.measured index) (limits index)) c.dt c.hold)
      ({ g with translationReversed := g.translationBranch p limits c.desired fun index =>
        clampSteeringMeasurementToSafeRange (c.measured index) (limits index) }, some {}) =
        (g', some result) from hfold]
    rfl
  rw [hgenerate]
  exact ⟨hall.fresh, fun index => hall.moved index (List.mem_finRange index)⟩

end SwerveSetpointGenerator

end RobotDriver.Swerve

end
