import Mathlib.Analysis.Real.Pi.Bounds
import RobotDriver.Swerve.SteeringProfiles

/-!
# The slew limit of the steering

A call keeps the slew limit and stays on this side of the goal unless a rate in flight is too fast
for it, or the acceleration in flight carries it beyond the limit.
-/

noncomputable section

open scoped Classical

namespace RobotDriver.Swerve

open LabelledRun

namespace SwerveSetpointGenerator

variable (p : SwerveSetpointParameters) (limits : Module → SteeringAngleLimits)

section Condition

variable (g : SwerveSetpointGenerator) (c : SteeringCall) (index : Module)

/-- The direction in which all modules translate together in the call, if there is one. -/
def reversal : Option Bool := g.translationBranch p limits c.desired (c.planning limits)

/-- The target moves and turns no faster than the slew limit and not beyond the goal. -/
def KeepsSlew : Prop :=
  ∃ target ∈ (g.call p limits c).previousTargets index,
    |target - g.target limits c index| ≤ p.maximumSteeringSlew * c.dt ∧
    |(g.call p limits c).steeringRates index| ≤ p.maximumSteeringSlew ∧
    (c.hold index = false →
      ¬Passes (g.delta p limits c index (g.reversal p limits c)) (target - g.target limits c index))

/-- The rate and the acceleration in flight fit the call, as seen from the goal where the module is
not held. -/
structure FitsSlew : Prop where
  held : c.hold index = true → ∀ jerk ∈ p.maximumSteeringJerk,
    HoldFits jerk p.maximumSteeringSlew (g.steeringRates index) (g.steeringAccelerations index) c.dt
  followed : c.hold index = false → ∀ jerk ∈ p.maximumSteeringJerk,
    let delta := g.targetDelta p limits c index (g.reversal p limits c)
    RateFits (p.maximumSteeringAcceleration.getD 0) jerk p.maximumSteeringSlew
      (g.steeringRates index * direction delta) (g.steeringAccelerations index * direction delta)
      |delta| c.dt
  settled : c.hold index = false → g.targetDelta p limits c index (g.reversal p limits c) = 0 →
    ∀ jerk ∈ p.maximumSteeringJerk,
      GoalFits jerk (g.steeringRates index) (g.steeringAccelerations index) c.dt
        (g.delta p limits c index (g.reversal p limits c))
  slowed : c.hold index = false → g.targetDelta p limits c index (g.reversal p limits c) = 0 →
    p.maximumSteeringJerk = none → ∀ limit ∈ p.maximumSteeringAcceleration,
      0 ≤ g.steeringRates index * g.delta p limits c index (g.reversal p limits c) →
        (|g.steeringRates index| - limit * c.dt) * c.dt ≤
          |g.delta p limits c index (g.reversal p limits c)|

end Condition

variable {p limits} {g : SwerveSetpointGenerator} {c : SteeringCall}

/-- No module turns faster than the slew limit. -/
def Slow (p : SwerveSetpointParameters) (g : SwerveSetpointGenerator) : Prop :=
  g.Fresh ∧ ∀ index, |g.steeringRates index| ≤ p.maximumSteeringSlew

theorem keepsSlew_iff_step (hvalid : c.Valid limits) (h : g.Fresh) (index : Module) :
    g.KeepsSlew p limits c index ↔
      (g.moduleStep p limits c index (g.reversal p limits c)).Within p.maximumSteeringSlew c.dt ∧
        (c.hold index = false → ¬Passes (g.delta p limits c index (g.reversal p limits c))
          (g.moduleStep p limits c index (g.reversal p limits c)).step) := by
  obtain ⟨htarget, hrate, -⟩ := (call_moved (p := p) hvalid h).2 index
  unfold KeepsSlew
  rw [htarget, hrate]
  simp only [Option.mem_def, Option.some.injEq, exists_eq_left', add_sub_cancel_left]
  exact ⟨fun h => ⟨⟨h.1, h.2.1⟩, h.2.2⟩, fun h => ⟨h.1.way, h.1.rate, h.2⟩⟩

theorem acceleration_of_jerk (hp : p.Valid) {jerk : ℝ} (hjerk : p.maximumSteeringJerk = some jerk) :
    0 < jerk ∧ 0 < p.maximumSteeringAcceleration.getD 0 := by
  obtain ⟨hpos, hsome⟩ := hp.maximumSteeringJerk jerk hjerk
  obtain ⟨limit, hlimit⟩ := Option.isSome_iff_exists.1 hsome
  rw [hlimit]
  exact ⟨hpos, hp.maximumSteeringAcceleration limit hlimit⟩

theorem targetDelta_of_ne {index : Module} {reversal : Option Bool}
    (h : g.targetDelta p limits c index reversal ≠ 0) :
    g.targetDelta p limits c index reversal = g.delta p limits c index reversal := by
  unfold targetDelta at h ⊢
  split_ifs at h ⊢
  · exact absurd rfl h
  · rfl

theorem within_of_free (hp : p.Valid) (hdt : 0 < c.dt) (hjerk : p.maximumSteeringJerk = none)
    {index : Module} (hrate : |g.steeringRates index| ≤ p.maximumSteeringSlew)
    (reversal : Option Bool) :
    (g.moduleStep p limits c index reversal).Within p.maximumSteeringSlew c.dt := by
  unfold moduleStep
  split_ifs
  · unfold holdStep
    rw [hjerk]
    exact within_of_rate hdt ((abs_slowedRate_le hp.maximumSteeringAcceleration hdt).trans hrate) _
  · unfold followStep
    rw [hjerk]
    have hwithin : (trapezoidalStep p.maximumSteeringAcceleration p.maximumSteeringSlew
        (g.steeringRates index) (g.targetDelta p limits c index reversal) c.dt).Within
        p.maximumSteeringSlew c.dt :=
      trapezoidalStep_within hp.maximumSteeringSlew hp.maximumSteeringAcceleration hdt hrate
    exact ⟨hwithin.way, hwithin.rate⟩

theorem moduleStep_held {jerk : ℝ} (hjerk : p.maximumSteeringJerk = some jerk) {index : Module}
    (hhold : c.hold index = true) (reversal : Option Bool) :
    g.moduleStep p limits c index reversal =
      jerkLimitedStop (p.maximumSteeringAcceleration.getD 0) jerk (g.steeringRates index)
        (g.steeringAccelerations index) c.dt := by
  unfold moduleStep holdStep
  rw [if_pos hhold, hjerk]

theorem moduleStep_followed {index : Module} (hhold : c.hold index = false)
    (reversal : Option Bool) : g.moduleStep p limits c index reversal =
      g.followStep p index (g.targetDelta p limits c index reversal) c.dt := by
  unfold moduleStep
  rw [hhold]
  rfl

theorem followStep_jerk {jerk : ℝ} (hjerk : p.maximumSteeringJerk = some jerk) (index : Module)
    (delta dt : ℝ) : g.followStep p index delta dt =
      jerkLimitedStep (p.maximumSteeringAcceleration.getD 0) jerk p.maximumSteeringSlew
        (g.steeringRates index) (g.steeringAccelerations index) delta dt := by
  unfold followStep
  rw [hjerk]

theorem free_not_passes (hp : p.Valid) (hdt : 0 < c.dt) (hjerk : p.maximumSteeringJerk = none)
    {index : Module} (reversal : Option Bool)
    (h : g.targetDelta p limits c index reversal = 0 → ∀ limit ∈ p.maximumSteeringAcceleration,
      0 ≤ g.steeringRates index * g.delta p limits c index reversal →
        (|g.steeringRates index| - limit * c.dt) * c.dt ≤ |g.delta p limits c index reversal|) :
    ¬Passes (g.delta p limits c index reversal)
      (g.followStep p index (g.targetDelta p limits c index reversal) c.dt).step := by
  have hstep : ∀ delta, (g.followStep p index delta c.dt).step =
      (trapezoidalStep p.maximumSteeringAcceleration p.maximumSteeringSlew
        (g.steeringRates index) delta c.dt).step := by
    intro delta
    unfold followStep
    rw [hjerk]
  rw [hstep]
  by_cases harrived : g.targetDelta p limits c index reversal = 0
  · rw [harrived, trapezoidalStep_zero hp.maximumSteeringAcceleration hdt]
    exact not_passes_slowedRate hdt (h harrived)
  · rw [← targetDelta_of_ne harrived]
    exact trapezoidalStep_not_passes harrived

theorem FitsSlew.keepsSlew {index : Module} (hfits : g.FitsSlew p limits c index) (hp : p.Valid)
    (hvalid : c.Valid limits) (h : g.Slow p) : g.KeepsSlew p limits c index := by
  have hdt := hvalid.dt_pos
  have hslew := hp.maximumSteeringSlew
  have hrate := h.2 index
  rw [keepsSlew_iff_step hvalid h.1]
  cases hjerk : p.maximumSteeringJerk with
  | none =>
    refine ⟨within_of_free hp hdt hjerk hrate _, fun hhold => ?_⟩
    rw [moduleStep_followed hhold]
    exact free_not_passes hp hdt hjerk _ fun harrived => hfits.slowed hhold harrived hjerk
  | some jerk =>
    obtain ⟨hpos, hacceleration⟩ := acceleration_of_jerk hp hjerk
    cases hhold : c.hold index with
    | true =>
      rw [moduleStep_held hjerk hhold]
      exact ⟨jerkLimitedStop_within hslew hpos hdt hrate (hfits.held hhold jerk hjerk), nofun⟩
    | false =>
      rw [moduleStep_followed hhold, followStep_jerk hjerk]
      refine ⟨jerkLimitedStep_within hslew hacceleration hpos hdt hrate
        (hfits.followed hhold jerk hjerk), fun _ => ?_⟩
      by_cases harrived : g.targetDelta p limits c index (g.reversal p limits c) = 0
      · rw [harrived]
        exact jerkLimitedStep_zero_not_passes hacceleration hdt
          (hfits.settled hhold harrived jerk hjerk)
      · rw [← targetDelta_of_ne harrived]
        exact jerkLimitedStep_not_passes harrived

theorem Slow.along_keepsSlew (h : g.Slow p) (hp : p.Valid) {calls : List SteeringCall}
    (hvalid : ∀ c ∈ calls, c.Valid limits)
    (hfits : Along (call p limits) (fun g c => ∀ index, g.FitsSlew p limits c index) g calls) :
    Along (call p limits) (fun g c => ∀ index, g.KeepsSlew p limits c index) g calls := by
  induction calls generalizing g with
  | nil => exact along_nil g
  | cons c calls ih =>
    obtain ⟨hc, hcalls⟩ := List.forall_mem_cons.1 hvalid
    have hkeeps : ∀ index, g.KeepsSlew p limits c index := fun index =>
      (hfits.1 index).keepsSlew hp hc h
    refine ⟨hkeeps, ih ⟨(call_moved hc h.1).1, fun index => ?_⟩ hcalls hfits.2⟩
    obtain ⟨target, -, -, hrate, -⟩ := hkeeps index
    exact hrate

/-- Along every run in which the rates and accelerations in flight fit the calls that they meet, the
slew limit is kept and no goal is passed. -/
theorem steering_keeps_slew (hp : p.Valid) (targets : Module → Option ℝ)
    (calls : List SteeringCall) (hvalid : ∀ c ∈ calls, c.Valid limits)
    (hfits : Along (call p limits) (fun g c => ∀ index, g.FitsSlew p limits c index)
      (reset targets) calls) :
    Along (call p limits) (fun g c => ∀ index, g.KeepsSlew p limits c index) (reset targets)
      calls := by
  refine Slow.along_keepsSlew ⟨fresh_reset targets, fun index => ?_⟩ hp hvalid hfits
  exact (abs_zero.le : |(0 : ℝ)| ≤ 0).trans hp.maximumSteeringSlew.le

theorem translationBranch_of_rest {desired : Module → SwerveModuleState} {planning : Module → ℝ}
    (h : ∀ index, (desired index).speed = 0) :
    g.translationBranch p limits desired planning = none := by
  have hslow : ∀ (indices : List Module) (fastest : ℝ × ℝ), fastest.1 ≤ 0 →
      (indices.foldl (fun fastest index => if fastest.1 < |(desired index).speed| then
        (|(desired index).speed|, (desired index).angle) else fastest) fastest).1 ≤ 0 := by
    intro indices
    induction indices with
    | nil => exact fun _ hfastest => hfastest
    | cons index indices ih =>
      intro fastest hfastest
      refine ih _ ?_
      dsimp only
      rw [h index, abs_zero]
      split_ifs
      · exact le_rfl
      · exact hfastest
  have hinfeasible : ∀ reversed, ¬translationFeasible p limits desired planning reversed := by
    rintro reversed ⟨⟨hfast, -⟩, -⟩
    have hle := hslow (List.finRange moduleCount) (-1, 0) (by norm_num)
    exact absurd (hfast.trans_le hle) (by norm_num)
  unfold translationBranch
  rw [if_neg (hinfeasible false), if_neg (hinfeasible true)]

end SwerveSetpointGenerator

theorem clampTo_self {α : Type*} [LinearOrder α] (value low : α) : clampTo value low low = low := by
  unfold clampTo
  split_ifs with hlow hhigh
  · rfl
  · rfl
  · exact le_antisymm (not_lt.1 hhigh) (not_lt.1 hlow)

namespace Surge

open SwerveSetpointGenerator

def parameters : SwerveSetpointParameters where
  alignmentThreshold := 0
  flipHysteresis := 0
  maximumSteeringSlew := 1 / 8
  translationHeadingEpsilon := 0
  steeringAngleDeadband := 0
  maximumSteeringAcceleration := some (1 / 8)
  maximumSteeringJerk := some (1 / 8)
  alignmentRelease := none

def limits (_ : Module) : SteeringAngleLimits := ⟨-Real.pi, Real.pi, 0, 0⟩

/-- From rest at zero towards one radian, for one second. -/
def follow : SteeringCall where
  desired _ := ⟨0, 1⟩
  measured _ := 0
  dt := 1

/-- Held after that. -/
def hold (dt : ℝ) : SteeringCall where
  desired _ := ⟨0, 1⟩
  measured _ := 0
  dt
  hold _ := true

theorem parameters_valid : parameters.Valid := by
  have hpi : 0 < Real.pi / 2 := by positivity
  constructor <;> simp [parameters, hpi]

theorem within (index : Module) : steeringMeasurementWithinTolerance 0 (limits index) := by
  have hpi := Real.pi_pos
  refine ⟨⟨le_rfl, le_rfl, ?_, ?_⟩, ?_, ?_⟩ <;> simp only [limits] <;> linarith

theorem follow_valid : follow.Valid limits := ⟨one_pos, within⟩

theorem hold_valid {dt : ℝ} (hdt : 0 < dt) : (hold dt).Valid limits := ⟨hdt, within⟩

theorem nearest {angle : ℝ} (turn : ℤ) (hlow : -Real.pi < angle + turn * (2 * Real.pi))
    (hhigh : angle + turn * (2 * Real.pi) < Real.pi) (index : Module) :
    nearestEquivalentSteeringTarget (limits index) angle 0 =
      some (angle + turn * (2 * Real.pi)) := by
  have hpi := Real.pi_pos
  have hturn : 0 < 2 * Real.pi := by positivity
  have hwithin : steeringAngleWithinLimits 0 (limits index) := by
    refine ⟨(within index).1, ?_, ?_⟩ <;> simp only [limits] <;> linarith
  have hfirst : ⌈(safeMinimum (limits index) - angle) / (2 * Real.pi)⌉ = turn := by
    rw [Int.ceil_eq_iff, lt_div_iff₀ hturn, div_le_iff₀ hturn]
    simp only [safeMinimum, limits]
    constructor <;> linarith
  have hlast : ⌊(safeMaximum (limits index) - angle) / (2 * Real.pi)⌋ = turn := by
    rw [Int.floor_eq_iff, le_div_iff₀ hturn, div_lt_iff₀ hturn]
    simp only [safeMaximum, limits]
    constructor <;> linarith
  unfold nearestEquivalentSteeringTarget
  rw [if_neg (not_not.2 hwithin)]
  dsimp only
  rw [hfirst, hlast, if_neg (lt_irrefl turn), clampTo_self]

theorem clamp_zero (index : Module) :
    clampSteeringMeasurementToSafeRange 0 (limits index) = 0 := by
  have hpi := Real.pi_pos
  unfold clampSteeringMeasurementToSafeRange
  simp only [limits]
  rw [max_eq_left (by linarith), min_eq_left (by linarith)]

theorem optimized {angle : ℝ} (hpos : 0 < angle) (hle : angle ≤ 1) (previousReversed : Bool)
    (index : Module) :
    (optimizeModule (limits index) ⟨0, angle⟩ 0 previousReversed 0).map (·.targetAngle) =
      some angle := by
  have hpi := Real.pi_gt_three
  have hclamp := clamp_zero index
  have hwrap : wrapPi angle = angle := wrapPi_of_abs_lt (by rw [abs_of_pos hpos]; linarith)
  have hforward : nearestEquivalentSteeringTarget (limits index) angle 0 = some angle := by
    rw [nearest 0 (by simp; linarith) (by simp; linarith)]
    simp
  have hreverse : nearestEquivalentSteeringTarget (limits index) (angle + Real.pi) 0 =
      some (angle - Real.pi) := by
    rw [nearest (-1) (by push_cast; linarith) (by push_cast; linarith)]
    congr 1
    push_cast
    ring
  have hnearer : |angle| < |angle - Real.pi| := by
    rw [abs_of_pos hpos, abs_of_neg (by linarith)]
    linarith
  unfold optimizeModule
  rw [if_neg (not_not.2 (within index))]
  cases previousReversed <;>
    simp [hclamp, hwrap, hforward, hreverse, hnearer, hnearer.asymm]

theorem goal_of_rest {p : SwerveSetpointParameters} (hflip : p.flipHysteresis = 0)
    (g : SwerveSetpointGenerator) (c : SteeringCall) {angle : ℝ} (hpos : 0 < angle)
    (hle : angle ≤ 1) (hdesired : c.desired = fun _ => ⟨0, angle⟩)
    (hmeasured : c.measured = fun _ => 0) (index : Module) :
    g.goal p limits c index (g.reversal p limits c) = angle := by
  have hplanning : c.planning limits = fun _ => 0 := by
    funext index
    rw [SteeringCall.planning, hmeasured]
    exact clamp_zero index
  have hreversal : g.reversal p limits c = none := by
    refine translationBranch_of_rest fun index => ?_
    rw [hdesired]
  have hoptimized := optimized hpos hle (g.reversed index) index
  unfold goal SwerveSetpointGenerator.optimized
  rw [hreversal, hplanning, hdesired, hflip]
  change ((optimizeModule (limits index) ⟨0, angle⟩ 0 (g.reversed index) 0).map
    (·.targetAngle)).getD 0 = angle
  rw [hoptimized]
  rfl

theorem cruiseAcceleration_follow : cruiseAcceleration (1 / 8) (1 / 8) (1 / 8) 0 0 1 = 1 / 8 := by
  have hroot : (1 / 8 : ℝ) ≤ √(2 * (1 / 8) * max (1 / 8 - 0) 0) := by
    refine Real.le_sqrt_of_sq_le ?_
    norm_num
  unfold cruiseAcceleration clampTo
  rw [min_eq_left hroot]
  norm_num

theorem stoppingDistance_follow : stoppingDistance (1 / 8) (1 / 8) (1 / 8) (1 / 8) = 77 / 192 := by
  have hroot : (1 / 8 : ℝ) ≤ √(1 / 8 * (1 / 8) + 1 / 8 * (1 / 8) / 2) := by
    refine Real.le_sqrt_of_sq_le ?_
    norm_num
  have hpeak : (if (1 / 8 : ℝ) * (1 / 8) + 1 / 8 * (1 / 8) / 2 < 0 then 1 / 8
      else min (1 / 8) (√(1 / 8 * (1 / 8) + 1 / 8 * (1 / 8) / 2))) = 1 / 8 := by
    rw [min_eq_left hroot]
    norm_num
  unfold stoppingDistance
  dsimp only
  rw [hpeak]
  norm_num

theorem step_follow : jerkLimitedStep (1 / 8) (1 / 8) (1 / 8) 0 0 1 1 = ⟨1 / 8, 1 / 8, 1 / 16⟩ := by
  have hdirection : direction 1 = 1 := if_pos zero_le_one
  have hfree : ¬Brakes (1 / 8) (1 / 8) (1 / 8) 0 0 1 1 := by
    unfold Brakes
    simp only [cruiseWay_eq, cruiseAcceleration_follow, zero_add, mul_one, stoppingDistance_follow]
    norm_num
  have hplanned : plannedStep (1 / 8) (1 / 8) (1 / 8) 0 0 1 1 = ⟨1 / 8, 1 / 8, 1 / 16⟩ := by
    unfold plannedStep
    rw [if_neg hfree, cruiseWay_eq, cruiseAcceleration_follow]
    norm_num
  have hlanded : landedStep ⟨1 / 8, 1 / 8, 1 / 16⟩ 0 1 = ⟨1 / 8, 1 / 8, 1 / 16⟩ := by
    unfold landedStep Arrives
    norm_num
  rw [jerkLimitedStep_eq]
  dsimp only
  rw [hdirection, mul_one, abs_one, hplanned, hlanded, if_neg (by norm_num)]
  unfold clampTo
  norm_num

theorem targetDelta_follow (index : Module) : (reset fun _ => none).targetDelta parameters limits
    follow index ((reset fun _ => none).reversal parameters limits follow) = 1 := by
  have htarget : (reset fun _ => none).target limits follow index = 0 := clamp_zero index
  unfold targetDelta delta
  rw [goal_of_rest rfl _ _ one_pos le_rfl rfl rfl, htarget, sub_zero]
  norm_num [parameters]

/-- After the first call the module turns at the slew limit, and still accelerates. -/
theorem call_follow (index : Module) :
    ((reset fun _ => none).call parameters limits follow).Fresh ∧
      ((reset fun _ => none).call parameters limits follow).steeringRates index = 1 / 8 ∧
      ((reset fun _ => none).call parameters limits follow).steeringAccelerations index = 1 / 8 := by
  have hstep : (reset fun _ => none).moduleStep parameters limits follow index
      ((reset fun _ => none).reversal parameters limits follow) = ⟨1 / 8, 1 / 8, 1 / 16⟩ := by
    rw [moduleStep_followed rfl, targetDelta_follow]
    exact step_follow
  obtain ⟨hfresh, hmoved⟩ := call_moved (p := parameters) follow_valid (fresh_reset fun _ => none)
  obtain ⟨-, hrate, hacceleration⟩ := hmoved index
  exact ⟨hfresh, hrate.trans (congrArg SteeringStep.rate hstep),
    hacceleration.trans (congrArg SteeringStep.acceleration hstep)⟩

theorem fits_follow (index : Module) :
    (reset fun _ => none).FitsSlew parameters limits follow index where
  held := nofun
  followed _ jerk hjerk := by
    obtain rfl : 1 / 8 = jerk := Option.some.inj hjerk
    have hdirection : direction 1 = 1 := if_pos zero_le_one
    dsimp only
    rw [targetDelta_follow, hdirection, abs_one]
    constructor <;> norm_num [reset, parameters, follow]
  settled _ harrived := by
    rw [targetDelta_follow] at harrived
    exact absurd harrived one_ne_zero
  slowed _ _ := nofun

/-- Held for a second, the module slows down from the limit. -/
theorem surge_keeps_slew :
    Along (call parameters limits) (fun g c => ∀ index, g.KeepsSlew parameters limits c index)
      (reset fun _ => none) [follow, hold 1] := by
  refine steering_keeps_slew parameters_valid _ _ (fun c hc => ?_)
    ⟨fits_follow, fun index => ⟨fun _ jerk hjerk => ?_, nofun, nofun, nofun⟩, trivial⟩
  · simp only [List.mem_cons, List.not_mem_nil, or_false] at hc
    rcases hc with rfl | rfl
    · exact follow_valid
    · exact hold_valid one_pos
  · obtain rfl : 1 / 8 = jerk := Option.some.inj hjerk
    obtain ⟨-, hrate, hacceleration⟩ := call_follow index
    rw [hrate, hacceleration]
    constructor <;> norm_num [parameters, hold]

/-- Held for half a second while its acceleration is in flight, it turns faster than the limit. -/
theorem hold_exceeds_slew :
    ¬Along (call parameters limits) (fun g c => ∀ index, g.KeepsSlew parameters limits c index)
      (reset fun _ => none) [follow, hold (1 / 2)] := by
  intro hkeeps
  have hhold : (hold (1 / 2)).Valid limits := hold_valid (by norm_num)
  obtain ⟨hnext, hrate, hacceleration⟩ := call_follow 0
  have hlast := hkeeps.2.1 0
  rw [keepsSlew_iff_step hhold hnext, moduleStep_held rfl rfl, hrate, hacceleration,
    jerkLimitedStop_eq] at hlast
  have hfast : 1 / 16 ≤ stopAcceleration (parameters.maximumSteeringAcceleration.getD 0) (1 / 8)
      (1 / 8) (1 / 8) (hold (1 / 2)).dt := by
    have hmem := (stopAcceleration_mem (parameters.maximumSteeringAcceleration.getD 0)
      (by norm_num : (0 : ℝ) < 1 / 8) hhold.dt_pos (1 / 8) (1 / 8)).1
    norm_num [hold] at hmem ⊢
    exact hmem
  generalize stopAcceleration _ _ _ _ _ = next at hlast hfast
  have hexceeds : 1 / 8 < 1 / 8 + next * (hold (1 / 2)).dt := by
    have hway := mul_pos ((by norm_num : (0 : ℝ) < 1 / 16).trans_le hfast) hhold.dt_pos
    linarith
  dsimp only at hlast
  rw [if_neg (by norm_num), if_neg (not_le.2 (mul_pos (by linarith) (by norm_num)))] at hlast
  exact absurd ((le_abs_self _).trans hlast.1.rate) (not_le.2 hexceeds)

end Surge

end RobotDriver.Swerve

end
