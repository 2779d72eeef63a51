import RobotDriver.Swerve.FaultLatch

/-!
# The envelope of the wheel speeds

An update ramps the wheel speeds, none by more than the wheel acceleration allows, or halts them.
What it plans for a wheel is desaturated, and neither the alignment nor the gate makes it faster.
-/

noncomputable section

open scoped Classical

namespace RobotDriver.Swerve

open LabelledRun (Along)

section PlannedSpeeds

variable {bound : ℝ}

theorem le_largestSpeed (states : Module → SwerveModuleState) (index : Module) :
    |(states index).speed| ≤ largestSpeed states := by
  have hfold : ∀ (indices : List Module) (start : ℝ),
      start ≤ indices.foldl (fun largest index => max largest |(states index).speed|) start ∧
        ∀ index ∈ indices, |(states index).speed| ≤
          indices.foldl (fun largest index => max largest |(states index).speed|) start := by
    intro indices
    induction indices with
    | nil => exact fun start => ⟨le_rfl, nofun⟩
    | cons first indices ih =>
      intro start
      obtain ⟨hstart, hall⟩ := ih (max start |(states first).speed|)
      rw [List.foldl_cons, List.forall_mem_cons]
      exact ⟨(le_max_left _ _).trans hstart, (le_max_right _ _).trans hstart, hall⟩
  exact (hfold (List.finRange moduleCount) 0).2 index (List.mem_finRange index)

theorem abs_desaturate_le (states : Module → SwerveModuleState) (hbound : 0 ≤ bound)
    (index : Module) : |(desaturateWheelSpeeds states bound index).speed| ≤ bound := by
  have hle := le_largestSpeed states index
  unfold desaturateWheelSpeeds
  split_ifs with hlargest
  · exact hle.trans hlargest
  · rw [not_le] at hlargest
    have hpos : 0 < largestSpeed states := hbound.trans_lt hlargest
    rw [abs_mul, abs_of_nonneg (div_nonneg hbound hpos.le), mul_div_assoc', div_le_iff₀ hpos,
      mul_comm bound]
    exact mul_le_mul_of_nonneg_right hle hbound

theorem abs_optimizeModule_speed {limits : SteeringAngleLimits} {desired : SwerveModuleState}
    {currentAngle hysteresis : ℝ} {previousReversed : Bool} {optimized : OptimizedModuleState}
    (h : optimizeModule limits desired currentAngle previousReversed hysteresis = some optimized) :
    |optimized.speed| = |desired.speed| := by
  unfold optimizeModule at h
  split at h
  · cases h
  dsimp only at h
  rw [Option.map_eq_some_iff] at h
  obtain ⟨target, -, rfl⟩ := h
  dsimp only
  rw [apply_ite abs, abs_neg, ite_self]

namespace SwerveSetpointGenerator

variable {p : SwerveSetpointParameters} {limits : Module → SteeringAngleLimits}
  {g g' : SwerveSetpointGenerator} {desired : Module → SwerveModuleState}
  {planning : Module → ℝ} {result result' : AlignmentResult} {dt : ℝ} {index : Module}

theorem abs_optimized_speed {reversal : Option Bool} {optimized : OptimizedModuleState}
    (h : g.optimized p limits desired planning reversal index = some optimized) :
    |optimized.speed| = |(desired index).speed| := by
  unfold SwerveSetpointGenerator.optimized at h
  cases reversal with
  | some reversed =>
    rw [← Option.some.inj h]
    dsimp only
    rw [apply_ite abs, abs_neg, ite_self]
  | none => exact abs_optimizeModule_speed h

theorem abs_record_le {state : OptimizedModuleState} {error : ℝ}
    (hresult : ∀ index, |(result.modules index).speed| ≤ bound) (hstate : |state.speed| ≤ bound)
    (other : Module) : |((result.record index state error).modules other).speed| ≤ bound := by
  unfold AlignmentResult.record
  by_cases hother : other = index
  · rw [hother]
    simpa using hstate
  · simpa [hother] using hresult other

theorem abs_generateModule_le {reversal : Option Bool} {hold : Module → Bool}
    (hbound : 0 ≤ bound) (hdesired : ∀ index, |(desired index).speed| ≤ bound)
    (hresult : ∀ index, |(result.modules index).speed| ≤ bound)
    (h : generateModule p limits desired planning reversal dt hold (g, some result) index =
      (g', some result')) : ∀ index, |(result'.modules index).speed| ≤ bound := by
  unfold generateModule at h
  dsimp only at h
  split at h
  · unfold holdModule at h
    rw [← Option.some.inj (Prod.ext_iff.1 h).2]
    refine abs_record_le hresult ?_
    rw [abs_zero]
    exact hbound
  · split at h
    · cases (Prod.ext_iff.1 h).2
    · rename_i optimized hoptimized
      unfold followModule at h
      rw [← Option.some.inj (Prod.ext_iff.1 h).2]
      refine abs_record_le hresult ?_
      have hcos : |max 0 (Real.cos optimized.error)| ≤ 1 := by
        rw [abs_of_nonneg (le_max_left _ _)]
        exact max_le zero_le_one (Real.cos_le_one _)
      dsimp only
      rw [abs_mul, abs_optimized_speed hoptimized]
      exact (mul_le_of_le_one_right (abs_nonneg _) hcos).trans (hdesired index)

theorem abs_gate_le (hbound : 0 ≤ bound) (hresult : ∀ index, |(result.modules index).speed| ≤ bound)
    (index : Module) : |((g.gate p result).2.modules index).speed| ≤ bound := by
  unfold gate
  dsimp only
  generalize decide (_ < result.maximumError) = gated
  cases gated with
  | false => exact hresult index
  | true => simpa using hbound

theorem abs_generate_le {measured : Module → ℝ} {hold : Module → Bool} {targets : AlignmentResult}
    (hbound : 0 ≤ bound) (hdesired : ∀ index, |(desired index).speed| ≤ bound)
    (h : (g.generate p limits desired measured dt hold).2 = some targets) (index : Module) :
    |(targets.modules index).speed| ≤ bound := by
  have hfold : ∀ (reversal : Option Bool) (planning : Module → ℝ) (indices : List Module)
      (g g' : SwerveSetpointGenerator) (result result' : AlignmentResult),
      (∀ index, |(result.modules index).speed| ≤ bound) →
      indices.foldl (generateModule p limits desired planning reversal dt hold) (g, some result) =
        (g', some result') → ∀ index, |(result'.modules index).speed| ≤ bound := by
    intro reversal planning indices
    induction indices with
    | nil =>
      intro g g' result result' hresult hrun
      rw [← Option.some.inj (Prod.ext_iff.1 hrun).2]
      exact hresult
    | cons first indices ih =>
      intro g g' result result' hresult hrun
      rw [List.foldl_cons] at hrun
      generalize hfirst : generateModule p limits desired planning reversal dt hold
        (g, some result) first = state at hrun
      obtain ⟨next, outcome⟩ := state
      cases outcome with
      | none =>
        have hfailed : ∀ others : List Module,
            (others.foldl (generateModule p limits desired planning reversal dt hold)
              (next, none)).2 = none := by
          intro others
          induction others with
          | nil => rfl
          | cons other others ih => exact ih
        have hnone := hfailed indices
        rw [hrun] at hnone
        cases hnone
      | some outcome =>
        exact ih _ _ _ _ (abs_generateModule_le hbound hdesired hresult hfirst) hrun
  unfold generate at h
  split at h
  · cases h
  dsimp only at h
  split at h
  · cases h
  · rename_i last result hrun
    have hresult := hfold _ _ _ _ _ _ _ (by simpa using hbound) hrun
    cases h
    exact abs_gate_le hbound hresult index

end SwerveSetpointGenerator

end PlannedSpeeds

theorem abs_slowed_sub_le {value step : ℝ} (hstep : 0 ≤ step) :
    |copysign (max 0 (|value| - step)) value - value| ≤ step := by
  have hmax : |max 0 (|value| - step)| = max 0 (|value| - step) :=
    abs_of_nonneg (le_max_left _ _)
  rcases lt_or_ge value 0 with hneg | hnonneg
  · rw [copysign_of_neg hneg, hmax, abs_of_neg hneg, abs_le]
    rcases max_cases 0 (-value - step) with ⟨heq, hcase⟩ | ⟨heq, hcase⟩
    · exact ⟨by linarith, by linarith⟩
    · exact ⟨by linarith, by linarith⟩
  · rw [copysign_of_nonneg hnonneg, hmax, abs_of_nonneg hnonneg, abs_le]
    rcases max_cases 0 (value - step) with ⟨heq, hcase⟩ | ⟨heq, hcase⟩
    · exact ⟨by linarith, by linarith⟩
    · exact ⟨by linarith, by linarith⟩

/-- The statuses of a tick that may move. -/
def ControlStatus.isMoving : ControlStatus → Bool
  | .running | .alignmentGated | .commandTimeout => true
  | _ => false

namespace MotionCore

variable {G : Type*} (ruckig : Ruckig G) (core : MotionCore G)
  (feedback : Module → MotionFeedback)

/-- The speeds stay below the bound and near those before. -/
structure Ramps (period : ℝ) (speeds : Module → ℝ) : Prop where
  near : ∀ index,
    |speeds index - core.previousSpeeds index| ≤ core.motion.maxWheelAcceleration * period
  bounded : (∀ index, |core.previousSpeeds index| ≤ core.motion.maxWheelSpeed) →
    ∀ index, |speeds index| ≤ core.motion.maxWheelSpeed

/-- What a tick makes of the wheel speeds. -/
inductive Drives (dt : Option ℝ) (next : MotionCore G) : Prop
  | ramps (period : ℝ) (usable : core.usablePeriod dt = some period)
      (ramps : core.Ramps period next.previousSpeeds)
      (velocity : ∀ index, next.drive.driveVelocity index =
        next.previousSpeeds index / core.config.wheelRadius index)
      (moving : next.drive.status.isMoving = true)
  | halts (speeds : ∀ index, next.previousSpeeds index = 0)
      (velocity : ∀ index, next.drive.driveVelocity index = 0)
      (status : next.drive.status.isMoving = true → core.usablePeriod dt = none)

variable {core}

theorem Drives.of_speeds (before : MotionCore G) {next : MotionCore G} {dt : Option ℝ}
    (hspeeds : before.previousSpeeds = core.previousSpeeds) (hmotion : before.motion = core.motion)
    (hconfig : before.config = core.config) (h : before.Drives dt next) : core.Drives dt next := by
  have husable : before.usablePeriod dt = core.usablePeriod dt := by
    rw [usablePeriod, usablePeriod, hmotion]
  cases h with
  | ramps period usable ramps velocity moving =>
    refine .ramps period (husable ▸ usable) ⟨?_, ?_⟩ ?_ moving
    · have hnear := ramps.near
      rwa [hspeeds, hmotion] at hnear
    · have hbounded := ramps.bounded
      rwa [hspeeds, hmotion] at hbounded
    · rw [← hconfig]
      exact velocity
  | halts speeds velocity status => exact .halts speeds velocity (husable ▸ status)

variable (core)

theorem drives_stop (status : ControlStatus) {dt : Option ℝ}
    (h : status.isMoving = true → core.usablePeriod dt = none) :
    core.Drives dt (core.stop ruckig feedback status) := by
  refine .halts (fun _ => rfl) (fun _ => rfl) ?_
  change (if _ then ControlStatus.steeringHoldFault else status).isMoving = true → _
  split_ifs
  · exact nofun
  · exact h

theorem ramps_slowed {period : ℝ} (hperiod : 0 < period) :
    core.Ramps period (core.slowedSpeed period) := by
  have hstep := mul_pos core.motion.maxWheelAcceleration_pos hperiod
  constructor
  · intro index
    exact abs_slowed_sub_le hstep.le
  · intro hbounded index
    exact (core.abs_slowedSpeed_le hperiod index).trans (hbounded index)

theorem ramps_followed {period : ℝ} (hperiod : 0 < period) {targets : AlignmentResult}
    (waiting : Bool) (htargets : ∀ index, |(targets.modules index).speed| ≤
      core.motion.maxWheelSpeed) :
    core.Ramps period (core.followedSpeed targets waiting period) := by
  have hstep := mul_pos core.motion.maxWheelAcceleration_pos hperiod
  constructor
  · intro index
    have hrange : core.previousSpeeds index - core.motion.maxWheelAcceleration * period ≤
        core.previousSpeeds index + core.motion.maxWheelAcceleration * period := by linarith
    obtain ⟨hlow, hhigh⟩ : core.previousSpeeds index - core.motion.maxWheelAcceleration * period ≤
          core.followedSpeed targets waiting period index ∧
        core.followedSpeed targets waiting period index ≤
          core.previousSpeeds index + core.motion.maxWheelAcceleration * period :=
      clampTo_mem hrange
    rw [abs_le]
    exact ⟨by linarith, by linarith⟩
  · intro hbounded index
    refine abs_clampTo_le hstep.le ?_ (hbounded index)
    split_ifs
    · rw [abs_zero]
      exact core.motion.maxWheelSpeed_pos.le
    · exact htargets index

variable {core} in
theorem usablePeriod_self {dt : Option ℝ} {period : ℝ} (h : core.usablePeriod dt = some period) :
    dt = some period :=
  (Option.filter_eq_some_iff.1 h).1

theorem drives_rampStop {status : ControlStatus} {dt : Option ℝ}
    (hstatus : status.isMoving = true) :
    (core.rampStop ruckig feedback status dt).2 = true →
      core.Drives dt (core.rampStop ruckig feedback status dt).1 := by
  intro hreturned
  unfold rampStop at hreturned ⊢
  split
  · rename_i husable
    exact drives_stop ruckig core feedback status fun _ => husable
  · rename_i period husable
    rw [husable] at hreturned
    dsimp only at hreturned
    split
    · rename_i hgenerate
      rw [hgenerate] at hreturned
      cases hreturned
    · rename_i setpoints targets hgenerate
      dsimp only
      split_ifs
      · exact .ramps period husable (core.ramps_slowed (usablePeriod_pos husable))
          (fun _ => rfl) hstatus
      · refine .of_speeds { core with setpoints := setpoints } rfl rfl rfl ?_
        exact drives_stop ruckig _ feedback .steeringLimit (by rintro ⟨⟩)

theorem speeds_settle (targets : AlignmentResult) (waiting : Bool) :
    (core.settle ruckig targets waiting).previousSpeeds = core.previousSpeeds ∧
      (core.settle ruckig targets waiting).drive = core.drive := by
  unfold settle
  split_ifs <;> exact ⟨rfl, rfl⟩

theorem drives_follow {dt : Option ℝ} {period : ℝ} (husable : core.usablePeriod dt = some period)
    {targets : AlignmentResult}
    (htargets : ∀ index, |(targets.modules index).speed| ≤ core.motion.maxWheelSpeed)
    (holding : Module → Bool) (waiting : Bool) :
    core.Drives dt (core.follow ruckig targets holding waiting period) := by
  obtain ⟨hspeeds, hdrive⟩ := speeds_settle ruckig
    (core.commit targets holding (core.followedSpeed targets waiting period) .running) targets
    waiting
  refine .ramps period husable ?_ (fun index => ?_) ?_
  · unfold follow
    dsimp only
    rw [hspeeds]
    exact core.ramps_followed (usablePeriod_pos husable) waiting htargets
  · unfold follow
    dsimp only
    rw [hspeeds, hdrive]
    rfl
  · unfold follow
    dsimp only
    split_ifs <;> rfl

theorem drives_steerTo {dt : Option ℝ} {period : ℝ} (husable : core.usablePeriod dt = some period)
    (desired : Module → SwerveModuleState) (holding : Module → Bool) (waiting : Bool)
    (hreturned : (core.steerTo ruckig feedback desired holding waiting period).2 = true) :
    core.Drives dt (core.steerTo ruckig feedback desired holding waiting period).1 := by
  unfold steerTo at hreturned ⊢
  split_ifs at hreturned ⊢
  · refine .of_speeds core.latchHold rfl rfl rfl ?_
    exact drives_stop ruckig _ feedback .steeringHoldFault nofun
  · split
    · rename_i hgenerate
      rw [hgenerate] at hreturned
      cases hreturned
    · rename_i setpoints targets hgenerate
      have htargets : ∀ index, |(targets.modules index).speed| ≤ core.motion.maxWheelSpeed :=
        SwerveSetpointGenerator.abs_generate_le core.motion.maxWheelSpeed_pos.le
          (abs_desaturate_le desired core.motion.maxWheelSpeed_pos.le)
          (congrArg Prod.snd hgenerate)
      refine .of_speeds { core with setpoints := setpoints } rfl rfl rfl ?_
      dsimp only
      split_ifs
      · exact drives_follow ruckig { core with setpoints := setpoints } husable htargets holding
          waiting
      · exact drives_stop ruckig _ feedback .steeringLimit nofun

theorem drives_track {period : ℝ} (husable : core.usablePeriod (some period) = some period)
    (shaped : ChassisSpeeds) (waiting zeroRequest : Bool)
    (hreturned : (core.track ruckig feedback shaped waiting zeroRequest period).2 = true) :
    core.Drives (some period) (core.track ruckig feedback shaped waiting zeroRequest period).1 := by
  unfold track at hreturned ⊢
  dsimp only at hreturned ⊢
  split_ifs at hreturned ⊢
  · refine .of_speeds (core.restBody ruckig) rfl rfl rfl ?_
    exact drives_rampStop ruckig _ feedback rfl hreturned
  · exact drives_rampStop ruckig _ feedback rfl hreturned
  · exact drives_steerTo ruckig _ feedback husable _ _ waiting hreturned

theorem drives_obey {period : ℝ} (husable : core.usablePeriod (some period) = some period)
    (command : ChassisSpeeds)
    (hreturned : (core.obey ruckig feedback command period).2 = true) :
    core.Drives (some period) (core.obey ruckig feedback command period).1 := by
  unfold obey at hreturned ⊢
  dsimp only at hreturned ⊢
  generalize core.shapeBody ruckig feedback (core.limitSpeeds command)
    (core.smoothing && core.bodyAlignmentWaiting) period = outcome at hreturned ⊢
  split_ifs at hreturned ⊢
  · exact drives_rampStop ruckig _ feedback rfl hreturned
  · refine .of_speeds { core with bodyShaper := outcome.1 } rfl rfl rfl ?_
    exact drives_stop ruckig _ feedback .invalidCommand nofun
  · refine .of_speeds { core with bodyShaper := outcome.1 } rfl rfl rfl ?_
    exact drives_track ruckig { core with bodyShaper := outcome.1 } feedback husable _ _ _ hreturned

theorem drives_update (command : CommandSpeeds) (commandFresh : Bool) (dt : Option ℝ)
    (imu : Option YawSample) :
    core.Drives dt (core.update ruckig feedback command commandFresh dt imu).1 := by
  have hreturned := core.update_returns ruckig feedback command commandFresh dt imu
  unfold update at hreturned ⊢
  split_ifs at hreturned ⊢
  · exact drives_stop ruckig core feedback .inactive nofun
  · exact drives_stop ruckig core feedback .steeringHoldFault nofun
  · have hkept := core.prepared_observed feedback imu
    refine .of_speeds (core.observed feedback imu) rfl hkept.motion hkept.config ?_
    generalize core.observed feedback imu = core at hreturned ⊢
    unfold updateObserved at hreturned ⊢
    dsimp only at hreturned ⊢
    split_ifs at hreturned ⊢
    · exact drives_stop ruckig core feedback .feedbackFault nofun
    · refine .of_speeds (core.monitored feedback dt) rfl rfl rfl ?_
      exact drives_stop ruckig _ feedback .feedbackFault nofun
    · refine .of_speeds (core.monitored feedback dt).latchHold rfl rfl rfl ?_
      exact drives_stop ruckig _ feedback .steeringHoldFault nofun
    · refine .of_speeds ((core.monitored feedback dt).restBody ruckig) rfl rfl rfl ?_
      exact drives_rampStop ruckig _ feedback rfl hreturned
    · refine .of_speeds (core.monitored feedback dt) rfl rfl rfl ?_
      generalize core.monitored feedback dt = core at hreturned ⊢
      split
      · rename_i period speeds husable hspeeds
        rw [husable, hspeeds] at hreturned
        have hdt := usablePeriod_self husable
        rw [hdt] at husable ⊢
        exact drives_obey ruckig _ feedback husable speeds hreturned
      · exact drives_stop ruckig core feedback .invalidCommand nofun

/-- The speed along the ground that a wheel is told. -/
def commandedSpeed (core : MotionCore G) (index : Module) : ℝ :=
  core.drive.driveVelocity index * core.config.wheelRadius index

theorem active_of_moving {command : CommandSpeeds} {commandFresh : Bool} {dt : Option ℝ}
    {imu : Option YawSample} (h : (core.update ruckig feedback command commandFresh dt
      imu).1.drive.status.isMoving = true) : core.active = true := by
  cases hactive : core.active with
  | true => rfl
  | false =>
    unfold update at h
    rw [if_pos (by simp [hactive])] at h
    simp [stop, hactive, ControlStatus.isMoving] at h

end MotionCore

/-- The core beside the speeds of its last tick, and whether an activation came since. -/
structure WheelRun (G : Type*) where
  core : MotionCore G
  commanded : Module → ℝ := fun _ => 0
  activated : Bool := false

namespace WheelRun

variable {G : Type*} (ruckig : Ruckig G) (motion : MotionConfig) (r : WheelRun G)

def step : CoreCall → WheelRun G
  | .activate feedback =>
    let (core, activated) := r.core.activate ruckig feedback
    { r with core := core, activated := r.activated || activated }
  | .deactivate => { r with core := r.core.deactivate ruckig }
  | .update feedback command commandFresh dt imu =>
    let (core, _) := r.core.update ruckig feedback command commandFresh dt imu
    ⟨core, core.commandedSpeed, false⟩

/-- The speeds of the last tick, or those at rest that an activation puts out. -/
def reference (r : WheelRun G) : Module → ℝ := if r.activated then fun _ => 0 else r.commanded

/-- A moving tick of a valid period keeps the wheels below the greatest speed and near the speeds
before; any other tick halts them. -/
def KeepsEnvelope (before : WheelRun G → Module → ℝ) (r : WheelRun G) : CoreCall → Prop
  | .update feedback command commandFresh dt imu =>
    let next := (r.core.update ruckig feedback command commandFresh dt imu).1
    (next.drive.status.isMoving = true → ∀ period, dt = some period → 0 < period →
      period ≤ motion.maxUpdatePeriod → ∀ index,
        |next.commandedSpeed index| ≤ motion.maxWheelSpeed ∧
          |next.commandedSpeed index - before r index| ≤ motion.maxWheelAcceleration * period) ∧
      (next.drive.status.isMoving = false → ∀ index, next.drive.driveVelocity index = 0)
  | _ => True

structure Invariant : Prop where
  sameMotion : r.core.motion = motion
  bounded : ∀ index, |r.core.previousSpeeds index| ≤ motion.maxWheelSpeed
  near : r.core.active = true → r.core.previousSpeeds = r.reference

variable {motion r}

theorem Invariant.update (h : r.Invariant motion) (feedback : Module → MotionFeedback)
    (command : CommandSpeeds) (commandFresh : Bool) (dt : Option ℝ) (imu : Option YawSample) :
    (r.step ruckig (.update feedback command commandFresh dt imu)).Invariant motion ∧
      r.KeepsEnvelope ruckig motion reference (.update feedback command commandFresh dt imu) := by
  have hdrives := r.core.drives_update ruckig feedback command commandFresh dt imu
  have hdecides := r.core.decides_update ruckig feedback command commandFresh dt imu
  have hmoves : (r.core.update ruckig feedback command commandFresh dt
      imu).1.drive.status.isMoving = true → r.core.previousSpeeds = r.reference :=
    fun hmoving => h.near (r.core.active_of_moving ruckig feedback hmoving)
  simp only [step, KeepsEnvelope]
  generalize r.core.update ruckig feedback command commandFresh dt imu = outcome
    at hdrives hdecides hmoves ⊢
  obtain ⟨next, returned⟩ := outcome
  dsimp only at hdrives hmoves ⊢
  have hconfig : next.config = r.core.config := hdecides.config_eq
  have hmotion : next.motion = motion := hdecides.motion_eq.trans h.sameMotion
  have husable : r.core.usablePeriod dt =
      dt.filter fun period => 0 < period ∧ period ≤ motion.maxUpdatePeriod := by
    rw [MotionCore.usablePeriod, h.sameMotion]
  cases hdrives with
  | ramps period usable ramps velocity moving =>
    have hspeed : next.commandedSpeed = next.previousSpeeds := by
      funext index
      have hradius := (r.core.config.wheelRadius_pos index).ne'
      rw [MotionCore.commandedSpeed, velocity, hconfig, div_mul_cancel₀ _ hradius]
    have hbounded := ramps.bounded
    have hnear := ramps.near
    rw [h.sameMotion] at hbounded hnear
    refine ⟨⟨hmotion, hbounded h.bounded, fun _ => hspeed.symm⟩, ?_, ?_⟩
    · intro _ other hother _ _ index
      rw [MotionCore.usablePeriod_self usable, Option.some.injEq] at hother
      rw [← hother, hspeed]
      refine ⟨hbounded h.bounded index, ?_⟩
      rw [← hmoves moving]
      exact hnear index
    · intro hstill
      exact absurd moving (by simp [hstill])
  | halts speeds velocity status =>
    have hspeed : next.commandedSpeed = next.previousSpeeds := by
      funext index
      rw [MotionCore.commandedSpeed, velocity, zero_mul, speeds]
    refine ⟨⟨hmotion, ?_, fun _ => hspeed.symm⟩, ?_, fun _ => velocity⟩
    · intro index
      dsimp only
      rw [speeds, abs_zero]
      exact motion.maxWheelSpeed_pos.le
    · intro hmoving period hdt hpos hle
      have hnone := status hmoving
      rw [husable, hdt, Option.filter_eq_none_iff] at hnone
      exact absurd (decide_eq_true ⟨hpos, hle⟩) (hnone period rfl)

theorem Invariant.next (h : r.Invariant motion) (call : CoreCall) :
    (r.step ruckig call).Invariant motion := by
  cases call with
  | activate feedback =>
    obtain ⟨hmotion, hspeeds⟩ := r.core.activate_rests ruckig feedback
    simp only [step]
    generalize r.core.activate ruckig feedback = outcome at hmotion hspeeds ⊢
    obtain ⟨next, activated⟩ := outcome
    dsimp only at hmotion hspeeds ⊢
    refine ⟨hmotion.trans h.sameMotion, fun index => ?_, fun hactive => ?_⟩
    · change |next.previousSpeeds index| ≤ _
      rcases hspeeds with ⟨-, -, hzero⟩ | ⟨-, -, hkept⟩
      · rw [hzero, abs_zero]
        exact motion.maxWheelSpeed_pos.le
      · rw [hkept]
        exact h.bounded index
    · rcases hspeeds with ⟨hok, -, hzero⟩ | ⟨-, hinactive, -⟩
      · rw [reference, if_pos (by simp [hok])]
        exact hzero
      · exact absurd hactive (ne_true_of_eq_false hinactive)
  | deactivate =>
    refine ⟨h.sameMotion, fun _ => ?_, nofun⟩
    exact abs_zero.trans_le motion.maxWheelSpeed_pos.le
  | update feedback command commandFresh dt imu =>
    exact (h.update ruckig feedback command commandFresh dt imu).1

end WheelRun

/-- Over every sequence of calls the wheels keep their envelope, from the speeds of the last tick
or, behind an activation, from rest. -/
theorem wheel_envelope {G : Type*} (ruckig : Ruckig G) (config : CoreConfig)
    (motion : MotionConfig) (calls : List CoreCall) :
    Along (WheelRun.step ruckig) (WheelRun.KeepsEnvelope ruckig motion WheelRun.reference)
      ⟨.create ruckig config motion, fun _ => 0, false⟩ calls := by
  have hstart : WheelRun.Invariant motion ⟨MotionCore.create ruckig config motion, fun _ => 0,
      false⟩ :=
    ⟨rfl, fun _ => abs_zero.trans_le motion.maxWheelSpeed_pos.le, fun _ => rfl⟩
  refine LabelledRun.along_of_invariant (P := WheelRun.Invariant motion)
    (fun _ call h => h.next ruckig call) (fun r call h => ?_) hstart calls
  cases call with
  | activate feedback => exact trivial
  | deactivate => exact trivial
  | update feedback command commandFresh dt imu =>
    exact (h.update ruckig feedback command commandFresh dt imu).2

namespace Bench

variable {period : ℝ}

variable (core : MotionCore Unit) in
theorem drives_off (hconfig : core.config = Spin.config) (hmotion : core.motion = motion)
    (hpos : 0 < period) (hle : period ≤ 1 / 500) :
    let next := ((core.activate ruckig (feedback true)).1.update ruckig (feedback true) ahead true
      (some period) none).1
    next.drive.status = .running ∧ next.commandedSpeed = (fun _ => period) ∧
      next.config = Spin.config ∧ next.motion = motion := by
  have hparked := parked_activate core hconfig hmotion
  have hdecides := (core.activate ruckig (feedback true)).1.decides_update ruckig (feedback true)
    ahead true (some period) none
  have hdrive := (hparked.updates hpos hle).drive
  refine ⟨by rw [hdrive], ?_, hdecides.config_eq.trans hparked.config,
    hdecides.motion_eq.trans hparked.motion⟩
  funext index
  rw [MotionCore.commandedSpeed, hdrive, hdecides.config_eq, hparked.config]
  exact mul_one period

/-- Two activations, each with a tick that drives off. -/
def restarted : List CoreCall :=
  [.activate (feedback true), .update (feedback true) ahead true (some (1 / 500)) none,
    .deactivate, .activate (feedback true),
    .update (feedback true) ahead true (some (1 / 2000)) none]

end Bench

/-- The tick behind an activation ramps up from rest, whatever the last tick before it was. -/
theorem restart_leaves_envelope :
    ¬Along (WheelRun.step Bench.ruckig)
      (WheelRun.KeepsEnvelope Bench.ruckig Bench.motion WheelRun.commanded)
      ⟨.create Bench.ruckig Spin.config Bench.motion, fun _ => 0, false⟩ Bench.restarted := by
  rintro ⟨-, -, -, -, h, -⟩
  obtain ⟨-, hspeed, hconfig, hmotion⟩ := Bench.drives_off (.create Bench.ruckig Spin.config
    Bench.motion) rfl rfl (by norm_num : (0 : ℝ) < 1 / 500) le_rfl
  obtain ⟨hstatus, hspeed', -, -⟩ := Bench.drives_off (MotionCore.deactivate Bench.ruckig
    (((MotionCore.create Bench.ruckig Spin.config Bench.motion).activate Bench.ruckig
      (Bench.feedback true)).1.update Bench.ruckig (Bench.feedback true) Bench.ahead true
        (some (1 / 500)) none).1) hconfig hmotion (by norm_num : (0 : ℝ) < 1 / 2000) (by norm_num)
  have hmoves := h.1 (congrArg ControlStatus.isMoving hstatus) (1 / 2000) rfl (by norm_num)
    (by norm_num [Bench.motion]) 0
  have hnear : |(1 : ℝ) / 2000 - 1 / 500| ≤ 1 * (1 / 2000) := by
    have hlast := hmoves.2
    change |MotionCore.commandedSpeed _ 0 - MotionCore.commandedSpeed _ 0| ≤ 1 * (1 / 2000) at hlast
    exact (congrArg₂ (fun now before => |now - before|) (congrFun hspeed' 0)
      (congrFun hspeed 0)).symm.trans_le hlast
  norm_num [abs_le] at hnear

end RobotDriver.Swerve

end
