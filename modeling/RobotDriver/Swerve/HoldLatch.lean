import RobotDriver.Lib.LabelledRun
import RobotDriver.Swerve.MotionCore

/-!
# Targets and the hold latch

Every update of the core stops with the targets it had, commits the four targets of one generated
setpoint, or throws and leaves them.
-/

noncomputable section

open scoped Classical

namespace RobotDriver.Swerve

open LabelledRun (Along run)

namespace MotionCore

variable {G : Type*} (ruckig : Ruckig G) (core : MotionCore G)
  (feedback : Module → MotionFeedback)

/-- The activity, the limits, the latch and the targets are kept. -/
structure Kept (next : MotionCore G) : Prop where
  active : next.active = core.active
  config : next.config = core.config
  motion : next.motion = core.motion
  latched : next.holdFaultLatched = core.holdFaultLatched
  targets : next.lastSteeringTargets = core.lastSteeringTargets
  position : next.drive.steeringPosition = core.drive.steeringPosition

/-- The generator is kept, too. -/
structure Prepared (next : MotionCore G) : Prop extends core.Kept next where
  setpoints : next.setpoints = core.setpoints

structure Stopped (next : MotionCore G) : Prop where
  active : next.active = core.active
  config : next.config = core.config
  motion : next.motion = core.motion
  latched : core.holdFaultLatched = true → next.holdFaultLatched = true
  targets : next.lastSteeringTargets = core.lastSteeringTargets
  position : next.drive.steeringPosition = core.lastSteeringTargets
  velocity : ∀ index, next.drive.driveVelocity index = 0
  speeds : ∀ index, next.previousSpeeds index = 0
  status : next.holdFaultLatched = true →
    next.drive.status = .steeringHoldFault ∨ next.drive.status = .inactive
  inactive : next.active = false → next.drive.status = .inactive

/-- The four targets of the one call that the tick makes of the generator of the core, and the
generator behind that call. -/
def Generated (dt : Option ℝ) (positions : Module → Option ℝ)
    (setpoints : SwerveSetpointGenerator) : Prop :=
  ∃ (desired : Module → SwerveModuleState) (period : ℝ) (holding : Module → Bool)
    (targets : AlignmentResult), core.usablePeriod dt = some period ∧
    core.generate feedback desired period holding = (setpoints, some targets) ∧
    positions = fun index => some (targets.modules index).targetAngle

/-- Active, and no hold fault is latched. -/
def Runs : Prop := core.active = true ∧ core.holdFaultLatched = false

structure Committed (dt : Option ℝ) (next : MotionCore G) : Prop where
  runs : core.Runs
  active : next.active = core.active
  config : next.config = core.config
  motion : next.motion = core.motion
  latched : next.holdFaultLatched = core.holdFaultLatched
  position : next.drive.steeringPosition = next.lastSteeringTargets
  velocity : ∀ index, next.drive.driveVelocity index =
    next.previousSpeeds index / core.config.wheelRadius index
  healthy : next.drive.status.isFault = false
  generated : core.Generated feedback dt next.lastSteeringTargets next.setpoints
  within : ∀ index, ∃ target, next.lastSteeringTargets index = some target ∧
    steeringAngleWithinLimits target (core.limits index)

/-- What an update does. -/
inductive Decides (dt : Option ℝ) : MotionCore G × Bool → Prop
  | throws {next : MotionCore G} (kept : core.Kept next) : Decides dt (next, false)
  | stops {next : MotionCore G} (stopped : core.Stopped next) : Decides dt (next, true)
  | commits {next : MotionCore G} (committed : core.Committed feedback dt next) :
      Decides dt (next, true)

variable {core feedback}

theorem Stopped.of_kept {next last : MotionCore G} (hkept : core.Kept next)
    (h : next.Stopped last) : core.Stopped last where
  active := h.active.trans hkept.active
  config := h.config.trans hkept.config
  motion := h.motion.trans hkept.motion
  latched hlatched := h.latched (hkept.latched.trans hlatched)
  targets := h.targets.trans hkept.targets
  position := h.position.trans hkept.targets
  velocity := h.velocity
  speeds := h.speeds
  status := h.status
  inactive := h.inactive

theorem Committed.of_prepared {dt : Option ℝ} {next last : MotionCore G}
    (hkept : core.Prepared next) (h : next.Committed feedback dt last) :
    core.Committed feedback dt last := by
  have hlimits : next.limits = core.limits := by
    funext index
    rw [limits, limits, hkept.config]
  refine ⟨⟨hkept.active.symm.trans h.runs.1, hkept.latched.symm.trans h.runs.2⟩,
    h.active.trans hkept.active, h.config.trans hkept.config, h.motion.trans hkept.motion,
    h.latched.trans hkept.latched, h.position, ?_, h.healthy, ?_, ?_⟩
  · intro index
    rw [h.velocity, hkept.config]
  · obtain ⟨desired, period, holding, targets, hperiod, hgenerate, htargets⟩ := h.generated
    rw [usablePeriod, hkept.motion] at hperiod
    rw [generate, hkept.setpoints, hlimits, hkept.motion] at hgenerate
    exact ⟨desired, period, holding, targets, hperiod, hgenerate, htargets⟩
  · have hwithin := h.within
    rwa [hlimits] at hwithin

theorem Decides.of_prepared {dt : Option ℝ} {next : MotionCore G} {last : MotionCore G × Bool}
    (hkept : core.Prepared next) (h : next.Decides feedback dt last) :
    core.Decides feedback dt last := by
  cases h with
  | throws kept =>
    exact .throws ⟨kept.active.trans hkept.active, kept.config.trans hkept.config,
      kept.motion.trans hkept.motion, kept.latched.trans hkept.latched,
      kept.targets.trans hkept.targets, kept.position.trans hkept.position⟩
  | stops stopped => exact .stops (stopped.of_kept hkept.toKept)
  | commits committed => exact .commits (committed.of_prepared hkept)

variable (core feedback)

theorem stopped_stop (status : ControlStatus)
    (h : core.active = true ∨ status = .inactive) :
    core.Stopped (core.stop ruckig feedback status) where
  active := rfl
  config := rfl
  motion := rfl
  latched hlatched := by simp [stop, hlatched]
  targets := rfl
  position := rfl
  velocity _ := rfl
  speeds _ := rfl
  status hlatched := by
    rcases h with hactive | rfl
    · left
      have hlatched : (core.holdFaultLatched ||
        (core.active && core.holdDeviation feedback fun _ => true)) = true := hlatched
      simp only [stop]
      rw [if_pos (by rw [hlatched, hactive]; rfl)]
    · simp only [stop]
      split_ifs
      · exact .inl rfl
      · exact .inr rfl
  inactive hinactive := by
    have hdown : core.active = false := hinactive
    rcases h with hactive | rfl
    · exact absurd hactive (ne_true_of_eq_false hdown)
    · simp only [stop]
      rw [if_neg (by simp [hdown])]

theorem stopped_latch (hactive : core.active = true) :
    core.Stopped (core.latchHold.stop ruckig feedback .steeringHoldFault) := by
  have h := core.latchHold.stopped_stop ruckig feedback .steeringHoldFault (.inl hactive)
  exact ⟨h.active, h.config, h.motion, fun _ => h.latched rfl, h.targets, h.position, h.velocity,
    h.speeds, h.status, h.inactive⟩

theorem committed_commit {dt : Option ℝ} {desired : Module → SwerveModuleState} {period : ℝ}
    {holding : Module → Bool} {setpoints : SwerveSetpointGenerator} {targets : AlignmentResult}
    (hperiod : core.usablePeriod dt = some period)
    (hgenerate : core.generate feedback desired period holding = (setpoints, some targets))
    (hwithin : core.withinLimits targets) (speeds : Module → ℝ) (status : ControlStatus)
    (hhealthy : status.isFault = false) (hruns : core.Runs) :
    core.Committed feedback dt
      ({ core with setpoints := setpoints }.commit targets holding speeds status) where
  runs := hruns
  active := rfl
  config := rfl
  motion := rfl
  latched := rfl
  position := rfl
  velocity _ := rfl
  healthy := hhealthy
  generated := ⟨desired, period, holding, targets, hperiod, hgenerate, rfl⟩
  within index := ⟨_, rfl, hwithin index⟩

theorem decides_rampStop (status : ControlStatus) (dt : Option ℝ)
    (hhealthy : status.isFault = false) (hruns : core.Runs) :
    core.Decides feedback dt (core.rampStop ruckig feedback status dt) := by
  unfold rampStop
  split
  · exact .stops (core.stopped_stop ruckig feedback status (.inl hruns.1))
  · rename_i period hperiod
    split
    · exact .throws ⟨rfl, rfl, rfl, rfl, rfl, rfl⟩
    · rename_i setpoints targets hgenerate
      dsimp only
      split_ifs with hwithin
      · exact .commits (core.committed_commit feedback hperiod hgenerate hwithin _ status hhealthy
          hruns)
      · refine .stops (Stopped.of_kept ?_
          (stopped_stop ruckig { core with setpoints := setpoints } feedback .steeringLimit
            (.inl hruns.1)))
        exact ⟨rfl, rfl, rfl, rfl, rfl, rfl⟩

theorem committed_follow {dt : Option ℝ} {desired : Module → SwerveModuleState} {period : ℝ}
    {holding : Module → Bool} {setpoints : SwerveSetpointGenerator} {targets : AlignmentResult}
    (hperiod : core.usablePeriod dt = some period)
    (hgenerate : core.generate feedback desired period holding = (setpoints, some targets))
    (hwithin : core.withinLimits targets) (waiting : Bool)
    (hruns : core.Runs) :
    core.Committed feedback dt
      ({ core with setpoints := setpoints }.follow ruckig targets holding waiting period) := by
  let core' : MotionCore G := { core with setpoints := setpoints }
  have h := core.committed_commit feedback hperiod hgenerate hwithin
    (core'.followedSpeed targets waiting period) .running rfl hruns
  unfold follow settle
  dsimp only
  split_ifs <;>
    exact ⟨hruns, h.active, h.config, h.motion, h.latched, h.position, h.velocity, rfl,
      h.generated, h.within⟩

theorem decides_steerTo (desired : Module → SwerveModuleState) (holding : Module → Bool)
    (waiting : Bool) {period : ℝ} (hperiod : core.usablePeriod (some period) = some period)
    (hruns : core.Runs) :
    core.Decides feedback (some period)
      (core.steerTo ruckig feedback desired holding waiting period) := by
  unfold steerTo
  split_ifs with hdeviates
  · exact .stops (core.stopped_latch ruckig feedback hruns.1)
  · split
    · exact .throws ⟨rfl, rfl, rfl, rfl, rfl, rfl⟩
    · rename_i setpoints targets hgenerate
      dsimp only
      split_ifs with hwithin
      · exact .commits (core.committed_follow ruckig feedback hperiod hgenerate hwithin waiting
          hruns)
      · refine .stops (Stopped.of_kept ?_
          (stopped_stop ruckig { core with setpoints := setpoints } feedback .steeringLimit
            (.inl hruns.1)))
        exact ⟨rfl, rfl, rfl, rfl, rfl, rfl⟩

theorem decides_track (shaped : ChassisSpeeds) (waiting zeroRequest : Bool) {period : ℝ}
    (hperiod : core.usablePeriod (some period) = some period) (hruns : core.Runs) :
    core.Decides feedback (some period)
      (core.track ruckig feedback shaped waiting zeroRequest period) := by
  unfold track
  dsimp only
  split_ifs
  · have hrest : core.Prepared (core.restBody ruckig) := ⟨⟨rfl, rfl, rfl, rfl, rfl, rfl⟩, rfl⟩
    exact .of_prepared hrest (decides_rampStop ruckig _ feedback _ _ rfl hruns)
  · exact core.decides_rampStop ruckig feedback _ _ rfl hruns
  · exact core.decides_steerTo ruckig feedback _ _ waiting hperiod hruns

theorem decides_obey (command : ChassisSpeeds) {period : ℝ}
    (hperiod : core.usablePeriod (some period) = some period) (hruns : core.Runs) :
    core.Decides feedback (some period) (core.obey ruckig feedback command period) := by
  unfold obey
  dsimp only
  split_ifs
  · exact core.decides_rampStop ruckig feedback _ _ rfl hruns
  · generalize core.shapeBody ruckig feedback _ _ period = shaped
    obtain ⟨shaper, shaped⟩ := shaped
    have hshaped : core.Prepared { core with bodyShaper := shaper } :=
      ⟨⟨rfl, rfl, rfl, rfl, rfl, rfl⟩, rfl⟩
    exact .of_prepared hshaped
      (.stops (stopped_stop ruckig _ feedback .invalidCommand (.inl hruns.1)))
  · generalize core.shapeBody ruckig feedback _ _ period = shaped
    obtain ⟨shaper, shaped⟩ := shaped
    have hshaped : core.Prepared { core with bodyShaper := shaper } :=
      ⟨⟨rfl, rfl, rfl, rfl, rfl, rfl⟩, rfl⟩
    exact .of_prepared hshaped
      (decides_track ruckig _ feedback shaped _ _ hperiod hruns)

theorem decides_updateObserved (command : CommandSpeeds) (commandFresh : Bool) (dt : Option ℝ)
    (hruns : core.Runs) :
    core.Decides feedback dt
      (core.updateObserved ruckig feedback command commandFresh dt) := by
  have hmonitored : core.Prepared (core.monitored feedback dt) :=
    ⟨⟨rfl, rfl, rfl, rfl, rfl, rfl⟩, rfl⟩
  unfold updateObserved
  dsimp only
  split_ifs
  · exact .stops (core.stopped_stop ruckig feedback .feedbackFault (.inl hruns.1))
  · exact .of_prepared hmonitored
      (.stops (stopped_stop ruckig _ feedback .feedbackFault (.inl hruns.1)))
  · exact .of_prepared hmonitored (.stops (stopped_latch ruckig _ feedback hruns.1))
  · have hrest : (core.monitored feedback dt).Prepared
        ((core.monitored feedback dt).restBody ruckig) := ⟨⟨rfl, rfl, rfl, rfl, rfl, rfl⟩, rfl⟩
    exact .of_prepared hmonitored (.of_prepared hrest
      (decides_rampStop ruckig _ feedback .commandTimeout dt rfl hruns))
  · refine .of_prepared hmonitored ?_
    split
    · rename_i period speeds hperiod _
      obtain ⟨rfl, -⟩ := Option.filter_eq_some_iff.1 hperiod
      exact decides_obey ruckig _ feedback speeds hperiod hruns
    · exact .stops (stopped_stop ruckig _ feedback .invalidCommand (.inl hruns.1))

theorem prepared_observed (imu : Option YawSample) :
    core.Prepared (core.observed feedback imu) := by
  have hobserve : ∀ (core : ControlCore) (feedback : Module → ModuleFeedback),
      (core.observe feedback imu).active = core.active ∧
        (core.observe feedback imu).config = core.config ∧
        (core.observe feedback imu).lastSteeringTargets = core.lastSteeringTargets := by
    intro core feedback
    unfold ControlCore.observe
    split <;> exact ⟨rfl, rfl, rfl⟩
  obtain ⟨hactive, hconfig, htargets⟩ :=
    hobserve core.toControlCore (observedFeedback feedback)
  exact ⟨⟨hactive, hconfig, rfl, rfl, htargets, rfl⟩, rfl⟩

theorem decides_update (command : CommandSpeeds) (commandFresh : Bool) (dt : Option ℝ)
    (imu : Option YawSample) :
    core.Decides feedback dt (core.update ruckig feedback command commandFresh dt imu) := by
  unfold update
  split_ifs with hinactive hlatched
  · exact .stops (core.stopped_stop ruckig feedback .inactive (.inr rfl))
  · rw [Bool.not_eq_true', Bool.not_eq_false] at hinactive
    exact .stops (core.stopped_stop ruckig feedback .steeringHoldFault (.inl hinactive))
  · rw [Bool.not_eq_true', Bool.not_eq_false] at hinactive
    rw [Bool.not_eq_true] at hlatched
    have hkept := core.prepared_observed feedback imu
    exact .of_prepared hkept (decides_updateObserved ruckig _ feedback command commandFresh dt
      ⟨hkept.active.trans hinactive, hkept.latched.trans hlatched⟩)

section Outcomes

variable {core feedback}

theorem Decides.active_eq {dt : Option ℝ} {next : MotionCore G × Bool}
    (h : core.Decides feedback dt next) :
    next.1.active = core.active := by
  cases h with
  | throws kept => exact kept.active
  | stops stopped => exact stopped.active
  | commits committed => exact committed.active

theorem Decides.config_eq {dt : Option ℝ} {next : MotionCore G × Bool}
    (h : core.Decides feedback dt next) :
    next.1.config = core.config := by
  cases h with
  | throws kept => exact kept.config
  | stops stopped => exact stopped.config
  | commits committed => exact committed.config

theorem Decides.motion_eq {dt : Option ℝ} {next : MotionCore G × Bool}
    (h : core.Decides feedback dt next) :
    next.1.motion = core.motion := by
  cases h with
  | throws kept => exact kept.motion
  | stops stopped => exact stopped.motion
  | commits committed => exact committed.motion

end Outcomes

/-- The published targets are those kept, and safe while active. -/
structure Sound : Prop where
  published : core.drive.steeringPosition = core.lastSteeringTargets
  safe : core.active = true → ∀ index, ∃ target, core.lastSteeringTargets index = some target ∧
    steeringAngleWithinLimits target (core.limits index)

theorem limits_of_config {next : MotionCore G} (h : next.config = core.config) :
    next.limits = core.limits := by
  funext index
  exact congrArg (CoreConfig.steeringLimits · index) h

variable {core feedback}

theorem Sound.stopped (h : core.Sound) {next : MotionCore G} (hstopped : core.Stopped next) :
    next.Sound where
  published := hstopped.position.trans hstopped.targets.symm
  safe hactive := by
    rw [core.limits_of_config hstopped.config, hstopped.targets]
    exact h.safe (hstopped.active.symm.trans hactive)

theorem Sound.committed {dt : Option ℝ} {next : MotionCore G}
    (hcommitted : core.Committed feedback dt next) :
    next.Sound where
  published := hcommitted.position
  safe _ := by
    rw [core.limits_of_config hcommitted.config]
    exact hcommitted.within

theorem Sound.decided (h : core.Sound) {dt : Option ℝ} {next : MotionCore G × Bool}
    (hdecides : core.Decides feedback dt next) : next.1.Sound := by
  cases hdecides with
  | throws kept =>
    refine ⟨kept.position.trans (h.published.trans kept.targets.symm), fun hactive => ?_⟩
    rw [core.limits_of_config kept.config, kept.targets]
    exact h.safe (kept.active.symm.trans hactive)
  | stops stopped => exact h.stopped stopped
  | commits committed => exact .committed committed

theorem Sound.activate (h : core.Sound) (feedback : Module → MotionFeedback) :
    (core.activate ruckig feedback).1.Sound := by
  by_cases hready : core.feedbackReady feedback = true ∧
      ∀ index, core.encoderConsistent (feedback index) index = true
  · rw [MotionCore.activate, if_pos hready]
    refine ⟨rfl, fun _ index => ?_⟩
    have hmodule : core.moduleReady (feedback index).toModuleFeedback index = true :=
      of_decide_eq_true hready.1 index
    simp only [ControlCore.moduleReady, ControlCore.measurementValid, Bool.and_eq_true,
      decide_eq_true_eq] at hmodule
    obtain ⟨target, htarget⟩ := Option.isSome_iff_exists.1 hmodule.1.1.1.1.2
    refine ⟨target, htarget, ?_⟩
    have hwithin := hmodule.2
    rwa [htarget, Option.getD_some] at hwithin
  · rw [MotionCore.activate, if_neg hready]
    exact ⟨h.published, nofun⟩

theorem Sound.deactivate (h : core.Sound) : (core.deactivate ruckig).Sound :=
  ⟨h.published, nofun⟩

theorem sound_create (config : CoreConfig) (motion : MotionConfig) :
    (create ruckig config motion).Sound :=
  ⟨rfl, nofun⟩

end MotionCore

/-- A call of the core. -/
inductive CoreCall
  | activate (feedback : Module → MotionFeedback)
  | deactivate
  | update (feedback : Module → MotionFeedback) (command : CommandSpeeds) (commandFresh : Bool)
      (dt : Option ℝ) (imu : Option YawSample)

/-- The core beside the targets that were published before the hold fault was latched. -/
structure HoldRun (G : Type*) where
  core : MotionCore G
  beforeLatch : Option (Module → Option ℝ) := none

namespace HoldRun

variable {G : Type*} (ruckig : Ruckig G) (r : HoldRun G)

def step : CoreCall → HoldRun G
  | .activate feedback =>
    let (core, activated) := r.core.activate ruckig feedback
    ⟨core, if activated then none else r.beforeLatch⟩
  | .deactivate => { r with core := r.core.deactivate ruckig }
  | .update feedback command commandFresh dt imu =>
    let (core, _) := r.core.update ruckig feedback command commandFresh dt imu
    ⟨core, r.beforeLatch <|> if core.holdFaultLatched && !r.core.holdFaultLatched then
      some r.core.drive.steeringPosition else none⟩

/-- The output of an update that returns: safe targets, changed together or not at all, and those
from before the latch with no wheel speed while the hold fault is latched. -/
def Publishes : CoreCall → Prop
  | .update feedback command commandFresh dt imu =>
    let next := r.core.update ruckig feedback command commandFresh dt imu
    next.2 = true →
      (next.1.drive.status ≠ .inactive → ∀ index, ∃ target,
        next.1.drive.steeringPosition index = some target ∧
          steeringAngleWithinLimits target (r.core.config.steeringLimits index)) ∧
      (next.1.drive.steeringPosition = r.core.drive.steeringPosition ∨
        r.core.Generated feedback dt next.1.drive.steeringPosition next.1.setpoints) ∧
      ∀ targets ∈ (r.step ruckig (.update feedback command commandFresh dt imu)).beforeLatch,
        (next.1.drive.status = .steeringHoldFault ∨ next.1.drive.status = .inactive) ∧
          (∀ index, next.1.drive.driveVelocity index = 0) ∧
          next.1.drive.steeringPosition = targets
  | _ => True

structure Invariant (r : HoldRun G) : Prop where
  sound : r.core.Sound
  latched : ∀ targets ∈ r.beforeLatch,
    r.core.holdFaultLatched = true ∧ r.core.lastSteeringTargets = targets

variable {r}

theorem Invariant.activate (h : r.Invariant) (feedback : Module → MotionFeedback) :
    (r.step ruckig (.activate feedback)).Invariant := by
  refine ⟨h.sound.activate ruckig feedback, ?_⟩
  by_cases hready : r.core.feedbackReady feedback = true ∧
      ∀ index, r.core.encoderConsistent (feedback index) index = true
  · simp only [step, MotionCore.activate, if_pos hready, if_true]
    exact nofun
  · simp only [step, MotionCore.activate, if_neg hready, Bool.false_eq_true, if_false]
    exact h.latched

theorem Invariant.deactivate (h : r.Invariant) : (r.step ruckig .deactivate).Invariant :=
  ⟨h.sound.deactivate ruckig, h.latched⟩

theorem Invariant.beforeLatch (h : r.Invariant) {next : MotionCore G}
    (htargets : next.lastSteeringTargets = r.core.lastSteeringTargets)
    (hkept : r.core.holdFaultLatched = true → next.holdFaultLatched = true)
    {targets : Module → Option ℝ}
    (hmem : targets ∈ (r.beforeLatch <|>
      if next.holdFaultLatched && !r.core.holdFaultLatched then
        some r.core.drive.steeringPosition else none)) :
    next.holdFaultLatched = true ∧ next.lastSteeringTargets = targets := by
  cases hbefore : r.beforeLatch with
  | some before =>
    obtain ⟨hlatched, heq⟩ := h.latched before hbefore
    rw [hbefore] at hmem
    cases hmem
    exact ⟨hkept hlatched, htargets.trans heq⟩
  | none =>
    rw [hbefore] at hmem
    change targets ∈ (if _ then _ else _) at hmem
    split_ifs at hmem with hlatches
    · rw [Bool.and_eq_true] at hlatches
      cases hmem
      exact ⟨hlatches.1, htargets.trans h.sound.published.symm⟩
    · exact nomatch hmem

theorem Invariant.update (h : r.Invariant) (feedback : Module → MotionFeedback)
    (command : CommandSpeeds) (commandFresh : Bool) (dt : Option ℝ) (imu : Option YawSample) :
    (r.step ruckig (.update feedback command commandFresh dt imu)).Invariant ∧
      r.Publishes ruckig (.update feedback command commandFresh dt imu) := by
  have hdecides := r.core.decides_update ruckig feedback command commandFresh dt imu
  have hsound := h.sound.decided hdecides
  simp only [step, Publishes]
  generalize r.core.update ruckig feedback command commandFresh dt imu = outcome at hdecides hsound ⊢
  cases hdecides with
  | @throws next kept =>
    exact ⟨⟨hsound, fun _ hmem => h.beforeLatch kept.targets kept.latched.trans hmem⟩, nofun⟩
  | @stops next stopped =>
    refine ⟨⟨hsound, fun _ hmem => h.beforeLatch stopped.targets stopped.latched hmem⟩,
      fun _ => ⟨?_, ?_, ?_⟩⟩
    · intro hstatus index
      have hactive : next.active = true := by
        by_contra hinactive
        exact hstatus (stopped.inactive (Bool.eq_false_iff.2 hinactive))
      rw [hsound.published]
      have hsafe := hsound.safe hactive index
      rwa [r.core.limits_of_config stopped.config] at hsafe
    · exact .inl (stopped.position.trans h.sound.published.symm)
    · intro targets hmem
      obtain ⟨hlatched, htargets⟩ := h.beforeLatch stopped.targets stopped.latched hmem
      exact ⟨stopped.status hlatched, stopped.velocity,
        stopped.position.trans (stopped.targets.symm.trans htargets)⟩
  | @commits next committed =>
    have hnone : ∀ targets, ¬targets ∈ (r.beforeLatch <|>
        if next.holdFaultLatched && !r.core.holdFaultLatched then
          some r.core.drive.steeringPosition else none) := by
      intro targets hmem
      have hclear : next.holdFaultLatched = false := committed.latched.trans committed.runs.2
      cases hbefore : r.beforeLatch with
      | some before =>
        exact ne_true_of_eq_false committed.runs.2 (h.latched before hbefore).1
      | none =>
        rw [hbefore, hclear] at hmem
        exact nomatch hmem
    refine ⟨⟨hsound, fun targets hmem => (hnone targets hmem).elim⟩,
      fun _ => ⟨fun _ index => ?_, ?_, fun targets hmem => (hnone targets hmem).elim⟩⟩
    · rw [committed.position]
      exact committed.within index
    · right
      rw [committed.position]
      exact committed.generated

end HoldRun

/-- Over every sequence of calls the published targets are safe, change together or not at all, and
stay as they were, with the wheels at rest, from the hold latch to the next activation. -/
theorem hold_latch_and_safe_targets {G : Type*} (ruckig : Ruckig G) (config : CoreConfig)
    (motion : MotionConfig) (calls : List CoreCall) :
    Along (HoldRun.step ruckig) (fun r => r.Publishes ruckig) ⟨.create ruckig config motion, none⟩
      calls := by
  have hstart : HoldRun.Invariant ⟨MotionCore.create ruckig config motion, none⟩ :=
    ⟨MotionCore.sound_create ruckig config motion, nofun⟩
  refine LabelledRun.along_of_invariant (P := HoldRun.Invariant) (fun r call hr => ?_)
    (fun r call hr => ?_) hstart calls
  · cases call with
    | activate feedback => exact hr.activate ruckig feedback
    | deactivate => exact hr.deactivate ruckig
    | update feedback command commandFresh dt imu =>
      exact (hr.update ruckig feedback command commandFresh dt imu).1
  · cases call with
    | activate feedback => exact trivial
    | deactivate => exact trivial
    | update feedback command commandFresh dt imu =>
      exact (hr.update ruckig feedback command commandFresh dt imu).2

end RobotDriver.Swerve

end
