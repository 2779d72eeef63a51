import RobotDriver.Swerve.FaultLatch
import RobotDriver.Swerve.MeasuredMotion

/-!
# The odometry frame over reactivations

An activation of the core carries the pose over. One that has changed steering parameters puts a
new core in its place, whose pose is the initial one.
-/

noncomputable section

open scoped Classical

namespace RobotDriver.Swerve

open LabelledRun (Along run)

namespace SwerveController

variable {G : Type*} (ruckig : Ruckig G) (s : SwerveController G)

/-- The activation puts a new core in place of the one there is, even when it fails later. -/
def Replaces (bound : Bool) (parameters : SteeringParameters) : Prop :=
  s.Unlocked ∧ s.active = false ∧ bound = true ∧
    ¬parameters.unchanged s.config.alignFirst s.core.motion.setpoint ∧
    (s.applySteeringMotionParameters ruckig parameters).isSome = true

variable {ruckig s}

theorem applied_of_changed {parameters : SteeringParameters} {core : MotionCore G}
    (hchanged : ¬parameters.unchanged s.config.alignFirst s.core.motion.setpoint)
    (h : s.applySteeringMotionParameters ruckig parameters = some core) :
    ∃ config motion, core = .create ruckig config motion := by
  unfold applySteeringMotionParameters at h
  rw [if_neg hchanged] at h
  split_ifs at h
  split at h
  · cases h
  · split_ifs at h
    exact ⟨_, _, (Option.some.inj h).symm⟩

theorem frame_onActivate {parameters : SteeringParameters} {core : MotionCore G}
    (hactive : s.active = false) (hframed : core.Framed)
    (happlied : s.applySteeringMotionParameters ruckig parameters = some core) (delay : ℕ)
    (feedback : Module → MotionFeedback) :
    (s.onActivate ruckig true delay parameters feedback).1.core.Framed ∧
      (s.onActivate ruckig true delay parameters feedback).1.core.output.pose =
        core.output.pose := by
  obtain ⟨hactivated, hpose, hnothing⟩ :=
    MotionCore.activate_measures_nothing ruckig feedback core hframed
  unfold onActivate
  rw [if_neg (by simp [hactive]), happlied]
  dsimp only
  generalize core.activate ruckig feedback = outcome at hactivated hpose hnothing
  obtain ⟨activated, ok⟩ := outcome
  cases ok with
  | false => exact ⟨hactivated, hpose⟩
  | true =>
    have hupdated := MotionCore.framed_update ruckig feedback {} false (some (4 / 1000)) none
      hactivated
    have hkept := MotionCore.pose_update ruckig feedback {} false (some (4 / 1000)) none hactivated
    rw [hnothing rfl, Pose2d.moved_nothing] at hkept
    dsimp only
    rw [if_neg (by simp)]
    split_ifs
    · exact ⟨hupdated, hkept.trans hpose⟩
    · exact ⟨MotionCore.framed_deactivate ruckig hupdated, hkept.trans hpose⟩

theorem onActivate_refused {bound : Bool} (h : ¬(s.active = false ∧ bound = true)) (delay : ℕ)
    (parameters : SteeringParameters) (feedback : Module → MotionFeedback) :
    (s.onActivate ruckig bound delay parameters feedback).1 = s := by
  have hrefused : (s.active || !bound) = true := by
    cases hactive : s.active <;> cases bound <;> simp_all
  rw [onActivate, if_pos hrefused]

variable (ruckig) in
theorem frame_activate (hframed : s.core.Framed) (bound : Bool) (delay : ℕ)
    (parameters : SteeringParameters) (feedback : Module → MotionFeedback) :
    (s.step ruckig (.activate bound delay parameters feedback)).core.Framed ∧
      (¬s.Replaces ruckig bound parameters →
        (s.step ruckig (.activate bound delay parameters feedback)).core.output.pose =
          s.core.output.pose) ∧
      (s.Replaces ruckig bound parameters →
        (s.step ruckig (.activate bound delay parameters feedback)).core.output.pose = {}) := by
  by_cases hunlocked : s.Unlocked
  · have hstep : s.step ruckig (.activate bound delay parameters feedback) =
        (s.onActivate ruckig bound delay parameters feedback).1 := if_pos hunlocked
    rw [hstep]
    by_cases hstarts : s.active = false ∧ bound = true
    · obtain ⟨hactive, rfl⟩ := hstarts
      cases happlied : s.applySteeringMotionParameters ruckig parameters with
      | none =>
        have hkept : (s.onActivate ruckig true delay parameters feedback).1 = s := by
          rw [onActivate, if_neg (by simp [hactive]), happlied]
        rw [hkept]
        refine ⟨hframed, fun _ => rfl, fun hreplaces => ?_⟩
        have happlies := hreplaces.2.2.2.2
        rw [happlied] at happlies
        exact nomatch happlies
      | some core =>
        by_cases hchanged : parameters.unchanged s.config.alignFirst s.core.motion.setpoint
        · have hcore : core = s.core :=
            Option.some.inj (happlied.symm.trans (if_pos hchanged))
          subst hcore
          have hframe := frame_onActivate hactive hframed happlied delay feedback
          exact ⟨hframe.1, fun _ => hframe.2, fun hreplaces => (hreplaces.2.2.2.1 hchanged).elim⟩
        · obtain ⟨config, motion, hcore⟩ := applied_of_changed hchanged happlied
          have hcreated : core.Framed := by
            rw [hcore]
            exact MotionCore.framed_create ruckig config motion
          have hframe := frame_onActivate hactive hcreated happlied delay feedback
          refine ⟨hframe.1, fun hreplaces => (hreplaces ?_).elim, fun _ => hframe.2.trans ?_⟩
          · exact ⟨hunlocked, hactive, rfl, hchanged, Option.isSome_iff_exists.2 ⟨core, happlied⟩⟩
          · rw [hcore]
            rfl
    · rw [onActivate_refused hstarts]
      exact ⟨hframed, fun _ => rfl, fun hreplaces =>
        (hstarts ⟨hreplaces.2.1, hreplaces.2.2.1⟩).elim⟩
  · have hkept : s.step ruckig (.activate bound delay parameters feedback) = s := if_neg hunlocked
    rw [hkept]
    exact ⟨hframed, fun _ => rfl, fun hreplaces => (hunlocked hreplaces.1).elim⟩

theorem core_trackFault (status : ControlStatus) (feedback : Module → MotionFeedback) (now : ℤ) :
    (s.trackFault status feedback now).core = s.core := by
  obtain ⟨stopReady, since, stoppedSince, htrack⟩ := trackFault_eq (s := s) status feedback now
  rw [htrack]

theorem core_fail (status : ControlStatus) (feedback : Module → MotionFeedback) (now : ℤ) :
    (s.fail status feedback now).core = s.core := core_trackFault status feedback now

theorem core_refuse (now : ℤ) : (s.refuse now).core = s.core := by
  obtain ⟨ready, block, -, -, hrefuse⟩ := refuse_eq (s := s) now
  rw [hrefuse]

theorem core_publish (feedback : Module → MotionFeedback) (now : ℤ) :
    (s.publish feedback now).core = s.core := by
  unfold publish
  dsimp only
  split_ifs <;> simp only [core_refuse, core_trackFault, core_fail, block]

variable (ruckig) in
theorem core_finishTick {now : ℤ} {feedback : Module → MotionFeedback} {dt : Option ℝ}
    {command : Command} (htick : s.tick = .read now feedback dt command) (imu : Option YawSample) :
    (s.finishTick ruckig imu).core = (s.core.update ruckig feedback command.speeds
      (s.commandFresh command now) dt imu).1 := by
  rw [finishTick, htick]
  dsimp only
  split_ifs
  · exact core_publish feedback now
  · exact core_fail .feedbackFault feedback now

end SwerveController

/-- The controller beside the pose that its last tick has published. -/
structure FrameRun (G : Type*) where
  controller : SwerveController G
  published : Option Pose2d := none
  /-- The core was replaced since then. -/
  replaced : Bool := false

namespace FrameRun

open SwerveController (ControllerStep)

variable {G : Type*} (ruckig : Ruckig G) (r : FrameRun G)

def step (label : ControllerStep) : FrameRun G :=
  let next := r.controller.step ruckig label
  match label, r.controller.tick with
  | .activate bound _ parameters _, _ =>
    { r with
      controller := next
      replaced := r.replaced || decide (r.controller.Replaces ruckig bound parameters) }
  | .finishTick _, .read .. => ⟨next, some next.core.output.pose, false⟩
  | _, _ => { r with controller := next }

/-- The pose of a tick is the last one published, moved by what the tick measures. After an
activation that is the motion since then. -/
def Continues : ControllerStep → Prop
  | .finishTick imu => ∀ now feedback dt command,
      r.controller.tick = .read now feedback dt command → ∀ pose ∈ r.published,
        (r.controller.step ruckig (.finishTick imu)).core.output.pose =
          pose.moved (r.controller.core.measuredMotion feedback imu)
  | _ => True

/-- A tick of a core that was replaced follows the initial pose. -/
def Carried : ControllerStep → Prop
  | .finishTick _ => (∃ now feedback dt command,
      r.controller.tick = .read now feedback dt command) →
        r.replaced = true → ∀ pose ∈ r.published, pose = {}
  | _ => True

structure Invariant (r : FrameRun G) : Prop where
  framed : r.controller.core.Framed
  carried : r.replaced = false → ∀ pose ∈ r.published, r.controller.core.output.pose = pose
  initial : r.replaced = true → r.controller.core.output.pose = {}

variable {r}

theorem Invariant.of_pose (h : r.Invariant) (next : SwerveController G)
    (hframed : next.core.Framed)
    (hpose : next.core.output.pose = r.controller.core.output.pose) :
    Invariant { r with controller := next } :=
  ⟨hframed, fun hkept pose hpublished => hpose.trans (h.carried hkept pose hpublished),
    fun hreplaced => hpose.trans (h.initial hreplaced)⟩

theorem Invariant.step (h : r.Invariant) (label : ControllerStep) :
    (r.step ruckig label).Invariant := by
  have hkept : ∀ next : SwerveController G, next.core = r.controller.core →
      Invariant { r with controller := next } := by
    intro next hcore
    exact h.of_pose next (by rw [hcore]; exact h.framed) (by rw [hcore])
  cases label with
  | activate bound delay parameters feedback =>
    obtain ⟨hframed, hcarried, hinitial⟩ :=
      SwerveController.frame_activate ruckig h.framed bound delay parameters feedback
    refine ⟨hframed, fun hreplaced pose hpublished => ?_, fun hreplaced => ?_⟩
    · rw [FrameRun.step, Bool.or_eq_false_iff, decide_eq_false_iff_not] at hreplaced
      exact (hcarried hreplaced.2).trans (h.carried hreplaced.1 pose hpublished)
    · by_cases hreplaces : r.controller.Replaces ruckig bound parameters
      · exact hinitial hreplaces
      · rw [FrameRun.step, decide_eq_false hreplaces, Bool.or_false] at hreplaced
        exact (hcarried hreplaces).trans (h.initial hreplaced)
  | deactivate =>
    refine h.of_pose (r.controller.step ruckig .deactivate) ?_ ?_
    · unfold SwerveController.step
      dsimp only
      split_ifs
      · exact MotionCore.framed_deactivate ruckig h.framed
      · exact h.framed
    · unfold SwerveController.step
      dsimp only
      split_ifs
      · rfl
      · rfl
  | beginTick delay feedback dt =>
    refine hkept (r.controller.beginTick delay feedback dt) ?_
    unfold SwerveController.beginTick
    split
    · split <;> rfl
    · rfl
  | readCommand busy =>
    refine hkept (r.controller.readCommand busy) ?_
    unfold SwerveController.readCommand
    split <;> rfl
  | finishTick imu =>
    cases htick : r.controller.tick with
    | read now feedback dt command =>
      have hcore := SwerveController.core_finishTick ruckig htick imu
      have hframed := MotionCore.framed_update ruckig feedback command.speeds
        (r.controller.commandFresh command now) dt imu h.framed
      simp only [FrameRun.step, htick]
      refine ⟨?_, fun _ pose hpublished => Option.some.inj hpublished, nofun⟩
      change (r.controller.finishTick ruckig imu).core.Framed
      rw [hcore]
      exact hframed
    | idle | began now feedback dt =>
      simp only [FrameRun.step, htick]
      refine hkept (r.controller.finishTick ruckig imu) ?_
      rw [SwerveController.finishTick, htick]
  | acceptCheck message generation =>
    refine hkept (r.controller.acceptCheck message generation) ?_
    unfold SwerveController.acceptCheck
    split
    · split <;> rfl
    · rfl
  | acceptStamp delay =>
    refine hkept (r.controller.acceptStamp delay) ?_
    unfold SwerveController.acceptStamp
    split <;> rfl
  | acceptStore =>
    refine hkept r.controller.acceptStore ?_
    unfold SwerveController.acceptStore
    split <;> rfl

theorem Invariant.run (h : r.Invariant) (labels : List ControllerStep) :
    (LabelledRun.run (FrameRun.step ruckig) r labels).Invariant :=
  LabelledRun.invariant_all (fun _ label hr => hr.step ruckig label) h labels

theorem Invariant.continues_iff (h : r.Invariant) (label : ControllerStep) :
    r.Continues ruckig label ↔ r.Carried label := by
  cases label with
  | finishTick imu =>
    cases htick : r.controller.tick with
    | read now feedback dt command =>
      have hmoved : (r.controller.step ruckig (.finishTick imu)).core.output.pose =
          r.controller.core.output.pose.moved (r.controller.core.measuredMotion feedback imu) := by
        change (r.controller.finishTick ruckig imu).core.output.pose = _
        rw [SwerveController.core_finishTick ruckig htick]
        exact MotionCore.pose_update ruckig feedback command.speeds
          (r.controller.commandFresh command now) dt imu h.framed
      constructor
      · intro hcontinues _ hreplaced pose hpublished
        have hpose := hmoved.symm.trans (hcontinues now feedback dt command htick pose hpublished)
        rw [← h.initial hreplaced]
        exact (Pose2d.moved_injective _ hpose).symm
      · intro hcarried now' feedback' dt' command' htick' pose hpublished
        cases htick.symm.trans htick'
        have hpose : r.controller.core.output.pose = pose := by
          cases hreplaced : r.replaced with
          | false => exact h.carried hreplaced pose hpublished
          | true =>
            rw [h.initial hreplaced]
            exact (hcarried ⟨now, feedback, dt, command, htick⟩ hreplaced pose hpublished).symm
        rw [hmoved, hpose]
    | idle | began now feedback dt =>
      refine iff_of_true (fun _ _ _ _ hread => ?_) (fun ⟨_, _, _, _, hread⟩ => ?_)
      · exact nomatch htick.symm.trans hread
      · exact nomatch htick.symm.trans hread
  | _ => exact Iff.rfl

theorem invariant_configured (config : SwerveConfig) (core : CoreConfig) (motion : MotionConfig)
    (boot : ℕ) :
    Invariant { controller := .configured ruckig config core motion boot } :=
  ⟨MotionCore.framed_create ruckig core motion, fun _ _ => nofun, nofun⟩

end FrameRun

namespace Bench

/-- A tick in which the IMU reports a yaw. -/
def turn (yaw : ℝ) : List SwerveController.ControllerStep :=
  [.beginTick 1 (feedback true) (some (4 / 1000)), .readCommand false,
    .finishTick (some ⟨some yaw, some 0⟩)]

/-- The parameters with twice the slew. -/
def faster : SteeringParameters := { parameters with maxSteeringSlew := .finite 2 }

def fasterSetpoint : SwerveSetpointParameters := { setpoint with maximumSteeringSlew := 2 }

theorem fasterSetpoint_valid : fasterSetpoint.Valid :=
  { setpoint_valid with maximumSteeringSlew := two_pos }

theorem faster_permitted : faster.permitted false := by
  have hpi : (1 : ℝ) ≤ Real.pi / 2 := by linarith [Real.two_le_pi]
  refine ⟨⟨?_, hpi⟩, nofun, ⟨id, trivial⟩, ⟨?_, le_rfl⟩, ⟨id, trivial⟩⟩
  · exact not_le.2 one_pos
  · exact not_le.2 two_pos

/-- The controller at rest after some turns, and its IMU anchor. -/
structure Turned (r : FrameRun Unit) (heading : ℝ) (anchor : Option ℝ) : Prop where
  invariant : r.Invariant
  straight : Straight r.controller.core
  sound : r.controller.core.Sound
  config : r.controller.config = config
  active : r.controller.active = true
  unlocked : r.controller.Unlocked
  odometry : r.controller.core.odometry.isSome = true
  heading : r.controller.core.output.pose.heading = heading
  imuFallback : r.controller.core.imuFallback = anchor.isNone
  lastImuYaw : ∀ yaw ∈ anchor, r.controller.core.lastImuYaw = yaw

variable {r : FrameRun Unit} {heading : ℝ} {anchor : Option ℝ}

theorem Turned.measuredYaw (h : Turned r heading anchor) (yaw : ℝ) :
    (r.controller.core.measuredMotion (feedback true) (some ⟨some yaw, some 0⟩)).dyaw =
      anchor.elim 0 fun last => wrapPi (yaw - last) := by
  obtain ⟨odometry, hodometry⟩ := Option.isSome_iff_exists.1 h.odometry
  have hmeasures : (r.controller.core.measuredMotion (feedback true)
      (some ⟨some yaw, some 0⟩)).dyaw =
        if r.controller.core.imuFallback then 0 else wrapPi (yaw - r.controller.core.lastImuYaw) := by
    simp only [MotionCore.measuredMotion, h.straight.active, h.straight.latched,
      ControlCore.measuredMotion, hodometry, Bool.not_false, Bool.and_self, if_true]
    rfl
  rw [hmeasures, h.imuFallback]
  cases anchor with
  | none => rfl
  | some last =>
    rw [h.lastImuYaw last rfl]
    rfl

theorem observed_sample {core : MotionCore Unit} (h : core.odometry.isSome = true) (yaw : ℝ) :
    let observed := core.observed (feedback true) (some ⟨some yaw, some 0⟩)
    observed.odometry.isSome = true ∧ observed.imuFallback = false ∧ observed.lastImuYaw = yaw := by
  obtain ⟨odometry, hodometry⟩ := Option.isSome_iff_exists.1 h
  simp only [MotionCore.observed, ControlCore.observe, hodometry]
  exact ⟨rfl, rfl, rfl⟩

theorem Turned.turn (h : Turned r heading anchor) (yaw : ℝ) :
    Turned (run (FrameRun.step ruckig) r (turn yaw))
        (heading + anchor.elim 0 fun last => wrapPi (yaw - last)) (some yaw) ∧
      ∃ pose ∈ (run (FrameRun.step ruckig) r (Bench.turn yaw)).published,
        pose.heading = heading + anchor.elim 0 fun last => wrapPi (yaw - last) := by
  have hinvariant := h.invariant.run ruckig (Bench.turn yaw)
  obtain ⟨ready, block, -, hbegin⟩ := SwerveController.beginTick_eq h.unlocked.2 h.active 1
    (feedback true) (some (4 / 1000))
  let reading : SwerveController Unit := { r.controller with
    clock := r.controller.clock + 1
    ready := ready
    blockBefore := block
    visible := r.controller.stored
    tick := .read (r.controller.clock + 1) (feedback true) (some (4 / 1000)) r.controller.stored }
  have hrun : run (FrameRun.step ruckig) r (Bench.turn yaw) =
      ⟨reading.finishTick ruckig (some ⟨some yaw, some 0⟩),
        some (reading.finishTick ruckig (some ⟨some yaw, some 0⟩)).core.output.pose, false⟩ := by
    have hbegun : r.step ruckig (.beginTick 1 (feedback true) (some (4 / 1000))) =
        { r with controller := r.controller.beginTick 1 (feedback true) (some (4 / 1000)) } := rfl
    rw [Bench.turn, LabelledRun.run_cons, hbegun, hbegin]
    rfl
  obtain ⟨ready', block', stopReady, since, stoppedSince, -, -, hfinish⟩ :=
    SwerveController.finishTick_eq (s := reading) ruckig h.sound h.straight.active rfl
      (some ⟨some yaw, some 0⟩)
  let sample : Option YawSample := some ⟨some yaw, some 0⟩
  let fresh := reading.commandFresh r.controller.stored (r.controller.clock + 1)
  have hstraight := h.straight.update_overlong r.controller.stored.speeds fresh sample
  have hsame := MotionCore.sameFrame_update ruckig (feedback true) r.controller.stored.speeds fresh
    (some (4 / 1000)) sample h.straight.active h.straight.latched
  have hsound := h.sound.decided (r.controller.core.decides_update ruckig (feedback true)
    r.controller.stored.speeds fresh (some (4 / 1000)) sample)
  have hobserved := observed_sample h.odometry yaw
  have hheading : (r.controller.core.update ruckig (feedback true) r.controller.stored.speeds fresh
      (some (4 / 1000)) sample).1.output.pose.heading =
        heading + anchor.elim 0 fun last => wrapPi (yaw - last) := by
    rw [MotionCore.pose_update ruckig (feedback true) _ fresh (some (4 / 1000)) sample
      h.invariant.framed, ← h.measuredYaw yaw, ← h.heading]
    rfl
  rw [hrun, hfinish] at hinvariant ⊢
  refine ⟨⟨hinvariant, hstraight, hsound, h.config, h.active, ⟨h.unlocked.1, rfl⟩, ?_, hheading, ?_,
    ?_⟩, _, rfl, hheading⟩
  · exact (congrArg Option.isSome hsame.odometry).trans hobserved.1
  · exact hsame.imuFallback.trans hobserved.2.1
  · rintro _ ⟨⟩
    exact hsame.lastImuYaw.trans hobserved.2.2

theorem changed_faster {s : SwerveController Unit} (hmotion : s.core.motion = motion) :
    ¬faster.unchanged s.config.alignFirst s.core.motion.setpoint := by
  rw [hmotion]
  intro hunchanged
  have hslew : (2 : ℝ) = 1 := Double.finite.inj hunchanged.1
  norm_num at hslew

theorem applied_faster {s : SwerveController Unit} (hconfig : s.config = config)
    (hmotion : s.core.motion = motion) :
    ∃ motion, s.applySteeringMotionParameters ruckig faster =
      some (.create ruckig s.core.config motion) := by
  have hpermitted : faster.permitted s.config.alignFirst := by
    rw [hconfig]
    exact faster_permitted
  have hcandidate : faster.candidate s.config.alignFirst s.core.motion.setpoint =
      some fasterSetpoint := by
    rw [hconfig, hmotion]
    rfl
  unfold SwerveController.applySteeringMotionParameters
  rw [if_neg (changed_faster hmotion), if_neg (not_not.2 hpermitted), hcandidate]
  dsimp only
  rw [dif_pos fasterSetpoint_valid]
  exact ⟨_, rfl⟩

/-- A reactivation with changed parameters, up to the end of the first tick. -/
def reactivation : List SwerveController.ControllerStep :=
  [.deactivate, .activate true 1 faster (feedback true),
    .beginTick 1 (feedback true) (some (4 / 1000)), .readCommand false]

theorem Turned.replaced (h : Turned r heading anchor) :
    (∃ now feedback dt command,
      (run (FrameRun.step ruckig) r reactivation).controller.tick =
        .read now feedback dt command) ∧
      (run (FrameRun.step ruckig) r reactivation).replaced = true ∧
      (run (FrameRun.step ruckig) r reactivation).published = r.published := by
  let down : SwerveController Unit := r.controller.onDeactivate ruckig
  have hdown : r.step ruckig .deactivate = { r with controller := down } := by
    change FrameRun.mk (r.controller.step ruckig .deactivate) _ _ = _
    rw [SwerveController.step, if_pos h.unlocked]
  have hunlocked : down.Unlocked := ⟨h.unlocked.1, h.unlocked.2⟩
  obtain ⟨motion, happlied⟩ := applied_faster (s := down) h.config h.straight.motion
  have hreplaces : down.Replaces ruckig true faster :=
    ⟨hunlocked, rfl, rfl, changed_faster h.straight.motion, by rw [happlied]; rfl⟩
  have hactivate := activate_of_config
    (.create ruckig down.core.config motion) h.straight.config
  have hactivated := SwerveController.onActivate_eq (s := down) rfl happlied hactivate
    ((MotionCore.sound_create ruckig down.core.config motion).activate ruckig (feedback true)) 1
  have hup : FrameRun.step ruckig { r with controller := down }
      (.activate true 1 faster (feedback true)) =
        ⟨(down.onActivate ruckig true 1 faster (feedback true)).1, r.published, true⟩ := by
    change FrameRun.mk (down.step ruckig (.activate true 1 faster (feedback true))) r.published
      (r.replaced || decide (down.Replaces ruckig true faster)) = _
    rw [SwerveController.step, if_pos hunlocked, decide_eq_true hreplaces, Bool.or_true]
  obtain ⟨ready, block, -, hbegin⟩ := SwerveController.beginTick_eq
    (s := (down.onActivate ruckig true 1 faster (feedback true)).1)
    (by rw [hactivated]; exact h.unlocked.2)
    (by rw [hactivated]) 1 (feedback true) (some (4 / 1000))
  have hbegun : FrameRun.step ruckig
      ⟨(down.onActivate ruckig true 1 faster (feedback true)).1, r.published, true⟩
      (.beginTick 1 (feedback true) (some (4 / 1000))) =
        ⟨(down.onActivate ruckig true 1 faster (feedback true)).1.beginTick 1 (feedback true)
          (some (4 / 1000)), r.published, true⟩ := rfl
  rw [reactivation, LabelledRun.run_cons, hdown, LabelledRun.run_cons, hup, LabelledRun.run_cons,
    hbegun, hbegin]
  exact ⟨⟨_, _, _, _, rfl⟩, rfl, rfl⟩

theorem Turned.resets (h : Turned r heading anchor)
    (hpublished : ∃ pose ∈ r.published, pose.heading ≠ 0) :
    ¬Along (FrameRun.step ruckig) (fun r => r.Continues ruckig) r
      (reactivation ++ [.finishTick none]) := by
  intro hcontinues
  have hinvariant := h.invariant.run ruckig reactivation
  obtain ⟨hread, hreplaced, hkept⟩ := h.replaced
  have hlast := ((LabelledRun.along_append _ _ _).1 hcontinues).2.1
  obtain ⟨pose, hpose, hheading⟩ := hpublished
  rw [← hkept] at hpose
  have hinitial := (hinvariant.continues_iff ruckig (.finishTick none)).1 hlast hread hreplaced pose
    hpose
  exact hheading (congrArg Pose2d.heading hinitial)

def start : FrameRun Unit := { controller := configured }

theorem odometry_activated : activated.odometry.isSome = true := by
  have hready : configured.core.feedbackReady (feedback true) = true ∧
      ∀ index, configured.core.encoderConsistent (feedback true index) index = true :=
    ⟨feedbackReady_of_config true rfl, encoderConsistent_of_config true rfl⟩
  rw [activated, MotionCore.activate, if_pos hready]
  rfl

theorem observed_nothing {core : MotionCore Unit} (h : core.odometry.isSome = true) :
    (core.observed (feedback true) none).odometry.isSome = true ∧
      (core.observed (feedback true) none).imuFallback = true := by
  obtain ⟨odometry, hodometry⟩ := Option.isSome_iff_exists.1 h
  simp only [MotionCore.observed, ControlCore.observe, hodometry]
  exact ⟨rfl, rfl⟩

theorem pose_standing : standing.output.pose = {} := by
  obtain ⟨hframed, hpose, hnothing⟩ := MotionCore.activate_measures_nothing ruckig (feedback true)
    configured.core (MotionCore.framed_create ruckig Spin.config motion)
  have hactivate := activate_of_config configured.core rfl
  have hkept := MotionCore.pose_update ruckig (feedback true) {} false (some (4 / 1000)) none hframed
  rw [hnothing (congrArg Prod.snd hactivate), Pose2d.moved_nothing, hpose] at hkept
  exact hkept

theorem turned_start :
    Turned (start.step ruckig (.activate true 1 parameters (feedback true))) 0 none := by
  have hinvariant := (FrameRun.invariant_configured ruckig config Spin.config motion 0).step ruckig
    (.activate true 1 parameters (feedback true))
  have hstep : start.step ruckig (.activate true 1 parameters (feedback true)) =
      ⟨running standing, none,
        false || decide (configured.Replaces ruckig true parameters)⟩ :=
    congrArg (FrameRun.mk · none (false || decide (configured.Replaces ruckig true parameters)))
      activate_configured
  have hsame := MotionCore.sameFrame_update ruckig (feedback true) {} false (some (4 / 1000)) none
    straight_activated.active straight_activated.latched
  have hobserved := observed_nothing odometry_activated
  change FrameRun.Invariant (start.step ruckig _) at hinvariant
  rw [hstep] at hinvariant ⊢
  refine ⟨hinvariant, straight_standing, sound_standing, rfl, rfl, ⟨rfl, rfl⟩, ?_, ?_, ?_, nofun⟩
  · exact (congrArg Option.isSome hsame.odometry).trans hobserved.1
  · exact congrArg Pose2d.heading pose_standing
  · exact hsame.imuFallback.trans hobserved.2

end Bench

/-- Every tick continues from the pose that was published last exactly when an activation has
replaced the core only while that pose was the initial one. -/
theorem frame_continues_iff {G : Type*} (ruckig : Ruckig G) (config : SwerveConfig)
    (core : CoreConfig) (motion : MotionConfig) (boot : ℕ)
    (labels : List SwerveController.ControllerStep) :
    Along (FrameRun.step ruckig) (fun r => r.Continues ruckig)
        { controller := .configured ruckig config core motion boot } labels ↔
      Along (FrameRun.step ruckig) FrameRun.Carried
        { controller := .configured ruckig config core motion boot } labels :=
  LabelledRun.along_congr (LabelledRun.along_of_invariant (P := FrameRun.Invariant)
    (fun _ label hr => hr.step ruckig label) (fun _ label hr => hr.continues_iff ruckig label)
    (FrameRun.invariant_configured ruckig config core motion boot) labels)

/-- A turn by one radian is lost in a reactivation with another steering slew. -/
theorem changed_slew_resets_heading :
    ¬Along (FrameRun.step Bench.ruckig) (fun r => r.Continues Bench.ruckig)
      { controller := .configured Bench.ruckig Bench.config Spin.config Bench.motion 0 }
      (.activate true 1 Bench.parameters (Bench.feedback true) ::
        (Bench.turn 0 ++ (Bench.turn 1 ++ (Bench.reactivation ++ [.finishTick none])))) := by
  rintro ⟨-, h⟩
  have hanchored := (Bench.turned_start.turn 0).1
  obtain ⟨hturned, pose, hpublished, hheading⟩ := hanchored.turn 1
  rw [LabelledRun.along_append, LabelledRun.along_append] at h
  refine hturned.resets ⟨pose, hpublished, ?_⟩ h.2.2
  have hone : wrapPi 1 = 1 := by
    refine wrapPi_of_abs_lt ?_
    rw [abs_one]
    linarith [Real.two_le_pi]
  rw [hheading]
  simp [hone]

end RobotDriver.Swerve

end
