import RobotDriver.Swerve.StraightAhead

/-!
# The latched motion fault

While a fault is latched, every tick whose feedback is good admits commands until it ends. What is
stamped in the meantime is later than the time that the tick blocks, and the next tick obeys it.
-/

noncomputable section

open scoped Classical

namespace RobotDriver.Swerve

open LabelledRun (Along run run_cons run_nil run_append along_append)

namespace MotionCore

variable {G : Type*} (ruckig : Ruckig G) (core : MotionCore G)
  (feedback : Module → MotionFeedback)

/-- The wheels are told to stand. -/
structure Standing (core : MotionCore G) : Prop where
  velocity : ∀ index, core.drive.driveVelocity index = 0
  speeds : ∀ index, core.previousSpeeds index = 0

variable {core feedback}

theorem Decides.standing_of_fault {dt : Option ℝ} {next : MotionCore G} {returned : Bool}
    (h : core.Decides feedback dt (next, returned)) (hreturned : returned = true)
    (hfault : next.drive.status.isFault = true) : next.Standing := by
  cases h with
  | throws kept => exact (Bool.false_ne_true hreturned).elim
  | stops stopped => exact ⟨stopped.velocity, stopped.speeds⟩
  | commits committed => exact absurd hfault (ne_true_of_eq_false committed.healthy)

theorem standing_update (hspeeds : ∀ index, core.previousSpeeds index = 0)
    (command : CommandSpeeds) (dt : Option ℝ) (imu : Option YawSample) :
    (core.update ruckig feedback command false dt imu).1.Standing := by
  have hdecides := core.decides_update ruckig feedback command false dt imu
  have hreturns := core.update_returns ruckig feedback command false dt imu
  have hslows := core.update_slows ruckig feedback command dt imu
  have hrest : ∀ index,
      (core.update ruckig feedback command false dt imu).1.previousSpeeds index = 0 := by
    intro index
    have hslow := hslows index
    rw [hspeeds index, abs_zero] at hslow
    exact abs_nonpos_iff.1 hslow
  generalize core.update ruckig feedback command false dt imu = outcome at hdecides hreturns hrest ⊢
  cases hdecides with
  | throws kept => exact (Bool.false_ne_true hreturns).elim
  | stops stopped => exact ⟨stopped.velocity, stopped.speeds⟩
  | commits committed =>
    refine ⟨fun index => ?_, hrest⟩
    rw [committed.velocity, hrest index, zero_div]

variable (core feedback) in
theorem activate_rests :
    (core.activate ruckig feedback).1.motion = core.motion ∧
      (((core.activate ruckig feedback).2 = true ∧ (core.activate ruckig feedback).1.active = true ∧
          (core.activate ruckig feedback).1.previousSpeeds = fun _ => 0) ∨
        ((core.activate ruckig feedback).2 = false ∧
          (core.activate ruckig feedback).1.active = false ∧
          (core.activate ruckig feedback).1.previousSpeeds = core.previousSpeeds)) := by
  unfold activate
  split_ifs
  · exact ⟨rfl, .inl ⟨rfl, rfl, rfl⟩⟩
  · exact ⟨rfl, .inr ⟨rfl, rfl, rfl⟩⟩

end MotionCore

namespace SwerveController

variable {G : Type*} (ruckig : Ruckig G) (s : SwerveController G)

/-- A tick that ends with the fault latched drives no wheel faster than the one before, and one that
began so has no fresh command. -/
def RestsLatched : ControllerStep → Prop
  | .finishTick imu =>
    (s.step ruckig (.finishTick imu)).faultLatched = true →
      (∀ index, |(s.step ruckig (.finishTick imu)).driveCommands index| ≤ |s.driveCommands index|) ∧
      (s.faultLatched = true → ∀ now feedback dt command,
        s.tick = .read now feedback dt command → s.commandFresh command now = false)
  | _ => True

/-- A command that the block refuses. -/
def Late (command : Command) : Prop := command.valid = true → command.received ≤ s.blockBefore

/-- No valid command is later than the block, and none is still to be stamped. -/
structure Blocked : Prop where
  stored : s.Late s.stored
  visible : s.Late s.visible
  admitted : ∀ message, s.call = .admitted message → message.valid = false
  stamped : ∀ command, s.call = .stamped command → s.Late command

/-- While the fault is latched no valid command is admitted, and a tick begins with all of them
blocked. -/
def RefusesLatched : ControllerStep → Prop
  | .acceptCheck message generation => s.faultLatched = true → message.valid = true →
      ¬(s.call = .idle ∧ s.active = true ∧ s.ready = true ∧ generation = s.generation)
  | .beginTick _ _ _ => s.faultLatched = true → s.active = true → s.tick = .idle → s.Blocked
  | _ => True

/-- The command that a step of `accept_command` stores. -/
def storing : ControllerStep → Option Command
  | .acceptStore =>
    match s.call with
    | .stamped command => some command
    | _ => none
  | _ => none

/-- The command that a tick obeys, if it finds it fresh. -/
def obeying : ControllerStep → Option Command
  | .finishTick _ =>
    match s.tick with
    | .read now _ _ command => if s.commandFresh command now then some command else none
    | _ => none
  | _ => none

def accepted : SwerveController G → List ControllerStep → List Command
  | _, [] => []
  | s, label :: labels => (s.storing label).toList ++ accepted (s.step ruckig label) labels

def applied : SwerveController G → List ControllerStep → List Command
  | _, [] => []
  | s, label :: labels => (s.obeying label).toList ++ applied (s.step ruckig label) labels

/-- What has been accepted until a fault is latched, or while it is, is never applied again. -/
def ForgetsLatched (labels : List ControllerStep) : Prop :=
  ∀ earlier later, labels = earlier ++ later →
    (run (step ruckig) s earlier).faultLatched = true →
    ∀ command ∈ s.accepted ruckig earlier,
      command ∉ (run (step ruckig) s earlier).applied ruckig later

/-- The tick that is under way. -/
def During (now : ℤ) : Prop :=
  ∃ feedback dt, s.tick = .began now feedback dt ∨ ∃ command, s.tick = .read now feedback dt command

structure Resting : Prop where
  driveCommands : ∀ index, s.driveCommands index = 0
  speeds : ∀ index, s.core.previousSpeeds index = 0

structure LatchInvariant (s : SwerveController G) : Prop where
  sound : s.core.Sound
  live : s.active = true → s.core.active = true
  block_le : s.blockBefore ≤ s.clock
  running : ∀ now, s.During now → s.active = true ∧ now ≤ s.clock
  resting : s.faultLatched = true → s.Resting
  blocked : s.faultLatched = true → ∀ now, s.During now → s.Blocked
  read : s.faultLatched = true → ∀ now feedback dt command,
    s.tick = .read now feedback dt command → s.Late command

section Tracking

variable {s}

theorem latchFault_eq (status : ControlStatus) (now : ℤ) :
    ∃ since stoppedSince, s.latchFault status now =
      { s with
        faultLatched := s.faultLatched || status.isFault
        faultSince := since
        wheelsStoppedSince := stoppedSince } := by
  unfold latchFault
  cases hlatched : s.faultLatched <;> cases hfault : status.isFault
  · exact ⟨s.faultSince, s.wheelsStoppedSince, by simp [← hlatched]⟩
  · exact ⟨now, 0, by simp⟩
  · exact ⟨s.faultSince, s.wheelsStoppedSince, by simp [← hlatched]⟩
  · exact ⟨s.faultSince, s.wheelsStoppedSince, by simp [← hlatched]⟩

theorem awaitStop_eq (feedback : Module → MotionFeedback) (now : ℤ) :
    ∃ stopReady stoppedSince, s.awaitStop feedback now =
      { s with faultStopReady := stopReady, wheelsStoppedSince := stoppedSince } := by
  by_cases hdone : (!s.faultLatched || s.faultStopReady) = true
  · rw [awaitStop, if_pos hdone]
    exact ⟨s.faultStopReady, s.wheelsStoppedSince, rfl⟩
  · rw [awaitStop, if_neg hdone]
    exact ⟨_, _, rfl⟩

theorem trackFault_eq (status : ControlStatus) (feedback : Module → MotionFeedback) (now : ℤ) :
    ∃ stopReady since stoppedSince, s.trackFault status feedback now =
      { s with
        faultLatched := s.faultLatched || status.isFault
        faultStopReady := stopReady
        faultSince := since
        wheelsStoppedSince := stoppedSince } := by
  obtain ⟨since, stoppedSince, hlatch⟩ := latchFault_eq (s := s) status now
  rw [trackFault, hlatch]
  obtain ⟨stopReady, stopped, hawait⟩ := awaitStop_eq (s := { s with
    faultLatched := s.faultLatched || status.isFault
    faultSince := since
    wheelsStoppedSince := stoppedSince }) feedback now
  exact ⟨stopReady, since, stopped, hawait⟩

theorem refuse_eq (now : ℤ) : ∃ ready block, (block = s.blockBefore ∨ block = now) ∧
    (s.faultLatched = true → block = now) ∧
    s.refuse now = { s with ready := ready, blockBefore := block } := by
  unfold refuse
  split_ifs with hlatched
  · exact ⟨false, now, .inr rfl, fun _ => rfl, rfl⟩
  · exact ⟨s.ready, s.blockBefore, .inl rfl, fun hfault => absurd hfault hlatched, rfl⟩

theorem publish_eq (feedback : Module → MotionFeedback) (now : ℤ)
    (hsafe : outputSafe s.core = true) :
    ∃ ready block stopReady since stoppedSince, (block = s.blockBefore ∨ block = now) ∧
      ((s.faultLatched || s.core.drive.status.isFault) = true → block = now) ∧
      s.publish feedback now =
        { s with
          ready := ready
          blockBefore := block
          driveCommands := s.core.drive.driveVelocity
          faultLatched := s.faultLatched || s.core.drive.status.isFault
          faultStopReady := stopReady
          faultSince := since
          wheelsStoppedSince := stoppedSince } := by
  have hblocks : ∃ ready block, (block = s.blockBefore ∨ block = now) ∧
      s.publish feedback now = (({ s with
        ready := ready
        blockBefore := block
        driveCommands := s.core.drive.driveVelocity }).trackFault s.core.drive.status feedback
          now).refuse now := by
    unfold publish
    dsimp only
    split_ifs
    all_goals first | contradiction | exact ⟨_, _, .inr rfl, rfl⟩ | exact ⟨_, _, .inl rfl, rfl⟩
  obtain ⟨ready, block, hblock, hpublish⟩ := hblocks
  obtain ⟨stopReady, since, stoppedSince, htrack⟩ := trackFault_eq (s := { s with
    ready := ready
    blockBefore := block
    driveCommands := s.core.drive.driveVelocity }) s.core.drive.status feedback now
  rw [htrack] at hpublish
  obtain ⟨lastReady, last, hlast, hrefused, hrefuse⟩ := refuse_eq (s := { s with
    ready := ready
    blockBefore := block
    driveCommands := s.core.drive.driveVelocity
    faultLatched := s.faultLatched || s.core.drive.status.isFault
    faultStopReady := stopReady
    faultSince := since
    wheelsStoppedSince := stoppedSince }) now
  rw [hrefuse] at hpublish
  refine ⟨lastReady, last, stopReady, since, stoppedSince, ?_, hrefused, hpublish⟩
  rcases hlast with hkept | hnow
  · exact hblock.imp hkept.trans hkept.trans
  · exact .inr hnow

end Tracking

theorem outputSafe_of_sound {core : MotionCore G} (h : core.Sound) (hactive : core.active = true) :
    outputSafe core = true := by
  refine decide_eq_true fun index => ?_
  rw [h.published]
  exact h.safe hactive index

section Invariant

variable {s}

variable {ruckig} in
theorem applied_core {parameters : SteeringParameters} {core : MotionCore G}
    (h : s.applySteeringMotionParameters ruckig parameters = some core) :
    core = s.core ∨ ∃ config motion, core = .create ruckig config motion := by
  unfold applySteeringMotionParameters at h
  split_ifs at h
  · exact .inl (Option.some.inj h).symm
  · split at h
    · cases h
    · split_ifs at h
      exact .inr ⟨_, _, (Option.some.inj h).symm⟩

variable {ruckig} in
theorem applied_sound {parameters : SteeringParameters} {core : MotionCore G}
    (h : s.applySteeringMotionParameters ruckig parameters = some core) (hsound : s.core.Sound) :
    core.Sound := by
  rcases applied_core h with rfl | ⟨config, motion, rfl⟩
  · exact hsound
  · exact MotionCore.sound_create ruckig config motion

theorem beginTick_eq (htick : s.tick = .idle) (hactive : s.active = true) (delay : ℕ)
    (feedback : Module → MotionFeedback) (dt : Option ℝ) :
    ∃ ready block,
      (s.blockBefore ≤ s.clock + delay → s.blockBefore ≤ block ∧ block ≤ s.clock + delay) ∧
      s.beginTick delay feedback dt =
        { s with
          clock := s.clock + delay
          ready := ready
          blockBefore := block
          tick := .began (s.clock + delay) feedback dt } := by
  unfold SwerveController.beginTick
  rw [htick]
  dsimp only
  rw [if_neg (by simp [hactive])]
  refine ⟨_, _, fun hblock => ?_, rfl⟩
  split_ifs
  · exact ⟨le_rfl, hblock⟩
  · exact ⟨hblock, le_rfl⟩

theorem beginTick_of_not (h : ¬(s.tick = .idle ∧ s.active = true)) {delay : ℕ}
    {feedback : Module → MotionFeedback} {dt : Option ℝ} :
    s.beginTick delay feedback dt = s := by
  unfold SwerveController.beginTick
  split
  · rename_i htick
    have hinactive : (!s.active) = true := by
      rw [Bool.not_eq_true', ← Bool.not_eq_true]
      exact fun hactive => h ⟨htick, hactive⟩
    rw [if_pos hinactive]
  · rfl

theorem finishTick_eq (hsound : s.core.Sound) (hlive : s.core.active = true) {now : ℤ}
    {feedback : Module → MotionFeedback} {dt : Option ℝ} {command : Command}
    (htick : s.tick = .read now feedback dt command) (imu : Option YawSample) :
    ∃ ready block stopReady since stoppedSince, (block = s.blockBefore ∨ block = now) ∧
      ((s.finishTick ruckig imu).faultLatched = true → block = now) ∧
      s.finishTick ruckig imu =
        let core := (s.core.update ruckig feedback command.speeds
          (s.commandFresh command now) dt imu).1
        { s with
          core := core
          tick := .idle
          ready := ready
          blockBefore := block
          driveCommands := core.drive.driveVelocity
          faultLatched := s.faultLatched || core.drive.status.isFault
          faultStopReady := stopReady
          faultSince := since
          wheelsStoppedSince := stoppedSince } := by
  have hdecides := s.core.decides_update ruckig feedback command.speeds
    (s.commandFresh command now) dt imu
  have hreturns := s.core.update_returns ruckig feedback command.speeds
    (s.commandFresh command now) dt imu
  have hsafe := outputSafe_of_sound (hsound.decided hdecides) (hdecides.active_eq.trans hlive)
  have hfinish : s.finishTick ruckig imu = { s with
      core := (s.core.update ruckig feedback command.speeds
        (s.commandFresh command now) dt imu).1
      tick := .idle }.publish feedback now := by
    rw [SwerveController.finishTick, htick]
    dsimp only
    rw [if_pos hreturns]
  obtain ⟨ready, block, stopReady, since, stoppedSince, hblock, hrefused, hpublish⟩ :=
    publish_eq (s := { s with
      core := (s.core.update ruckig feedback command.speeds
        (s.commandFresh command now) dt imu).1
      tick := .idle }) feedback now hsafe
  refine ⟨ready, block, stopReady, since, stoppedSince, hblock, fun hlatched => hrefused ?_,
    hfinish.trans hpublish⟩
  rwa [hfinish, hpublish] at hlatched

variable {ruckig} in
theorem onActivate_eq {parameters : SteeringParameters} {core activated : MotionCore G}
    {feedback : Module → MotionFeedback} (hactive : s.active = false)
    (happlied : s.applySteeringMotionParameters ruckig parameters = some core)
    (hactivate : core.activate ruckig feedback = (activated, true)) (hsound : activated.Sound)
    (delay : ℕ) :
    (s.onActivate ruckig true delay parameters feedback).1 =
      let next := (activated.update ruckig feedback {} false (some (4 / 1000)) none).1
      { s with
        clock := s.clock + delay
        generation := s.generation + 1
        blockBefore := s.clock + delay
        stored := {}
        core := next
        driveCommands := next.drive.driveVelocity
        faultLatched := false
        faultStopReady := false
        ready := true
        active := true } := by
  have hlive : activated.active = true := by
    have hrests := (MotionCore.activate_rests ruckig core feedback).2
    rw [hactivate] at hrests
    rcases hrests with ⟨-, hactivated, -⟩ | ⟨hrefused, -⟩
    · exact hactivated
    · cases hrefused
  have hdecides := activated.decides_update ruckig feedback {} false (some (4 / 1000)) none
  have hreturns := activated.update_returns ruckig feedback {} false (some (4 / 1000)) none
  have hsafe := outputSafe_of_sound (hsound.decided hdecides) (hdecides.active_eq.trans hlive)
  unfold SwerveController.onActivate
  rw [hactive, happlied]
  dsimp only
  rw [hactivate]
  dsimp only
  rw [hreturns, hsafe]
  rfl

theorem acceptCheck_passes (hcall : s.call = .idle) (hactive : s.active = true)
    (hready : s.ready = true) (message : Twist) :
    s.acceptCheck message s.generation = { s with call := .admitted message } := by
  rw [SwerveController.acceptCheck, hcall]
  dsimp only
  rw [if_pos (by simp [hactive, hready])]

theorem not_during_of_idle (h : s.tick = .idle) (now : ℤ) : ¬s.During now := by
  rintro ⟨feedback, dt, hbegan | ⟨command, hread⟩⟩
  · exact nomatch h.symm.trans hbegan
  · exact nomatch h.symm.trans hread

namespace LatchInvariant

theorem expired (h : s.LatchInvariant) (hlatched : s.faultLatched = true) {now : ℤ}
    {feedback : Module → MotionFeedback} {dt : Option ℝ} {command : Command}
    (htick : s.tick = .read now feedback dt command) : s.commandFresh command now = false := by
  have hread := h.read hlatched now feedback dt command htick
  cases hvalid : command.valid with
  | false => simp only [commandFresh, hvalid, Bool.false_and]
  | true =>
    simp only [commandFresh, Bool.and_eq_false_iff, decide_eq_false_iff_not]
    exact .inl (.inr (not_lt.2 (hread hvalid)))

theorem finishTick (h : s.LatchInvariant) (imu : Option YawSample) :
    (s.step ruckig (.finishTick imu)).LatchInvariant ∧ s.RestsLatched ruckig (.finishTick imu) := by
  change (s.finishTick ruckig imu).LatchInvariant ∧
    ((s.finishTick ruckig imu).faultLatched = true →
      (∀ index, |(s.finishTick ruckig imu).driveCommands index| ≤ |s.driveCommands index|) ∧ _)
  cases htick : s.tick with
  | idle | began now feedback dt =>
    have hkept : s.finishTick ruckig imu = s := by rw [SwerveController.finishTick, htick]
    rw [hkept]
    exact ⟨h, fun _ => ⟨fun _ => le_rfl, fun _ _ _ _ _ hread => nomatch hread⟩⟩
  | read now feedback dt command =>
    obtain ⟨hactive, hnow⟩ := h.running now ⟨feedback, dt, .inr ⟨command, htick⟩⟩
    have hdecides := s.core.decides_update ruckig feedback command.speeds
      (s.commandFresh command now) dt imu
    have hreturns := s.core.update_returns ruckig feedback command.speeds
      (s.commandFresh command now) dt imu
    have hstanding : s.faultLatched = true → (s.core.update ruckig feedback command.speeds
        (s.commandFresh command now) dt imu).1.Standing := by
      intro hlatched
      rw [h.expired hlatched htick]
      exact MotionCore.standing_update ruckig (h.resting hlatched).speeds _ dt imu
    obtain ⟨ready, block, stopReady, since, stoppedSince, hblock, -, hfinish⟩ :=
      finishTick_eq ruckig h.sound (h.live hactive) htick imu
    rw [hfinish]
    generalize s.core.update ruckig feedback command.speeds
      (s.commandFresh command now) dt imu = outcome at hdecides hreturns hstanding ⊢
    have hsound := h.sound.decided hdecides
    have hlive : outcome.1.active = true := hdecides.active_eq.trans (h.live hactive)
    have hrest : (s.faultLatched || outcome.1.drive.status.isFault) = true →
        outcome.1.Standing := by
      intro hlatched
      rcases Bool.or_eq_true_iff.1 hlatched with hbefore | hfault
      · exact hstanding hbefore
      · exact MotionCore.Decides.standing_of_fault hdecides hreturns hfault
    refine ⟨⟨hsound, fun _ => hlive, ?_, ?_, fun hlatched => ?_, ?_, ?_⟩, fun hlatched => ⟨?_, ?_⟩⟩
    · exact hblock.elim (fun heq => heq.trans_le h.block_le) (fun heq => heq.trans_le hnow)
    · exact fun _ hduring => (not_during_of_idle rfl _ hduring).elim
    · exact ⟨(hrest hlatched).velocity, (hrest hlatched).speeds⟩
    · exact fun _ _ hduring => (not_during_of_idle rfl _ hduring).elim
    · exact fun _ _ _ _ _ hread => nomatch hread
    · intro index
      change |outcome.1.drive.driveVelocity index| ≤ _
      rw [(hrest hlatched).velocity, abs_zero]
      exact abs_nonneg _
    · rintro hbefore _ _ _ _ hread
      exact h.expired hbefore (htick.trans hread)

theorem of_idle {next : SwerveController G} (htick : next.tick = .idle) (hsound : next.core.Sound)
    (hlive : next.active = true → next.core.active = true) (hblock : next.blockBefore ≤ next.clock)
    (hresting : next.faultLatched = true → next.Resting) : next.LatchInvariant where
  sound := hsound
  live := hlive
  block_le := hblock
  running now hduring := (not_during_of_idle htick now hduring).elim
  resting := hresting
  blocked _ now hduring := (not_during_of_idle htick now hduring).elim
  read _ _ _ _ _ hread := nomatch htick.symm.trans hread

theorem deactivate (h : s.LatchInvariant) : (s.step ruckig .deactivate).LatchInvariant := by
  unfold step
  dsimp only
  split_ifs with hunlocked
  · exact of_idle hunlocked.2 (h.sound.deactivate ruckig) nofun h.block_le
      fun _ => ⟨fun _ => rfl, fun _ => rfl⟩
  · exact h

theorem beginTick (h : s.LatchInvariant) {delay : ℕ} {feedback : Module → MotionFeedback}
    {dt : Option ℝ} (hblocked : s.RefusesLatched (.beginTick delay feedback dt)) :
    (s.step ruckig (.beginTick delay feedback dt)).LatchInvariant := by
  change (s.beginTick delay feedback dt).LatchInvariant
  by_cases hbegins : s.tick = .idle ∧ s.active = true
  · obtain ⟨htick, hactive⟩ := hbegins
    have hlater : s.clock ≤ s.clock + delay := by omega
    obtain ⟨ready, block, hmoved, hbegin⟩ := beginTick_eq htick hactive delay feedback dt
    obtain ⟨hblock, hnow⟩ := hmoved (h.block_le.trans hlater)
    rw [hbegin]
    refine ⟨h.sound, h.live, hnow, ?_, fun hlatched => ?_, fun hlatched now _ => ?_, ?_⟩
    · rintro now ⟨_, _, hbegan | ⟨_, hread⟩⟩
      · cases hbegan
        exact ⟨hactive, le_rfl⟩
      · exact nomatch hread
    · exact ⟨(h.resting hlatched).driveCommands, (h.resting hlatched).speeds⟩
    · have hbefore := hblocked hlatched hactive htick
      exact ⟨fun hvalid => (hbefore.stored hvalid).trans hblock,
        fun hvalid => (hbefore.visible hvalid).trans hblock, hbefore.admitted,
        fun command hcall hvalid => (hbefore.stamped command hcall hvalid).trans hblock⟩
    · exact fun _ _ _ _ _ hread => nomatch hread
  · rw [beginTick_of_not hbegins]
    exact h

theorem readCommand (h : s.LatchInvariant) (busy : Bool) :
    (s.step ruckig (.readCommand busy)).LatchInvariant := by
  unfold step SwerveController.readCommand
  dsimp only
  split
  · rename_i now feedback dt htick
    have hduring : s.During now := ⟨feedback, dt, .inl htick⟩
    have hread : s.faultLatched = true → s.Late (if busy then s.visible else s.stored) := by
      intro hlatched
      have hblocked := h.blocked hlatched now hduring
      split_ifs
      · exact hblocked.visible
      · exact hblocked.stored
    refine ⟨h.sound, h.live, h.block_le, ?_, fun hlatched => ?_, fun hlatched _ _ => ?_, ?_⟩
    · rintro _ ⟨_, _, hbegan | ⟨_, hcommand⟩⟩
      · exact nomatch hbegan
      · cases hcommand
        exact h.running now hduring
    · exact ⟨(h.resting hlatched).driveCommands, (h.resting hlatched).speeds⟩
    · have hblocked := h.blocked hlatched now hduring
      exact ⟨hblocked.stored, hread hlatched, hblocked.admitted, hblocked.stamped⟩
    · rintro hlatched _ _ _ _ hcommand
      cases hcommand
      exact hread hlatched
  · exact h

theorem acceptCheck (h : s.LatchInvariant) {message : Twist} {generation : ℕ}
    (hrefused : s.RefusesLatched (.acceptCheck message generation)) :
    (s.step ruckig (.acceptCheck message generation)).LatchInvariant := by
  unfold step SwerveController.acceptCheck
  dsimp only
  split
  · rename_i hcall
    split_ifs with hpasses
    · simp only [Bool.and_eq_true, decide_eq_true_eq] at hpasses
      refine ⟨h.sound, h.live, h.block_le, h.running, fun hlatched => ?_,
        fun hlatched now hduring => ?_, h.read⟩
      · exact ⟨(h.resting hlatched).driveCommands, (h.resting hlatched).speeds⟩
      · have hblocked := h.blocked hlatched now hduring
        refine ⟨hblocked.stored, hblocked.visible, ?_, fun _ => nofun⟩
        rintro _ ⟨⟩
        rw [← Bool.not_eq_true]
        exact fun hvalid =>
          hrefused hlatched hvalid ⟨hcall, hpasses.1.1, hpasses.1.2, hpasses.2⟩
    · exact h
  · exact h

theorem acceptStamp (h : s.LatchInvariant) (delay : ℕ) :
    (s.step ruckig (.acceptStamp delay)).LatchInvariant := by
  unfold step SwerveController.acceptStamp
  dsimp only
  split
  · rename_i message hcall
    have hlater : s.clock ≤ s.clock + delay := by omega
    refine ⟨h.sound, h.live, h.block_le.trans hlater, fun now hduring => ?_, fun hlatched => ?_,
      fun hlatched now hduring => ?_, h.read⟩
    · exact (h.running now hduring).imp id fun hnow => hnow.trans hlater
    · exact ⟨(h.resting hlatched).driveCommands, (h.resting hlatched).speeds⟩
    · have hblocked := h.blocked hlatched now hduring
      refine ⟨hblocked.stored, hblocked.visible, fun _ => nofun, ?_⟩
      rintro _ ⟨⟩ hvalid
      exact absurd hvalid (ne_true_of_eq_false (hblocked.admitted message hcall))
  · exact h

theorem acceptStore (h : s.LatchInvariant) : (s.step ruckig .acceptStore).LatchInvariant := by
  unfold step SwerveController.acceptStore
  dsimp only
  split
  · rename_i command hcall
    refine ⟨h.sound, h.live, h.block_le, h.running, fun hlatched => ?_,
      fun hlatched now hduring => ?_, h.read⟩
    · exact ⟨(h.resting hlatched).driveCommands, (h.resting hlatched).speeds⟩
    · have hblocked := h.blocked hlatched now hduring
      exact ⟨hblocked.stamped command hcall, hblocked.visible, fun _ => nofun, fun _ => nofun⟩
  · exact h

theorem activate (h : s.LatchInvariant) (bound : Bool) (delay : ℕ)
    (parameters : SteeringParameters) (feedback : Module → MotionFeedback) :
    (s.step ruckig (.activate bound delay parameters feedback)).LatchInvariant := by
  unfold step
  dsimp only
  split_ifs with hunlocked
  · unfold onActivate
    split_ifs with hrefused
    · exact h
    · have hinactive : s.active = false := by
        cases hactive : s.active with
        | true => simp [hactive] at hrefused
        | false => rfl
      split
      · exact h
      · rename_i core happlied
        have hcore := applied_sound happlied h.sound
        have hspeeds : s.faultLatched = true → ∀ index, core.previousSpeeds index = 0 := by
          intro hlatched
          rcases applied_core happlied with rfl | ⟨config, motion, rfl⟩
          · exact (h.resting hlatched).speeds
          · exact fun _ => rfl
        have hactivated := hcore.activate ruckig feedback
        have hrests := (core.activate_rests ruckig feedback).2
        generalize core.activate ruckig feedback = outcome at hactivated hrests
        obtain ⟨activated, ok⟩ := outcome
        rcases hrests with ⟨rfl, hlive, -⟩ | ⟨rfl, -, hkept⟩
        case inr =>
          refine of_idle hunlocked.2 hactivated (fun hactive => ?_) h.block_le fun hlatched => ?_
          · exact absurd hactive (ne_true_of_eq_false hinactive)
          · exact ⟨fun _ => rfl, fun index => (congrFun hkept index).trans (hspeeds hlatched index)⟩
        case inl =>
          have hdecides := activated.decides_update ruckig feedback {} false (some (4 / 1000)) none
          dsimp only
          rw [if_neg (by simp)]
          generalize activated.update ruckig feedback {} false (some (4 / 1000)) none = outcome
            at hdecides
          have hsound := hactivated.decided hdecides
          split_ifs
          · exact of_idle hunlocked.2 hsound (fun _ => hdecides.active_eq.trans hlive) le_rfl
              nofun
          · refine of_idle hunlocked.2 (hsound.deactivate ruckig) (fun hactive => ?_) le_rfl
              fun _ => ⟨fun _ => rfl, fun _ => rfl⟩
            exact absurd hactive (ne_true_of_eq_false hinactive)
  · exact h

theorem step (h : s.LatchInvariant) {label : ControllerStep} (hrefuses : s.RefusesLatched label) :
    (s.step ruckig label).LatchInvariant := by
  cases label with
  | activate bound delay parameters feedback => exact h.activate ruckig bound delay _ feedback
  | deactivate => exact h.deactivate ruckig
  | beginTick delay feedback dt => exact h.beginTick ruckig hrefuses
  | readCommand busy => exact h.readCommand ruckig busy
  | finishTick imu => exact (h.finishTick ruckig imu).1
  | acceptCheck message generation => exact h.acceptCheck ruckig hrefuses
  | acceptStamp delay => exact h.acceptStamp ruckig delay
  | acceptStore => exact h.acceptStore ruckig

theorem rests (h : s.LatchInvariant) (label : ControllerStep) : s.RestsLatched ruckig label := by
  cases label with
  | finishTick imu => exact (h.finishTick ruckig imu).2
  | _ => exact trivial

end LatchInvariant

/-! A stamp is not later than the clock, and from an activation on the block is not before it. -/

/-- How a step moves the clock, the stamps, the block and the latch. -/
structure Advances (s next : SwerveController G) : Prop where
  clock : s.clock ≤ next.clock
  stamped : ∀ command, next.call = .stamped command →
    s.call = .stamped command ∨ command.received ≤ next.clock
  latched : s.faultLatched = true →
    next.faultLatched = true ∨ s.clock ≤ next.blockBefore ∧ next.tick = .idle
  block : s.blockBefore ≤ next.blockBefore ∨ s.clock ≤ next.blockBefore ∨
    s.During next.blockBefore
  during : ∀ now, next.During now → s.During now ∨ s.clock ≤ now

theorem Advances.refl : s.Advances s :=
  ⟨le_rfl, fun _ => .inl, .inl, .inl le_rfl, fun _ => .inl⟩

theorem advances_activate (bound : Bool) (delay : ℕ)
    (parameters : SteeringParameters) (feedback : Module → MotionFeedback) :
    s.Advances (s.step ruckig (.activate bound delay parameters feedback)) := by
  have hlater : s.clock ≤ s.clock + delay := by omega
  unfold step
  dsimp only
  split_ifs with hunlocked
  · unfold onActivate
    split_ifs
    · exact .refl
    · split
      · exact .refl
      · dsimp only
        split_ifs
        · exact ⟨le_rfl, fun _ => .inl, .inl, .inl le_rfl, fun _ => .inl⟩
        · exact ⟨hlater, fun _ => .inl, fun _ => .inr ⟨hlater, hunlocked.2⟩, .inr (.inl hlater),
            fun _ => .inl⟩
        · exact ⟨hlater, fun _ => .inl, .inl, .inr (.inl hlater), fun _ => .inl⟩
  · exact .refl

theorem advances_finishTick (h : s.LatchInvariant) (imu : Option YawSample) :
    s.Advances (s.step ruckig (.finishTick imu)) := by
  change s.Advances (s.finishTick ruckig imu)
  cases htick : s.tick with
  | idle | began now feedback dt =>
    have hkept : s.finishTick ruckig imu = s := by rw [SwerveController.finishTick, htick]
    rw [hkept]
    exact .refl
  | read now feedback dt command =>
    have hduring : s.During now := ⟨feedback, dt, .inr ⟨command, htick⟩⟩
    obtain ⟨ready, block, stopReady, since, stoppedSince, hblock, -, hfinish⟩ :=
      finishTick_eq ruckig h.sound (h.live (h.running now hduring).1) htick imu
    rw [hfinish]
    refine ⟨le_rfl, fun _ => .inl, fun hlatched => .inl ?_, ?_, fun now hnext => ?_⟩
    · exact Bool.or_eq_true_iff.2 (.inl hlatched)
    · rcases hblock with rfl | rfl
      · exact .inl le_rfl
      · exact .inr (.inr hduring)
    · exact (not_during_of_idle rfl now hnext).elim

theorem advances_beginTick (h : s.LatchInvariant) (delay : ℕ) (feedback : Module → MotionFeedback)
    (dt : Option ℝ) : s.Advances (s.step ruckig (.beginTick delay feedback dt)) := by
  have hlater : s.clock ≤ s.clock + delay := by omega
  change s.Advances (s.beginTick delay feedback dt)
  by_cases hbegins : s.tick = .idle ∧ s.active = true
  · obtain ⟨ready, block, hmoved, hbegin⟩ := beginTick_eq hbegins.1 hbegins.2 delay feedback dt
    rw [hbegin]
    refine ⟨hlater, fun _ => .inl, .inl, .inl (hmoved (h.block_le.trans hlater)).1, ?_⟩
    rintro now ⟨_, _, hbegan | ⟨_, hread⟩⟩
    · cases hbegan
      exact .inr hlater
    · exact nomatch hread
  · rw [beginTick_of_not hbegins]
    exact .refl

theorem advances (h : s.LatchInvariant) (label : ControllerStep) :
    s.Advances (s.step ruckig label) := by
  cases label with
  | activate bound delay parameters feedback =>
    exact advances_activate ruckig bound delay parameters feedback
  | deactivate =>
    unfold step
    dsimp only
    split_ifs
    · exact ⟨le_rfl, fun _ => .inl, .inl, .inl le_rfl, fun _ => .inl⟩
    · exact .refl
  | beginTick delay feedback dt => exact advances_beginTick ruckig h delay feedback dt
  | readCommand busy =>
    unfold step SwerveController.readCommand
    dsimp only
    split
    · rename_i now feedback dt htick
      refine ⟨le_rfl, fun _ => .inl, .inl, .inl le_rfl, ?_⟩
      rintro _ ⟨_, _, hbegan | ⟨_, hread⟩⟩
      · exact nomatch hbegan
      · cases hread
        exact .inl ⟨feedback, dt, .inl htick⟩
    · exact .refl
  | finishTick imu => exact advances_finishTick ruckig h imu
  | acceptCheck message generation =>
    unfold step SwerveController.acceptCheck
    dsimp only
    split
    · split_ifs
      · exact ⟨le_rfl, fun _ => nofun, .inl, .inl le_rfl, fun _ => .inl⟩
      · exact .refl
    · exact .refl
  | acceptStamp delay =>
    unfold step SwerveController.acceptStamp
    dsimp only
    split
    · refine ⟨?_, ?_, .inl, .inl le_rfl, fun _ => .inl⟩
      · change s.clock ≤ s.clock + delay
        omega
      · rintro _ ⟨⟩
        exact .inr le_rfl
    · exact .refl
  | acceptStore =>
    unfold step SwerveController.acceptStore
    dsimp only
    split
    · exact ⟨le_rfl, fun _ => nofun, .inl, .inl le_rfl, fun _ => .inl⟩
    · exact .refl

theorem unlatched_of_activate {bound : Bool} {delay : ℕ} {parameters : SteeringParameters}
    {feedback : Module → MotionFeedback} (hinactive : s.active = false)
    (hactive : (s.step ruckig (.activate bound delay parameters feedback)).active = true) :
    (s.step ruckig (.activate bound delay parameters feedback)).faultLatched = false := by
  have hdown : ¬s.active = true := fun hup => ne_true_of_eq_false hinactive hup
  unfold step at hactive ⊢
  dsimp only at hactive ⊢
  split_ifs at hactive ⊢
  · unfold onActivate at hactive ⊢
    split_ifs at hactive ⊢
    · exact absurd hactive hdown
    · split at hactive
      · exact absurd hactive hdown
      · dsimp only at hactive ⊢
        split_ifs at hactive ⊢
        · exact absurd hactive hdown
        · rfl
        · exact absurd hactive hdown
  · exact absurd hactive hdown

/-- No stamp lies ahead of the clock. -/
def Stamped (s : SwerveController G) : Prop :=
  ∀ command, s.call = .stamped command → command.received ≤ s.clock

/-- A command stamped until then is refused by every tick from now on. -/
structure Outdated (since : ℤ) (s : SwerveController G) : Prop where
  clock : since ≤ s.clock
  blocked : s.faultLatched = true ∨
    since ≤ s.blockBefore ∧ ∀ now, s.During now → since ≤ now

namespace Advances

variable {next : SwerveController G}

theorem stamped_next (h : s.Advances next) (hs : s.Stamped) : next.Stamped := by
  intro command hcall
  rcases h.stamped command hcall with hbefore | hnow
  · exact (hs command hbefore).trans h.clock
  · exact hnow

theorem outdated_next (h : s.Advances next) {since : ℤ} (hs : s.Outdated since) :
    next.Outdated since := by
  refine ⟨hs.clock.trans h.clock, ?_⟩
  rcases hs.blocked with hlatched | ⟨hblock, hduring⟩
  · refine (h.latched hlatched).imp id fun ⟨hnext, hidle⟩ => ⟨hs.clock.trans hnext, ?_⟩
    exact fun now hnow => (not_during_of_idle hidle now hnow).elim
  · refine .inr ⟨?_, fun now hnow => ?_⟩
    · rcases h.block with hkept | hclock | hnow
      · exact hblock.trans hkept
      · exact hs.clock.trans hclock
      · exact hduring _ hnow
    · exact (h.during now hnow).elim (hduring now) hs.clock.trans

end Advances

namespace LatchInvariant

theorem accepted_le (h : s.LatchInvariant) (hs : s.Stamped) {labels : List ControllerStep}
    (hlabels : Along (SwerveController.step ruckig) RefusesLatched s labels) :
    s.clock ≤ (run (SwerveController.step ruckig) s labels).clock ∧
      ∀ command ∈ s.accepted ruckig labels,
        command.received ≤ (run (SwerveController.step ruckig) s labels).clock := by
  induction labels generalizing s with
  | nil => exact ⟨le_rfl, fun _ => nofun⟩
  | cons label labels ih =>
    have hadvances := advances ruckig h label
    obtain ⟨hclock, hlater⟩ := ih (h.step ruckig hlabels.1) (hadvances.stamped_next hs) hlabels.2
    refine ⟨hadvances.clock.trans hclock, fun command hmem => ?_⟩
    rcases List.mem_append.1 hmem with hnow | hrest
    · have hcall : s.call = .stamped command := by
        rw [Option.mem_toList] at hnow
        unfold storing at hnow
        split at hnow
        · split at hnow
          · rename_i hcall
            rw [hcall, Option.mem_some_iff.1 hnow]
          · exact nomatch hnow
        · exact nomatch hnow
      exact (hs command hcall).trans (hadvances.clock.trans hclock)
    · exact hlater command hrest

theorem applied_lt (h : s.LatchInvariant) {since : ℤ} (hs : s.Outdated since)
    {labels : List ControllerStep}
    (hlabels : Along (SwerveController.step ruckig) RefusesLatched s labels) :
    ∀ command ∈ s.applied ruckig labels, since < command.received := by
  induction labels generalizing s with
  | nil => exact fun _ => nofun
  | cons label labels ih =>
    intro command hmem
    rcases List.mem_append.1 hmem with hnow | hrest
    · rw [Option.mem_toList] at hnow
      unfold obeying at hnow
      split at hnow
      · split at hnow
        · rename_i now feedback dt read htick
          split_ifs at hnow with hfresh
          · cases Option.mem_some_iff.1 hnow
            rcases hs.blocked with hlatched | ⟨hblock, -⟩
            · exact absurd hfresh (ne_true_of_eq_false (h.expired hlatched htick))
            · simp only [commandFresh, Bool.and_eq_true, decide_eq_true_eq] at hfresh
              exact hblock.trans_lt hfresh.1.2
        · exact nomatch hnow
      · exact nomatch hnow
    · exact ih (h.step ruckig hlabels.1) ((advances ruckig h label).outdated_next hs) hlabels.2
        command hrest

/-- What is accepted up to a latched fault carries a stamp that no later tick obeys. -/
theorem forgets (h : s.LatchInvariant) (hs : s.Stamped) {labels : List ControllerStep}
    (hlabels : Along (SwerveController.step ruckig) RefusesLatched s labels) :
    s.ForgetsLatched ruckig labels := by
  rintro earlier later rfl hlatched command haccepted happlied
  rw [along_append] at hlabels
  have hreached := LabelledRun.invariant_run (P := LatchInvariant) (fun _ _ hs => hs.step ruckig) h
    hlabels.1
  have hbefore := (h.accepted_le ruckig hs hlabels.1).2 command haccepted
  have hafter := hreached.applied_lt ruckig ⟨le_rfl, .inl hlatched⟩ hlabels.2 command happlied
  exact hafter.not_ge hbefore

end LatchInvariant

end Invariant

theorem latchInvariant_configured (config : SwerveConfig) (core : CoreConfig)
    (motion : MotionConfig) (boot : ℕ) :
    (configured ruckig config core motion boot).LatchInvariant :=
  .of_idle rfl (MotionCore.sound_create ruckig core motion) nofun (Int.natCast_nonneg boot) nofun

end SwerveController

open SwerveController (step ControllerStep finishTick_eq RestsLatched RefusesLatched)

namespace Bench

variable {core : MotionCore Unit} (confirmed : Bool)

def configured : SwerveController Unit := .configured ruckig config Spin.config motion 0

/-- The controller after its first activation. -/
def running (core : MotionCore Unit) : SwerveController Unit where
  config := config
  core := core
  active := true
  ready := true
  generation := 1
  blockBefore := 1
  driveCommands := core.drive.driveVelocity
  clock := 1

/-- The core after the first activation. -/
def activated : MotionCore Unit :=
  (configured.core.activate ruckig (feedback true)).1

def standing : MotionCore Unit :=
  (activated.update ruckig (feedback true) {} false (some (4 / 1000)) none).1

theorem straight_activated : Straight activated :=
  straight_activate configured.core rfl rfl

theorem sound_activated : activated.Sound :=
  (MotionCore.sound_create ruckig Spin.config motion).activate ruckig (feedback true)

theorem parked_standing : Parked standing := straight_activated.parked_overlong {} false none

theorem straight_standing : Straight standing := parked_standing.toStraight

theorem sound_standing : standing.Sound :=
  sound_activated.decided (activated.decides_update ruckig (feedback true) {} false _ none)

theorem activate_configured :
    configured.step ruckig (.activate true 1 parameters (feedback true)) = running standing := by
  have hunlocked : configured.Unlocked := ⟨rfl, rfl⟩
  have hparameters : configured.applySteeringMotionParameters ruckig parameters =
      some configured.core := if_pos parameters_unchanged
  exact (if_pos hunlocked).trans
    (SwerveController.onActivate_eq rfl hparameters
      (activate_of_config configured.core rfl) sound_activated 1)

theorem beginTick_straight {s : SwerveController Unit} (hcore : Straight s.core)
    (htick : s.tick = .idle) (hactive : s.active = true) :
    s.beginTick 1 (feedback confirmed) (some (1 / 1000)) = { s with
      clock := s.clock + 1
      ready := true
      tick := .began (s.clock + 1) (feedback confirmed) (some (1 / 1000)) } := by
  have hready : (!s.core.holdFaultLatched && s.core.feedbackReady (feedback confirmed) &&
      (s.core.usablePeriod (some (1 / 1000))).isSome) = true := by
    rw [hcore.latched, feedbackReady_of_config confirmed hcore.config,
      usablePeriod_tick hcore.motion]
    rfl
  unfold SwerveController.beginTick
  rw [htick]
  dsimp only
  rw [if_neg (by simp [hactive]), hready]
  rfl

theorem beginTick_running (hcore : Straight core) :
    (running core).step ruckig (.beginTick 1 (feedback false) (some (1 / 1000))) =
      { running core with
        clock := 2
        tick := .began 2 (feedback false) (some (1 / 1000)) } :=
  beginTick_straight false (s := running core) hcore rfl rfl

/-- A command that is accepted while the tick of the fault is under way. -/
def accepted : Command := ⟨forward.speeds, 3, 1, true⟩

/-- Before the end of the tick whose external encoders do not confirm the angles. -/
def unconfirmed (core : MotionCore Unit) : SwerveController Unit :=
  { running core with
    clock := 3
    stored := accepted
    tick := .read 2 (feedback false) (some (1 / 1000)) {} }

def acceptLate : List ControllerStep :=
  [.beginTick 1 (feedback false) (some (1 / 1000)), .readCommand false, .acceptCheck forward 1,
    .acceptStamp 1, .acceptStore]

theorem run_acceptLate (hcore : Straight core) :
    run (step ruckig) (running core) acceptLate = unconfirmed core := by
  have hvalid : forward.valid = true := by simp [Twist.valid, forward]
  have hcheck : step ruckig { running core with
        clock := 2
        tick := .read 2 (feedback false) (some (1 / 1000)) {} } (.acceptCheck forward 1) =
      { running core with
        clock := 2
        tick := .read 2 (feedback false) (some (1 / 1000)) {}
        call := .admitted forward } := by
    exact SwerveController.acceptCheck_passes (s := { running core with
      clock := 2
      tick := .read 2 (feedback false) (some (1 / 1000)) {} }) rfl rfl rfl forward
  rw [acceptLate, run_cons, beginTick_running hcore, run_cons]
  change run _ (step ruckig { running core with
    clock := 2
    tick := .read 2 (feedback false) (some (1 / 1000)) {} } (.acceptCheck forward 1)) _ = _
  rw [hcheck, unconfirmed, accepted, ← hvalid]
  rfl

/-- The fault is latched, the command is stored and the block is before it. -/
structure Pending (s : SwerveController Unit) : Prop where
  core : Straight s.core
  sound : s.core.Sound
  active : s.active = true
  latched : s.faultLatched = true
  generation : s.generation = 1
  block : s.blockBefore < 3
  stored : s.stored = accepted
  clock : s.clock = 3
  tick : s.tick = .idle

theorem pending_unconfirmed (hcore : Straight core) (hsound : core.Sound) :
    Pending ((unconfirmed core).step ruckig (.finishTick none)) := by
  obtain ⟨ready, block, stopReady, since, stoppedSince, hblock, -, hfinish⟩ :=
    finishTick_eq (s := unconfirmed core) ruckig hsound hcore.active rfl none
  have hupdate := hcore.update_unconfirmed ({} : Command).speeds
    ((unconfirmed core).commandFresh {} 2)
  have hnext := hsound.decided (core.decides_update ruckig (feedback false) ({} : Command).speeds
    ((unconfirmed core).commandFresh {} 2) (some (1 / 1000)) none)
  change Pending ((unconfirmed core).finishTick ruckig none)
  rw [hfinish]
  refine ⟨hupdate.1, hnext, rfl, ?_, rfl, ?_, rfl, rfl, rfl⟩
  · exact congrArg ControlStatus.isFault hupdate.2
  · rcases hblock with rfl | rfl
    · exact (by norm_num : (1 : ℤ) < 3)
    · exact (by norm_num : (2 : ℤ) < 3)

theorem Pending.resumes {s : SwerveController Unit} (h : Pending s) :
    ¬RestsLatched ruckig (run (step ruckig) s
      [.beginTick 1 (feedback true) (some (1 / 1000)), .readCommand false]) (.finishTick none) := by
  have hbegin : s.step ruckig (.beginTick 1 (feedback true) (some (1 / 1000))) = { s with
      clock := s.clock + 1
      ready := true
      tick := .began (s.clock + 1) (feedback true) (some (1 / 1000)) } :=
    beginTick_straight true h.core h.tick h.active
  rw [run_cons, hbegin, run_cons, run_nil]
  intro hrests
  obtain ⟨ready, block, stopReady, since, stoppedSince, -, -, hfinish⟩ :=
    finishTick_eq ruckig (s := { s with
      clock := s.clock + 1
      ready := true
      visible := s.stored
      tick := .read (s.clock + 1) (feedback true) (some (1 / 1000)) s.stored })
      h.sound h.core.active rfl none
  have hstale := (hrests ((congrArg SwerveController.faultLatched hfinish).trans
    (Bool.or_eq_true_iff.2 (.inl h.latched)))).2 h.latched (s.clock + 1) (feedback true)
      (some (1 / 1000)) s.stored rfl
  have hfresh : fresh 3 (3 + 1) (1 / 2) = true := by
    refine decide_eq_true ⟨by norm_num, by norm_num, ?_⟩
    norm_num
  change (s.stored.valid && decide (s.stored.generation = s.generation) &&
    decide (s.blockBefore < s.stored.received) &&
    fresh s.stored.received (s.clock + 1) (1 / 2)) = false at hstale
  rw [h.stored, h.generation, h.clock] at hstale
  simp only [accepted, hfresh, h.block, decide_true, Bool.and_self, Bool.true_eq_false] at hstale

end Bench

namespace Bench

/-- The controller once a command is accepted, stamped by its clock. -/
def commanded : SwerveController Unit :=
  { running standing with
    clock := 2
    stored := ⟨ahead, 2, 1, true⟩ }

def accept : List ControllerStep :=
  [.acceptCheck forward 1, .acceptStamp 1, .acceptStore]

def tick (confirmed : Bool) : List ControllerStep :=
  [.beginTick 1 (feedback confirmed) (some (1 / 1000)), .readCommand false, .finishTick none]

theorem run_accept :
    run (step ruckig) (running standing) accept = commanded := by
  have hvalid : forward.valid = true := by simp [Twist.valid, forward]
  have hcheck : (running standing).step ruckig (.acceptCheck forward 1) =
      { running standing with call := .admitted forward } :=
    SwerveController.acceptCheck_passes (s := running standing) rfl rfl rfl forward
  rw [accept, run_cons, hcheck, commanded, ← hvalid]
  rfl

/-- Up to the tick that drives off. -/
def moves : List ControllerStep :=
  .activate true 1 parameters (feedback true) :: (accept ++ tick true)

/-- A tick with good feedback again, and the next activation. -/
def resumes : List ControllerStep :=
  tick true ++ .deactivate :: .activate true 1 parameters (feedback true) :: tick true

/-- What a tick of the bench leaves behind; a fault blocks the commands up to its time. -/
structure Ticked (s next : SwerveController Unit) : Prop where
  sound : next.core.Sound
  active : next.active = s.active
  tick : next.tick = .idle
  call : next.call = s.call
  generation : next.generation = s.generation
  clock : next.clock = s.clock + 1
  stored : next.stored = s.stored
  visible : next.visible = s.stored
  latched : next.faultLatched = (s.faultLatched || next.core.drive.status.isFault)
  driveCommands : next.driveCommands = next.core.drive.driveVelocity
  block : next.faultLatched = true → next.blockBefore = s.clock + 1

theorem run_tick (confirmed : Bool) {s : SwerveController Unit} (hcore : Straight s.core)
    (hsound : s.core.Sound) (htick : s.tick = .idle) (hactive : s.active = true) :
    Ticked s (run (step ruckig) s (tick confirmed)) ∧
      (run (step ruckig) s (tick confirmed)).core =
        (s.core.update ruckig (feedback confirmed) s.stored.speeds
          (s.commandFresh s.stored (s.clock + 1)) (some (1 / 1000)) none).1 := by
  have hbegin : s.step ruckig (.beginTick 1 (feedback confirmed) (some (1 / 1000))) = { s with
      clock := s.clock + 1
      ready := true
      tick := .began (s.clock + 1) (feedback confirmed) (some (1 / 1000)) } :=
    beginTick_straight confirmed hcore htick hactive
  let reading : SwerveController Unit := { s with
    clock := s.clock + 1
    ready := true
    visible := s.stored
    tick := .read (s.clock + 1) (feedback confirmed) (some (1 / 1000)) s.stored }
  have hticks : run (step ruckig) s (tick confirmed) =
      reading.finishTick ruckig none := by
    rw [tick, run_cons, hbegin]
    rfl
  obtain ⟨ready, block, stopReady, since, stoppedSince, -, hblock, hfinish⟩ :=
    finishTick_eq ruckig (s := reading) hsound hcore.active rfl none
  have hnext := hsound.decided (s.core.decides_update ruckig (feedback confirmed) s.stored.speeds
    (s.commandFresh s.stored (s.clock + 1)) (some (1 / 1000)) none)
  rw [hfinish] at hblock
  rw [hticks, hfinish]
  exact ⟨⟨hnext, rfl, rfl, rfl, rfl, rfl, rfl, rfl, rfl, rfl, hblock⟩, rfl⟩

/-- A tick without external encoders latches the fault. -/
theorem run_tick_unconfirmed {s : SwerveController Unit} (hcore : Straight s.core)
    (hsound : s.core.Sound) (htick : s.tick = .idle) (hactive : s.active = true) :
    Ticked s (run (step ruckig) s (tick false)) ∧
      Straight (run (step ruckig) s (tick false)).core ∧
      (run (step ruckig) s (tick false)).faultLatched = true := by
  obtain ⟨hticked, hnext⟩ := run_tick false hcore hsound htick hactive
  have hstops := hcore.update_unconfirmed s.stored.speeds
    (s.commandFresh s.stored (s.clock + 1))
  rw [← hnext] at hstops
  refine ⟨hticked, hstops.1, ?_⟩
  rw [hticked.latched, hstops.2]
  exact Bool.or_true _

/-- The first tick drives off. -/
theorem ticked_commanded :
    Ticked commanded (run (step ruckig) commanded (tick true)) ∧
      Straight (run (step ruckig) commanded (tick true)).core ∧
      (run (step ruckig) commanded (tick true)).faultLatched = false ∧
      ∀ index, (run (step ruckig) commanded (tick true)).driveCommands index = 1 / 1000 := by
  have hfresh : commanded.commandFresh commanded.stored (commanded.clock + 1) = true := by
    have hage : fresh 2 (2 + 1) (1 / 2) = true := by
      refine decide_eq_true ⟨by norm_num, by norm_num, ?_⟩
      norm_num
    change (true && decide ((1 : ℕ) = 1) && decide ((1 : ℤ) < 2) && fresh 2 (2 + 1) (1 / 2)) = true
    rw [hage]
    rfl
  have hpos : (0 : ℝ) < 1 / 1000 := by norm_num
  have hle : (1 : ℝ) / 1000 ≤ 1 / 500 := by norm_num
  obtain ⟨hticked, hcore⟩ := run_tick true (s := commanded) straight_standing sound_standing rfl rfl
  rw [hfresh] at hcore
  change _ = (standing.update ruckig (feedback true) ahead true (some (1 / 1000)) none).1 at hcore
  have hdrive := (parked_standing.updates hpos hle).drive
  rw [← hcore] at hdrive
  refine ⟨hticked, ?_, ?_, fun index => ?_⟩
  · rw [hcore]
    exact parked_standing.straight_update hpos hle sound_standing
  · rw [hticked.latched, hdrive]
    rfl
  · rw [hticked.driveCommands, hdrive]

end Bench

end RobotDriver.Swerve

end
