import RobotDriver.Swerve.FaultLatch

/-!
# The stop after a latched fault

The latch, its flag and its two timers read nothing of the controller but whether the wheels stand
and whether they can be measured. The ticks since the latch are kept beside a run: the timers are
times of theirs.
-/

noncomputable section

open scoped Classical

namespace RobotDriver.Swerve

open LabelledRun (Along)

/-- The latch with what decides when the disable may follow. -/
structure StopLatch where
  latched : Bool
  ready : Bool
  since : ℤ
  stoppedSince : ℤ

/-- A tick that tracks the fault. -/
structure TrackedTick where
  now : ℤ
  feedback : Module → MotionFeedback

def Tick.tracked : Tick → Option TrackedTick
  | .read now feedback _ _ => some ⟨now, feedback⟩
  | _ => none

namespace TrackedTick

variable (radius : Module → ℝ) (config : SwerveConfig) (tick : TrackedTick)

def wheelSpeed (index : Module) : Option ℝ :=
  (tick.feedback index).wheelVelocity.map (· * radius index)

def Measurable : Prop := ∀ index, (tick.wheelSpeed radius index).isSome = true

/-- Every wheel is measured at or below the fault stop speed. -/
def Stopped : Prop :=
  ∀ index, ∃ speed ∈ tick.wheelSpeed radius index, |speed| ≤ config.faultStopSpeed

/-- The seconds since an earlier tick. -/
def elapsed (earlier : TrackedTick) : ℝ := ((tick.now - earlier.now : ℤ) : ℝ) / 10 ^ 9

end TrackedTick

namespace StopLatch

variable (radius : Module → ℝ) (config : SwerveConfig) (latch : StopLatch) (tick : TrackedTick)

def latchFault (fault : Bool) (now : ℤ) : StopLatch :=
  if fault && !latch.latched then { latch with latched := true, since := now, stoppedSince := 0 }
  else latch

def awaitStop : StopLatch :=
  if !latch.latched || latch.ready then latch
  else
    let stopped := decide (tick.Stopped radius config)
    let measurable := decide (tick.Measurable radius)
    let since := if !stopped then 0 else if latch.stoppedSince = 0 then tick.now
      else latch.stoppedSince
    let held : ℝ := if stopped then ((tick.now - since : ℤ) : ℝ) / 10 ^ 9 else 0
    { latch with
      stoppedSince := since
      ready := decide ((stopped = true ∧ config.faultStopHold ≤ held) ∨ measurable = false ∨
        config.faultStopTimeout ≤ ((tick.now - latch.since : ℤ) : ℝ) / 10 ^ 9) }

end StopLatch

namespace SwerveController

variable {G : Type*} (ruckig : Ruckig G) (s : SwerveController G)

def stopLatch : StopLatch :=
  ⟨s.faultLatched, s.faultStopReady, s.faultSince, s.wheelsStoppedSince⟩

def wheelRadius : Module → ℝ := s.core.config.wheelRadius

theorem stopLatch_latchFault (status : ControlStatus) (now : ℤ) :
    (s.latchFault status now).stopLatch = s.stopLatch.latchFault status.isFault now := by
  rw [latchFault, apply_ite stopLatch]
  rfl

theorem stopLatch_awaitStop (feedback : Module → MotionFeedback) (now : ℤ) :
    (s.awaitStop feedback now).stopLatch =
      s.stopLatch.awaitStop s.wheelRadius s.config ⟨now, feedback⟩ := by
  have hstopped : s.wheelsStopped feedback =
      decide (TrackedTick.Stopped s.wheelRadius s.config ⟨now, feedback⟩) :=
    decide_eq_decide.2 Iff.rfl
  have hmeasurable : decide (∀ index, (s.wheelSpeed feedback index).isSome = true) =
      decide (TrackedTick.Measurable s.wheelRadius ⟨now, feedback⟩) :=
    decide_eq_decide.2 Iff.rfl
  rw [awaitStop, apply_ite stopLatch, hstopped, hmeasurable]
  rfl

theorem stopLatch_trackFault (status : ControlStatus) (feedback : Module → MotionFeedback)
    (now : ℤ) : (s.trackFault status feedback now).stopLatch =
      (s.stopLatch.latchFault status.isFault now).awaitStop s.wheelRadius s.config
        ⟨now, feedback⟩ := by
  have hframe : (s.latchFault status now).wheelRadius = s.wheelRadius ∧
      (s.latchFault status now).config = s.config := by
    obtain ⟨since, stoppedSince, hlatch⟩ := latchFault_eq (s := s) status now
    rw [hlatch]
    exact ⟨rfl, rfl⟩
  rw [trackFault, stopLatch_awaitStop, stopLatch_latchFault, hframe.1, hframe.2]

end SwerveController

section Frames

variable {G : Type*} (ruckig : Ruckig G)

theorem MotionCore.activate_config (core : MotionCore G) (feedback : Module → MotionFeedback) :
    (core.activate ruckig feedback).1.config = core.config := by
  unfold MotionCore.activate
  split_ifs <;> rfl

namespace SwerveController

variable {s : SwerveController G}

variable {ruckig} in
theorem applied_config {parameters : SteeringParameters} {core : MotionCore G}
    (h : s.applySteeringMotionParameters ruckig parameters = some core) :
    core.config = s.core.config := by
  unfold applySteeringMotionParameters at h
  split_ifs at h
  · rw [← Option.some.inj h]
  · split at h
    · cases h
    · split_ifs at h
      rw [← Option.some.inj h]
      rfl

theorem stopLatch_refuse (now : ℤ) : (s.refuse now).stopLatch = s.stopLatch := by
  unfold refuse
  split_ifs <;> rfl

theorem stopLatch_fail (status : ControlStatus) (feedback : Module → MotionFeedback) (now : ℤ) :
    (s.fail status feedback now).stopLatch =
      (s.stopLatch.latchFault status.isFault now).awaitStop s.wheelRadius s.config
        ⟨now, feedback⟩ :=
  stopLatch_trackFault _ status feedback now

theorem stopLatch_publish (feedback : Module → MotionFeedback) (now : ℤ) :
    ∃ fault, (s.publish feedback now).stopLatch =
      (s.stopLatch.latchFault fault now).awaitStop s.wheelRadius s.config ⟨now, feedback⟩ := by
  unfold publish
  dsimp only
  split_ifs
  all_goals first
    | exact ⟨_, (stopLatch_refuse now).trans (stopLatch_trackFault _ _ feedback now)⟩
    | exact ⟨_, stopLatch_fail _ feedback now⟩

theorem frame_trackFault (status : ControlStatus) (feedback : Module → MotionFeedback) (now : ℤ) :
    (s.trackFault status feedback now).config = s.config ∧
      (s.trackFault status feedback now).wheelRadius = s.wheelRadius := by
  obtain ⟨stopReady, since, stoppedSince, htrack⟩ := trackFault_eq (s := s) status feedback now
  rw [htrack]
  exact ⟨rfl, rfl⟩

theorem frame_fail (status : ControlStatus) (feedback : Module → MotionFeedback) (now : ℤ) :
    (s.fail status feedback now).config = s.config ∧
      (s.fail status feedback now).wheelRadius = s.wheelRadius :=
  frame_trackFault (s := SwerveController.stopOutputs { s with
    ready := false
    blockBefore := now }) status feedback now

theorem frame_refuse (now : ℤ) :
    (s.refuse now).config = s.config ∧ (s.refuse now).wheelRadius = s.wheelRadius := by
  unfold refuse
  split_ifs <;> exact ⟨rfl, rfl⟩

theorem frame_publish (feedback : Module → MotionFeedback) (now : ℤ) :
    (s.publish feedback now).config = s.config ∧
      (s.publish feedback now).wheelRadius = s.wheelRadius := by
  have hrefused : ∀ next : SwerveController G, ∀ status, next.config = s.config →
      next.wheelRadius = s.wheelRadius →
      ((next.trackFault status feedback now).refuse now).config = s.config ∧
        ((next.trackFault status feedback now).refuse now).wheelRadius = s.wheelRadius := by
    intro next status hconfig hradius
    obtain ⟨hrefuse, hrefuse'⟩ := frame_refuse (s := next.trackFault status feedback now) now
    obtain ⟨htrack, htrack'⟩ := frame_trackFault (s := next) status feedback now
    exact ⟨hrefuse.trans (htrack.trans hconfig), hrefuse'.trans (htrack'.trans hradius)⟩
  unfold publish
  dsimp only
  split_ifs
  all_goals first
    | exact hrefused _ _ rfl rfl
    | exact frame_trackFault _ feedback now

/-- The tick that a step finishes. -/
def trackedTick (s : SwerveController G) : ControllerStep → Option TrackedTick
  | .finishTick _ => s.tick.tracked
  | _ => none

variable (s) in
/-- A successful activation. -/
def Activates : ControllerStep → Prop
  | .activate bound delay parameters feedback =>
    s.Unlocked ∧ (s.onActivate ruckig bound delay parameters feedback).2 = true
  | _ => False

theorem finishTick_tracks {tick : TrackedTick} {imu : Option YawSample}
    (h : s.trackedTick (.finishTick imu) = some tick) :
    (∃ fault, (s.finishTick ruckig imu).stopLatch =
      (s.stopLatch.latchFault fault tick.now).awaitStop s.wheelRadius s.config tick) ∧
      (s.finishTick ruckig imu).config = s.config ∧
      (s.finishTick ruckig imu).wheelRadius = s.wheelRadius := by
  change s.tick.tracked = some tick at h
  cases htick : s.tick with
  | idle | began now feedback dt =>
    rw [htick] at h
    cases h
  | read now feedback dt command =>
    rw [htick] at h
    cases h
    have hconfig := (s.core.decides_update ruckig feedback command.speeds
      (s.commandFresh command now) dt imu).config_eq
    rw [finishTick, htick]
    dsimp only
    generalize s.core.update ruckig feedback command.speeds (s.commandFresh command now) dt imu =
      outcome at hconfig
    have hradius : ({ s with core := outcome.1, tick := .idle } : SwerveController G).wheelRadius =
        s.wheelRadius := congrArg CoreConfig.wheelRadius hconfig
    split_ifs
    · obtain ⟨fault, hlatch⟩ := stopLatch_publish (s := { s with
        core := outcome.1
        tick := .idle }) feedback now
      obtain ⟨hkept, hkept'⟩ := frame_publish (s := { s with
        core := outcome.1
        tick := .idle }) feedback now
      rw [hradius] at hlatch
      exact ⟨⟨fault, hlatch⟩, hkept, hkept'.trans hradius⟩
    · have hlatch := stopLatch_fail (s := { s with core := outcome.1, tick := .idle })
        .feedbackFault feedback now
      obtain ⟨hkept, hkept'⟩ := frame_fail (s := { s with core := outcome.1, tick := .idle })
        .feedbackFault feedback now
      rw [hradius] at hlatch
      exact ⟨⟨_, hlatch⟩, hkept, hkept'.trans hradius⟩

variable (s) in
/-- What an attempt to activate leaves of the latch. -/
def Attempts (outcome : SwerveController G × Bool) : Prop :=
  outcome.1.config = s.config ∧ outcome.1.wheelRadius = s.wheelRadius ∧
    outcome.1.stopLatch =
      if outcome.2 then { s.stopLatch with latched := false, ready := false } else s.stopLatch

theorem onActivate_attempts (bound : Bool) (delay : ℕ) (parameters : SteeringParameters)
    (feedback : Module → MotionFeedback) :
    s.Attempts (s.onActivate ruckig bound delay parameters feedback) := by
  unfold onActivate
  split_ifs
  · exact ⟨rfl, rfl, rfl⟩
  · split
    · exact ⟨rfl, rfl, rfl⟩
    · rename_i core happlied
      have hcore := applied_config happlied
      have hactivate := MotionCore.activate_config ruckig core feedback
      generalize core.activate ruckig feedback = outcome at hactivate
      obtain ⟨activated, ok⟩ := outcome
      have hradius : activated.config.wheelRadius = s.wheelRadius :=
        congrArg CoreConfig.wheelRadius (hactivate.trans hcore)
      cases ok with
      | false => exact ⟨rfl, hradius, rfl⟩
      | true =>
        have hupdate := (activated.decides_update ruckig feedback {} false (some (4 / 1000))
          none).config_eq
        dsimp only
        rw [if_neg (by simp)]
        generalize activated.update ruckig feedback {} false (some (4 / 1000)) none = outcome
          at hupdate
        have hradius' : outcome.1.config.wheelRadius = s.wheelRadius :=
          (congrArg CoreConfig.wheelRadius hupdate).trans hradius
        split_ifs
        · exact ⟨rfl, hradius', rfl⟩
        · exact ⟨rfl, hradius', rfl⟩

theorem step_frame (s : SwerveController G) (label : ControllerStep) :
    (s.step ruckig label).config = s.config ∧
      (s.step ruckig label).wheelRadius = s.wheelRadius ∧
      ((s.trackedTick label = none ∧ (s.step ruckig label).stopLatch = s.stopLatch) ∨
        (s.trackedTick label = none ∧ s.Activates ruckig label ∧
          (s.step ruckig label).stopLatch =
            { s.stopLatch with latched := false, ready := false }) ∨
        ∃ tick fault, s.trackedTick label = some tick ∧ (s.step ruckig label).stopLatch =
          (s.stopLatch.latchFault fault tick.now).awaitStop s.wheelRadius s.config tick) := by
  cases label with
  | activate bound delay parameters feedback =>
    unfold step
    dsimp only
    split_ifs with hunlocked
    · obtain ⟨hconfig, hradius, hlatch⟩ :=
        onActivate_attempts ruckig (s := s) bound delay parameters feedback
      refine ⟨hconfig, hradius, ?_⟩
      cases hok : (s.onActivate ruckig bound delay parameters feedback).2 with
      | true =>
        rw [hok, if_pos rfl] at hlatch
        exact .inr (.inl ⟨rfl, ⟨hunlocked, hok⟩, hlatch⟩)
      | false =>
        rw [hok, if_neg Bool.false_ne_true] at hlatch
        exact .inl ⟨rfl, hlatch⟩
    · exact ⟨rfl, rfl, .inl ⟨rfl, rfl⟩⟩
  | deactivate =>
    unfold step
    dsimp only
    split_ifs
    · exact ⟨rfl, rfl, .inl ⟨rfl, rfl⟩⟩
    · exact ⟨rfl, rfl, .inl ⟨rfl, rfl⟩⟩
  | beginTick delay feedback dt =>
    unfold step beginTick
    dsimp only
    split
    · split_ifs <;> exact ⟨rfl, rfl, .inl ⟨rfl, rfl⟩⟩
    · exact ⟨rfl, rfl, .inl ⟨rfl, rfl⟩⟩
  | readCommand busy =>
    unfold step readCommand
    dsimp only
    split <;> exact ⟨rfl, rfl, .inl ⟨rfl, rfl⟩⟩
  | finishTick imu =>
    cases htracked : s.trackedTick (.finishTick imu) with
    | none =>
      have hkept : s.finishTick ruckig imu = s := by
        change s.tick.tracked = none at htracked
        unfold finishTick
        cases htick : s.tick with
        | idle => rfl
        | began now feedback dt => rfl
        | read now feedback dt command =>
          rw [htick] at htracked
          cases htracked
      change (s.finishTick ruckig imu).config = _ ∧ (s.finishTick ruckig imu).wheelRadius = _ ∧
        ((_ ∧ (s.finishTick ruckig imu).stopLatch = _) ∨ _)
      rw [hkept]
      exact ⟨rfl, rfl, .inl ⟨rfl, rfl⟩⟩
    | some tick =>
      obtain ⟨⟨fault, hlatch⟩, hconfig, hradius⟩ := finishTick_tracks ruckig htracked
      exact ⟨hconfig, hradius, .inr (.inr ⟨tick, fault, rfl, hlatch⟩)⟩
  | acceptCheck message generation =>
    unfold step acceptCheck
    dsimp only
    split
    · split_ifs <;> exact ⟨rfl, rfl, .inl ⟨rfl, rfl⟩⟩
    · exact ⟨rfl, rfl, .inl ⟨rfl, rfl⟩⟩
  | acceptStamp delay =>
    unfold step acceptStamp
    dsimp only
    split <;> exact ⟨rfl, rfl, .inl ⟨rfl, rfl⟩⟩
  | acceptStore =>
    unfold step acceptStore
    dsimp only
    split <;> exact ⟨rfl, rfl, .inl ⟨rfl, rfl⟩⟩

end SwerveController

end Frames

/-- A run with the ticks since the fault was latched, the latest first. -/
structure FaultHistory (G : Type*) where
  controller : SwerveController G
  ticks : List TrackedTick := []

/-- All ticks of the hold time, up to the latest, found the wheels stopped. -/
def Held (radius : Module → ℝ) (config : SwerveConfig) (ticks : List TrackedTick) : Prop :=
  ∃ held older last first, ticks = held ++ older ∧ held.head? = some last ∧
    held.getLast? = some first ∧ (∀ tick ∈ held, tick.Stopped radius config) ∧
    config.faultStopHold ≤ last.elapsed first

/-- The fault was latched as long ago as the timeout. -/
def TimedOut (config : SwerveConfig) (ticks : List TrackedTick) : Prop :=
  ∃ last first, ticks.head? = some last ∧ ticks.getLast? = some first ∧
    config.faultStopTimeout ≤ last.elapsed first

/-- The timers are times of ticks since the latch. -/
structure StopLatch.Dates (radius : Module → ℝ) (config : SwerveConfig) (latch : StopLatch)
    (ticks : List TrackedTick) : Prop where
  cleared : latch.latched = false → ticks = []
  since : latch.latched = true → ∃ first, ticks.getLast? = some first ∧ first.now = latch.since
  stopped : latch.latched = true → latch.ready = false → latch.stoppedSince ≠ 0 →
    ∃ held older first, ticks = held ++ older ∧ held.getLast? = some first ∧
      first.now = latch.stoppedSince ∧ ∀ tick ∈ held, tick.Stopped radius config

namespace StopLatch

variable {radius : Module → ℝ} {config : SwerveConfig} {latch : StopLatch}
  {ticks : List TrackedTick} {tick : TrackedTick}

/-- What a tick that finds the fault latched makes of the timers. -/
structure Awaits (radius : Module → ℝ) (config : SwerveConfig) (ticks : List TrackedTick)
    (latch next : StopLatch) : Prop where
  latched : next.latched = true
  dates : next.Dates radius config ticks
  sound : next.ready = true → latch.ready = false →
    Held radius config ticks ∨ (∃ tick, ticks.head? = some tick ∧ ¬tick.Measurable radius) ∨
      TimedOut config ticks
  bounded : TimedOut config ticks → next.ready = true
  kept : latch.ready = true → next.ready = true

theorem exists_held (htick : tick.Stopped radius config)
    (hstopped : latch.stoppedSince ≠ 0 →
      ∃ held older first, ticks = held ++ older ∧ held.getLast? = some first ∧
        first.now = latch.stoppedSince ∧ ∀ tick ∈ held, tick.Stopped radius config) :
    ∃ held older first, tick :: ticks = held ++ older ∧ held.head? = some tick ∧
      held.getLast? = some first ∧
      first.now = (if latch.stoppedSince = 0 then tick.now else latch.stoppedSince) ∧
      ∀ tick ∈ held, tick.Stopped radius config := by
  by_cases hzero : latch.stoppedSince = 0
  · refine ⟨[tick], ticks, tick, rfl, rfl, rfl, (if_pos hzero).symm, ?_⟩
    intro other hother
    rw [List.mem_singleton.1 hother]
    exact htick
  · obtain ⟨held, older, first, rfl, hlast, hfirst, hall⟩ := hstopped hzero
    refine ⟨tick :: held, older, first, rfl, rfl, ?_, ?_, List.forall_mem_cons.2 ⟨htick, hall⟩⟩
    · rw [List.getLast?_cons, hlast]
      rfl
    · rw [if_neg hzero, hfirst]

theorem awaits (hlatched : latch.latched = true)
    (hsince : ∃ first, (tick :: ticks).getLast? = some first ∧ first.now = latch.since)
    (hstopped : latch.ready = false → latch.stoppedSince ≠ 0 →
      ∃ held older first, ticks = held ++ older ∧ held.getLast? = some first ∧
        first.now = latch.stoppedSince ∧ ∀ tick ∈ held, tick.Stopped radius config) :
    Awaits radius config (tick :: ticks) latch (latch.awaitStop radius config tick) := by
  obtain ⟨first, hfirst, hnow⟩ := hsince
  have htimeout : TimedOut config (tick :: ticks) ↔
      config.faultStopTimeout ≤ ((tick.now - latch.since : ℤ) : ℝ) / 10 ^ 9 := by
    rw [← hnow]
    constructor
    · rintro ⟨last, other, hlast, hother, helapsed⟩
      cases hlast
      rw [hfirst] at hother
      cases hother
      exact helapsed
    · intro helapsed
      exact ⟨tick, first, rfl, hfirst, helapsed⟩
  cases hready : latch.ready with
  | true =>
    have hkept : latch.awaitStop radius config tick = latch := by
      rw [awaitStop, if_pos (by simp [hready])]
    rw [hkept]
    refine ⟨hlatched, ⟨fun hclear => ?_, fun _ => ⟨first, hfirst, hnow⟩, fun _ hnot => ?_⟩,
      fun _ hnot => ?_, fun _ => hready, id⟩
    · exact absurd hlatched (by simp [hclear])
    · exact absurd hready (by simp [hnot])
    · exact absurd hready (by simp [hnot])
  | false =>
    have hopen : ¬(!latch.latched || latch.ready) = true := by simp [hlatched, hready]
    rw [awaitStop, if_neg hopen]
    dsimp only
    refine ⟨hlatched, ⟨fun hclear => ?_, fun _ => ⟨first, hfirst, hnow⟩, fun _ _ hnonzero => ?_⟩,
      fun hraised _ => ?_, fun htimed => ?_, fun hnot => ?_⟩
    · exact absurd hlatched (by simp [show latch.latched = false from hclear])
    · by_cases htick : tick.Stopped radius config
      · obtain ⟨held, older, first, hticks, -, hlast, hsince, hall⟩ :=
          exists_held htick (hstopped hready)
        refine ⟨held, older, first, hticks, hlast, ?_, hall⟩
        rw [hsince]
        simp [htick]
      · simp [htick] at hnonzero
    · rcases of_decide_eq_true hraised with ⟨htick, hheld⟩ | hmeasured | helapsed
      · have htick := of_decide_eq_true htick
        obtain ⟨held, older, first, hticks, hhead, hlast, hsince, hall⟩ :=
          exists_held htick (hstopped hready)
        refine .inl ⟨held, older, tick, first, hticks, hhead, hlast, hall, ?_⟩
        rw [TrackedTick.elapsed, hsince]
        simpa [htick] using hheld
      · exact .inr (.inl ⟨tick, rfl, of_decide_eq_false hmeasured⟩)
      · exact .inr (.inr (htimeout.2 helapsed))
    · exact decide_eq_true (.inr (.inr (htimeout.1 htimed)))
    · exact absurd hready (by simp [hnot])

theorem Dates.tracked (h : latch.Dates radius config ticks) (fault : Bool) (tick : TrackedTick) :
    (latch.latched = false ∧
        (latch.latchFault fault tick.now).awaitStop radius config tick = latch) ∨
      ∃ before, before.ready = latch.ready ∧ Awaits radius config (tick :: ticks) before
        ((latch.latchFault fault tick.now).awaitStop radius config tick) := by
  by_cases hfault : (fault && !latch.latched) = true
  · have hunlatched : latch.latched = false := by
      rw [Bool.and_eq_true, Bool.not_eq_true'] at hfault
      exact hfault.2
    rw [latchFault, if_pos hfault, h.cleared hunlatched]
    refine .inr ⟨{ latch with latched := true, since := tick.now, stoppedSince := 0 }, rfl, ?_⟩
    exact awaits rfl ⟨tick, rfl, rfl⟩ fun _ hzero => absurd rfl hzero
  · rw [latchFault, if_neg hfault]
    cases hlatched : latch.latched with
    | false =>
      refine .inl ⟨rfl, ?_⟩
      rw [awaitStop, if_pos (by simp [hlatched])]
    | true =>
      obtain ⟨first, hfirst, hnow⟩ := h.since hlatched
      refine .inr ⟨latch, rfl, awaits hlatched ⟨first, ?_, hnow⟩ (h.stopped hlatched)⟩
      rw [List.getLast?_cons, hfirst]
      rfl

end StopLatch

namespace FaultHistory

variable {G : Type*} (ruckig : Ruckig G) (radius : Module → ℝ) (config : SwerveConfig)
  (h : FaultHistory G)

/-- The ticks are dropped where the latch is cleared. -/
def step (label : SwerveController.ControllerStep) : FaultHistory G :=
  { controller := h.controller.step ruckig label
    ticks :=
      if (h.controller.step ruckig label).faultLatched then
        (h.controller.trackedTick label).toList ++ h.ticks
      else [] }

/-- The flag is raised by a tick of the latched fault that has held the wheels stopped, cannot
measure them or is past the timeout, by every tick past the timeout, and for good. -/
def StopsSoundly (label : SwerveController.ControllerStep) : Prop :=
  ((h.step ruckig label).controller.faultStopReady = true →
      h.controller.faultStopReady = false →
      (h.step ruckig label).controller.faultLatched = true ∧
        ∃ tick, h.controller.trackedTick label = some tick ∧
          (h.step ruckig label).ticks.head? = some tick ∧
          (Held radius config (h.step ruckig label).ticks ∨ ¬tick.Measurable radius ∨
            TimedOut config (h.step ruckig label).ticks)) ∧
    ((h.controller.trackedTick label).isSome → TimedOut config (h.step ruckig label).ticks →
      (h.step ruckig label).controller.faultStopReady = true) ∧
    (h.controller.faultStopReady = true → ¬h.controller.Activates ruckig label →
      (h.step ruckig label).controller.faultStopReady = true)

structure Invariant : Prop where
  sameConfig : h.controller.config = config
  sameRadius : h.controller.wheelRadius = radius
  dates : h.controller.stopLatch.Dates radius config h.ticks

variable {radius config h}

theorem Invariant.step_sound (hinv : h.Invariant radius config)
    (label : SwerveController.ControllerStep) :
    (h.step ruckig label).Invariant radius config ∧
      h.StopsSoundly ruckig radius config label := by
  obtain ⟨hconfig, hradius, hlatch⟩ := h.controller.step_frame ruckig label
  have hflags : ∀ {latch : StopLatch}, (h.controller.step ruckig label).stopLatch = latch →
      (h.controller.step ruckig label).faultLatched = latch.latched ∧
        (h.controller.step ruckig label).faultStopReady = latch.ready := by
    rintro latch rfl
    exact ⟨rfl, rfl⟩
  rcases hlatch with ⟨htick, hkept⟩ | ⟨htick, hactivates, hcleared⟩ | ⟨tick, fault, htick, htracks⟩
  · have hticks : (h.step ruckig label).ticks = h.ticks := by
      rw [step, htick, (hflags hkept).1]
      cases hlatched : h.controller.stopLatch.latched with
      | true => rfl
      | false => exact (hinv.dates.cleared hlatched).symm
    refine ⟨⟨hconfig.trans hinv.sameConfig, hradius.trans hinv.sameRadius, ?_⟩, ?_, ?_, ?_⟩
    · rw [hticks]
      exact hkept ▸ hinv.dates
    · intro hraised hbefore
      have hready := (hflags hkept).2
      exact absurd (hready.symm.trans hraised) (by simp [SwerveController.stopLatch, hbefore])
    · simp [htick]
    · intro hready _
      exact (hflags hkept).2.trans hready
  · have hticks : (h.step ruckig label).ticks = [] := by
      rw [step, (hflags hcleared).1]
      rfl
    refine ⟨⟨hconfig.trans hinv.sameConfig, hradius.trans hinv.sameRadius, ?_⟩, ?_, ?_, ?_⟩
    · rw [hticks]
      change (h.controller.step ruckig label).stopLatch.Dates radius config []
      rw [hcleared]
      exact ⟨fun _ => rfl, nofun, nofun⟩
    · intro hraised _
      exact absurd ((hflags hcleared).2.symm.trans hraised) (by simp)
    · simp [htick]
    · intro _ hnot
      exact absurd hactivates hnot
  · rw [hinv.sameRadius, hinv.sameConfig] at htracks
    rcases hinv.dates.tracked fault tick with ⟨hunlatched, hkept⟩ | ⟨before, hbefore, hawaits⟩
    · rw [hkept] at htracks
      have hticks : (h.step ruckig label).ticks = [] := by
        rw [step, (hflags htracks).1, hunlatched]
        rfl
      refine ⟨⟨hconfig.trans hinv.sameConfig, hradius.trans hinv.sameRadius, ?_⟩, ?_, ?_, ?_⟩
      · rw [hticks, ← hinv.dates.cleared hunlatched]
        exact htracks ▸ hinv.dates
      · intro hraised hnot
        exact absurd ((hflags htracks).2.symm.trans hraised)
          (by simp [SwerveController.stopLatch, hnot])
      · rintro - ⟨last, first, hlast, -⟩
        rw [hticks] at hlast
        cases hlast
      · intro hready _
        exact (hflags htracks).2.trans hready
    · rw [← htracks] at hawaits
      have hticks : (h.step ruckig label).ticks = tick :: h.ticks := by
        rw [step, htick]
        exact if_pos hawaits.latched
      rw [← hticks] at hawaits
      refine ⟨⟨hconfig.trans hinv.sameConfig, hradius.trans hinv.sameRadius, hawaits.dates⟩,
        ?_, ?_, ?_⟩
      · intro hraised hnot
        have hhead : (h.step ruckig label).ticks.head? = some tick := by rw [hticks, List.head?_cons]
        refine ⟨hawaits.latched, tick, htick, hhead, ?_⟩
        rcases hawaits.sound hraised (hbefore.trans hnot) with hheld | hmeasured | htimed
        · exact .inl hheld
        · obtain ⟨other, hother, hmeasured⟩ := hmeasured
          rw [hhead] at hother
          cases hother
          exact .inr (.inl hmeasured)
        · exact .inr (.inr htimed)
      · exact fun _ htimed => hawaits.bounded htimed
      · exact fun hready _ => hawaits.kept (hbefore.trans hready)

theorem invariant_configured (config : SwerveConfig) (core : CoreConfig) (motion : MotionConfig)
    (boot : ℕ) : (⟨.configured ruckig config core motion boot, []⟩ : FaultHistory G).Invariant
      core.wheelRadius config where
  sameConfig := rfl
  sameRadius := rfl
  dates :=
    { cleared := fun _ => rfl
      since := nofun
      stopped := nofun }

end FaultHistory

/-- The stop after a latched fault is awaited soundly and not for longer than the timeout. -/
theorem fault_stop_sound {G : Type*} (ruckig : Ruckig G) (config : SwerveConfig)
    (core : CoreConfig) (motion : MotionConfig) (boot : ℕ)
    (labels : List SwerveController.ControllerStep) :
    Along (FaultHistory.step ruckig)
      (fun h => h.StopsSoundly ruckig core.wheelRadius config)
      ⟨.configured ruckig config core motion boot, []⟩ labels :=
  LabelledRun.along_of_invariant (P := FaultHistory.Invariant core.wheelRadius config)
    (fun _ label hinv => (hinv.step_sound ruckig label).1)
    (fun _ label hinv => (hinv.step_sound ruckig label).2)
    (FaultHistory.invariant_configured ruckig config core motion boot) labels

end RobotDriver.Swerve

end
