import RobotDriver.Rolling.CommandedMotion
import RobotDriver.Rolling.SessionIsolation

/-!
# The end of the buffer

A running session advances only while the rest of its image covers a stop with its margins. The
margins cover the period of the tick too when the configuration makes them so, and then a session
that runs out of points begins its stop before it would sample behind the last one.
-/

namespace RobotDriver.Rolling

open LabelledRun RollingTrajectoryController

namespace SchedulingGuard

/-- The four margins. -/
def margin (guard : SchedulingGuard) : ℕ :=
  guard.oneCycleDetectionNs + guard.stopTimeGrowthNs + guard.nonRtToRtVisibilityNs +
    guard.periodQuantizationNs

variable {guard : SchedulingGuard} {stopDurationNs sumNs : ℕ}

theorem required_eq_some (h : stopDurationNs ≤ maxUint64) :
    guard.required stopDurationNs = some sumNs ↔
      stopDurationNs + guard.margin = sumNs ∧ sumNs ≤ maxUint64 := by
  have hadd : ∀ (value : ℕ) {increment sum : ℕ}, value ≤ maxUint64 →
      (addTime value increment = some sum ↔ value + increment = sum ∧ sum ≤ maxUint64) :=
    fun _ _ _ hle => addTime_eq_some hle
  unfold required margin
  constructor
  · intro hsum
    obtain ⟨first, hfirst, hsum⟩ := Option.bind_eq_some_iff.1 hsum
    obtain ⟨second, hsecond, hsum⟩ := Option.bind_eq_some_iff.1 hsum
    obtain ⟨third, hthird, hsum⟩ := Option.bind_eq_some_iff.1 hsum
    obtain ⟨rfl, hle⟩ := (hadd _ h).1 hfirst
    obtain ⟨rfl, hle'⟩ := (hadd _ hle).1 hsecond
    obtain ⟨rfl, hle''⟩ := (hadd _ hle').1 hthird
    obtain ⟨rfl, hlast⟩ := (hadd _ hle'').1 hsum
    exact ⟨by omega, hlast⟩
  · rintro ⟨rfl, hsum⟩
    have hfirst := (hadd _ h).2 ⟨rfl, show stopDurationNs + guard.oneCycleDetectionNs ≤ _ by omega⟩
    have hsecond := (hadd (stopDurationNs + guard.oneCycleDetectionNs) (by omega)).2
      ⟨rfl, show _ + guard.stopTimeGrowthNs ≤ _ by omega⟩
    have hthird := (hadd (stopDurationNs + guard.oneCycleDetectionNs +
      guard.stopTimeGrowthNs) (by omega)).2 ⟨rfl, show _ + guard.nonRtToRtVisibilityNs ≤ _ by omega⟩
    rw [hfirst, Option.bind_some, hsecond, Option.bind_some, hthird, Option.bind_some]
    exact (hadd _ (by omega)).2 ⟨by omega, by omega⟩

theorem hasSufficientStoppingHorizon_iff {executionTimeNs bufferedUntilNs : ℕ}
    (h : stopDurationNs ≤ maxUint64) :
    hasSufficientStoppingHorizon executionTimeNs bufferedUntilNs stopDurationNs guard = true ↔
      stopDurationNs + guard.margin ≤ maxUint64 ∧
        executionTimeNs + (stopDurationNs + guard.margin) < bufferedUntilNs := by
  unfold hasSufficientStoppingHorizon
  split
  · simp only [Bool.false_eq_true, false_iff, not_and]
    omega
  · rw [Option.any_eq_true]
    constructor
    · rintro ⟨sum, hsum, hlt⟩
      obtain ⟨rfl, hle⟩ := (required_eq_some h).1 hsum
      rw [decide_eq_true_eq] at hlt
      exact ⟨hle, by omega⟩
    · rintro ⟨hle, hlt⟩
      refine ⟨_, (required_eq_some h).2 ⟨rfl, hle⟩, ?_⟩
      rw [decide_eq_true_eq]
      omega

end SchedulingGuard

variable {K : Type*} [Field K] [LinearOrder K]

/-- The time that a tick takes for the end of the image. -/
def TrajectoryImage.endNs (image : TrajectoryImage K) : ℕ := image.points.getLast?.elim 0 (·.timeNs)

namespace RollingTrajectoryController

variable {c c' : RollingTrajectoryController K} {configuration : RuntimeConfiguration K}

def Open (c : RollingTrajectoryController K) : Prop :=
  c.rtSessionState = .priming ∨ c.rtSessionState = .running

/-- No image of an open session ends behind the largest horizon. -/
structure HorizonBounded (c : RollingTrajectoryController K)
    (configuration : RuntimeConfiguration K) : Prop where
  loaded : c.configuration = configuration
  bufferLoaded : c.buffer.configuration = configuration.buffer
  image : c.Open → c.buffer.image.endNs ≤ c.executionTimeNs + configuration.buffer.maxHorizonNs
  unread : c.Open → ∀ snapshot, c.Current snapshot →
    snapshot.trajectory.endNs ≤ c.executionTimeNs + configuration.buffer.maxHorizonNs
  buffered : c.rtSessionState = .running →
    c.bufferedUntilNs ≤ c.executionTimeNs + configuration.buffer.maxHorizonNs

/-- A step that brings no image into the session. -/
structure KeepsHorizon (c c' : RollingTrajectoryController K) : Prop where
  configuration : c'.configuration = c.configuration
  buffer : c'.buffer = c.buffer
  opened : c'.Open → c.Open ∧ c.executionTimeNs ≤ c'.executionTimeNs
  unread : ∀ snapshot, c'.Current snapshot → c.Current snapshot
  buffered : c'.rtSessionState = .running →
    c.rtSessionState = .running ∧ c'.bufferedUntilNs = c.bufferedUntilNs

theorem KeepsHorizon.refl (c : RollingTrajectoryController K) : KeepsHorizon c c :=
  ⟨rfl, rfl, fun h => ⟨h, le_rfl⟩, fun _ h => h, fun h => ⟨h, rfl⟩⟩

theorem keepsHorizon_of_closed (hconfiguration : c'.configuration = c.configuration)
    (hbuffer : c'.buffer = c.buffer) (hclosed : ¬c'.Open)
    (hunread : ∀ snapshot, c'.Current snapshot → c.Current snapshot) : KeepsHorizon c c' :=
  ⟨hconfiguration, hbuffer, fun h => absurd h hclosed, hunread, fun h => absurd (.inr h) hclosed⟩

theorem HorizonBounded.of_keeps (h : c.HorizonBounded configuration) (hkeeps : KeepsHorizon c c') :
    c'.HorizonBounded configuration := by
  constructor
  · rw [hkeeps.configuration]
    exact h.loaded
  · rw [hkeeps.buffer]
    exact h.bufferLoaded
  · intro hopen
    obtain ⟨hbefore, hle⟩ := hkeeps.opened hopen
    rw [hkeeps.buffer]
    exact (h.image hbefore).trans (Nat.add_le_add_right hle _)
  · intro hopen snapshot hcurrent
    obtain ⟨hbefore, hle⟩ := hkeeps.opened hopen
    exact (h.unread hbefore snapshot (hkeeps.unread snapshot hcurrent)).trans
      (Nat.add_le_add_right hle _)
  · intro hrunning
    obtain ⟨hbefore, hsame⟩ := hkeeps.buffered hrunning
    obtain ⟨-, hle⟩ := hkeeps.opened (.inr hrunning)
    rw [hsame]
    exact (h.buffered hbefore).trans (Nat.add_le_add_right hle _)

theorem keepsHorizon_discard (c : RollingTrajectoryController K) :
    KeepsHorizon c { c with unread := none } :=
  ⟨rfl, rfl, fun h => ⟨h, le_rfl⟩, fun _ h => (nomatch h.1), fun h => ⟨h, rfl⟩⟩

theorem Takes.horizonBounded {priming : Bool} {snapshot : RollingSnapshot K}
    {taken : RollingTrajectoryController K} {desired : JointPoint K}
    {cursor : MonotonicTrajectoryCursor} {boundaryNs : ℕ}
    (h : Takes { c with unread := none } priming snapshot taken desired cursor boundaryNs)
    (hbounded : c.HorizonBounded configuration) (hopen : c.Open) (hcurrent : c.Current snapshot) :
    taken.HorizonBounded configuration := by
  rw [h.eq_taken]
  exact ⟨hbounded.loaded, hbounded.bufferLoaded, fun _ => hbounded.image hopen,
    fun _ _ hother => (nomatch hother.1),
    fun _ => hbounded.unread hopen snapshot hcurrent⟩

section Realtime

variable [FloorSemiring K] [IsStrictOrderedRing K]

theorem keepsHorizon_beginRtStop (reason : StopReason) (hopen : c.Open)
    (hchecker : c.rtStopTrajectory.limitChecker = c.configuration.limitChecker) :
    KeepsHorizon c (c.beginRtStop reason).1 := by
  have hcases := beginRtStop_cases reason hopen hchecker
  generalize c.beginRtStop reason = updated at hcases
  cases hcases with
  | refused => exact ⟨rfl, rfl, fun h => ⟨h, le_rfl⟩, fun _ h => h, fun h => ⟨h, rfl⟩⟩
  | rests | stops => exact keepsHorizon_of_closed rfl rfl (fun h => h.elim nofun nofun) fun _ h => h

omit [FloorSemiring K] [IsStrictOrderedRing K] in
theorem keepsHorizon_advanceRtStop (hstate : c.rtSessionState = .stopping) (periodNs : ℤ) :
    KeepsHorizon c (c.advanceRtStop periodNs).1 := by
  have hclosed : ¬c.Open := by
    rintro (h | h) <;> rw [hstate] at h <;> cases h
  have hcases := advanceRtStop_cases c periodNs
  generalize c.advanceRtStop periodNs = updated at hcases
  cases hcases with
  | refused => exact KeepsHorizon.refl c
  | invalid => exact keepsHorizon_of_closed rfl rfl hclosed fun _ h => h
  | moves =>
    rename_i candidate stop sample valid
    refine keepsHorizon_of_closed rfl rfl ?_ fun _ h => h
    change ¬((if stop.state = .holding then .holding else c.rtSessionState) = SessionState.priming ∨
      (if stop.state = .holding then .holding else c.rtSessionState) = SessionState.running)
    split
    · exact fun h => h.elim nofun nofun
    · exact hclosed

variable [SquareRoot K]

theorem Runs.keepsHorizon_updateRunning {image : TrajectoryImage K} (h : c.Runs image)
    (hrunning : c.rtSessionState = .running)
    (hchecker : c.rtStopTrajectory.limitChecker = c.configuration.limitChecker) (periodNs : ℤ)
    (nowNs : ℕ) : KeepsHorizon c (c.updateRunning periodNs nowNs).1 := by
  have hcases := updateRunning_cases periodNs nowNs h.active h.sound.points.increasing h.cursor
  generalize c.updateRunning periodNs nowNs = updated at hcases
  cases hcases with
  | stop fits reason clock =>
    rename_i cursor
    have hkept := keepsHorizon_beginRtStop (c := { c with rtSamplingCursor := cursor })
      reason (.inr hrunning) hchecker
    exact { hkept with }
  | advance advances boundary =>
    exact ⟨rfl, rfl, fun _ => ⟨.inr hrunning, Nat.le_add_right _ _⟩, fun _ h => h,
      fun _ => ⟨hrunning, rfl⟩⟩
  | overflow advances boundary =>
    rename_i candidate cursor
    have hkept := keepsHorizon_beginRtStop (c := { c with
      rtSamplingCursor := cursor
      rtDesired := candidate
      executionTimeNs := c.executionTimeNs + periodNs.toNat })
      .internalInvariant (.inr hrunning) hchecker
    exact
      { hkept with
        opened := fun hopen => ⟨.inr hrunning,
          (Nat.le_add_right _ _).trans (hkept.opened hopen).2⟩ }
  | complete => exact keepsHorizon_of_closed rfl rfl (fun h => h.elim nofun nofun) fun _ h => h

theorem horizonBounded_updateBody {state : SessionState} (hcore : c.Core)
    (hbounded : c.HorizonBounded configuration) (hcaptured : Captured c state)
    (hreset : state = .priming → c.RtReset) (busy : Bool) (periodNs : ℤ) (nowNs : ℕ) :
    (World.updateBody c busy state periodNs nowNs).1.HorizonBounded configuration := by
  have hdiscard := hbounded.of_keeps (keepsHorizon_discard c)
  cases state with
  | priming =>
    unfold World.updateBody
    dsimp only
    split
    · exact hbounded
    have hcases := consume_cases c true
    generalize c.consumeLatestRtTrajectory true = consumed at hcases
    cases hcases with
    | unchanged => exact hdiscard
    | invalid =>
      exact hdiscard.of_keeps (keepsHorizon_beginRtStop _ (.inl hcaptured) hcore.stopChecker)
    | accepted hunread hfresh htakes =>
      exact htakes.horizonBounded hbounded (.inl hcaptured)
        ⟨hunread, (hreset rfl).floor.symm.le.trans hfresh.1⟩
  | running =>
    unfold World.updateBody
    dsimp only
    split
    · exact hbounded
    obtain ⟨image, hruns⟩ := hcore.running hcaptured
    have hcases := consume_cases c false
    generalize c.consumeLatestRtTrajectory false = consumed at hcases
    obtain ⟨hcore', -, hrunning, image', hruns', -⟩ :=
      runs_of_consumption hcore hruns hcaptured hcases
    have hupdate := hruns'.keepsHorizon_updateRunning hrunning hcore'.stopChecker periodNs nowNs
    cases hcases with
    | unchanged => exact hdiscard.of_keeps hupdate
    | invalid => exact hdiscard.of_keeps (keepsHorizon_beginRtStop _ (.inr hrunning) hcore.stopChecker)
    | accepted hunread hfresh htakes =>
      have htaken := htakes.horizonBounded hbounded (.inr hcaptured)
        ⟨hunread, hruns.floor.symm.le.trans hfresh.1⟩
      exact htaken.of_keeps hupdate
  | stopping => exact hbounded.of_keeps (keepsHorizon_advanceRtStop hcaptured periodNs)
  | none => exact { hbounded with }
  | holding => exact { hbounded with }
  | terminated => exact hbounded

end Realtime

end RollingTrajectoryController

namespace World

variable {w : World K} {configuration : RuntimeConfiguration K} [SquareRoot K]

omit [SquareRoot K] in
theorem horizonBounded_finishTick {updated : RollingTrajectoryController K × Bool}
    (h : updated.1.HorizonBounded configuration) :
    (w.finishTick updated).controller.HorizonBounded configuration := by
  unfold World.finishTick writeRtDesired
  split
  · split
    · rename_i heq
      split at heq <;> cases heq
      exact { h with }
    · rename_i heq
      split at heq <;> cases heq
      exact { h with }
  · exact h

variable [FloorSemiring K]

theorem Sound.horizonBounded_stepTick [IsStrictOrderedRing K] (h : w.Sound)
    (hbounded : w.controller.HorizonBounded configuration) {input : TickInput} {pc : TickPc}
    (htick : w.tick = some (input, pc)) (nowNs : ℕ) :
    (w.stepTick input nowNs pc).controller.HorizonBounded configuration := by
  have hpc := h.tick input pc htick
  have hchange := tickChange_stepTick w input nowNs pc
  generalize w.stepTick input nowNs pc = next at hchange
  cases hchange with
  | same => exact hbounded
  | reset hreset =>
    obtain ⟨-, -, hstep, -⟩ := h.resetRtEpoch hpc.1 hpc.2 hreset
    refine hbounded.of_keeps ⟨hstep.configuration, hstep.buffer, ?_, ?_, ?_⟩
    · rintro (hpriming | hrunning)
      · obtain ⟨hbefore, hsame⟩ := hstep.priming hpriming
        exact ⟨.inl hbefore, hsame.ge⟩
      · exact absurd (.inl hrunning) (hstep.still hpc.2)
    · intro snapshot hcurrent
      unfold RollingTrajectoryController.resetRtEpoch at hreset
      split at hreset
      · cases hreset
      dsimp only at hreset
      split at hreset
      · cases hreset
        exact hcurrent
      · cases hreset
    · intro hrunning
      exact absurd (.inl hrunning) (hstep.still hpc.2)
  | body state =>
    exact horizonBounded_finishTick
      (horizonBounded_updateBody h.core hbounded hpc.1 hpc.2 _ input.periodNs nowNs)
  | stop =>
    exact horizonBounded_finishTick
      (hbounded.of_keeps (keepsHorizon_beginRtStop _ (hpc.imp_left And.left) h.core.stopChecker))
  | write => exact horizonBounded_finishTick hbounded

omit [FloorSemiring K] in
theorem horizonBounded_storeStart {c : RollingTrajectoryController K} (hcore : c.Core)
    (hbounded : c.HorizonBounded configuration) {store : StartStore} {locals : StartLocals}
    (h : Storing c store locals) : (c.storeStart locals store).HorizonBounded configuration := by
  have hmoving : c.rtSessionState ≠ .running := fun hrunning => h.still (.inl hrunning)
  have hempty : c.buffer.image.endNs = 0 := by
    unfold TrajectoryImage.endNs
    rw [h.image]
    rfl
  have hnone : c.Open → ∀ snapshot, ¬c.Current snapshot := fun hopen =>
    not_current hcore ((hcore.primed (hopen.resolve_right hmoving)).empty h.image)
  have himage : ∀ timeNs, c.buffer.image.endNs ≤ timeNs := fun _ => hempty.le.trans (Nat.zero_le _)
  cases store with
  | publicationFloor =>
    refine ⟨hbounded.loaded, hbounded.bufferLoaded, fun _ => himage _, fun _ snapshot hcurrent => ?_,
      fun hrunning => absurd hrunning hmoving⟩
    have hle := hcore.unread snapshot hcurrent.1
    have hge : locals.publication + 1 ≤ snapshot.publicationSequence := hcurrent.2
    have hsame := h.publication
    omega
  | sessionState =>
    exact ⟨hbounded.loaded, hbounded.bufferLoaded, fun _ => himage _, fun _ snapshot hcurrent =>
      absurd ⟨hcurrent.1, hcurrent.2⟩ (not_current hcore (h.floor (by decide)) snapshot),
      nofun⟩
  | _ =>
    exact ⟨hbounded.loaded, hbounded.bufferLoaded, fun _ => himage _, fun hopen snapshot hcurrent =>
      absurd ⟨hcurrent.1, hcurrent.2⟩ (hnone hopen snapshot),
      fun hrunning => absurd hrunning hmoving⟩

omit [SquareRoot K] [FloorSemiring K] in
theorem horizonBounded_commit {c : RollingTrajectoryController K}
    (hbounded : c.HorizonBounded configuration)
    {candidate : TrajectoryImage K} {context : AdmissionContext} {buffer : RollingBuffer K}
    (hcontext : c.Open → context.executionTimeNs ≤ c.executionTimeNs)
    (h : c.buffer.commit candidate context = .ok buffer) :
    { c with buffer }.HorizonBounded configuration := by
  unfold RollingBuffer.commit at h
  split at h
  · cases h
  split at h
  · rename_i hhorizon
    cases h
    obtain ⟨-, hmaximum, -⟩ := validateHorizon_eq_none hhorizon
    refine { hbounded with image := fun hopen => ?_ }
    change candidate.endNs ≤ _
    unfold TrajectoryImage.endNs
    cases hlast : candidate.points.getLast? with
    | none => exact Nat.zero_le _
    | some last =>
      have hle := hmaximum last hlast
      rw [hbounded.bufferLoaded] at hle
      exact hle.trans (Nat.add_le_add_right (hcontext hopen) _)
  · cases h

omit [FloorSemiring K] in
theorem Sound.horizonBounded_of_batchChange (h : w.Sound)
    (hbounded : w.controller.HorizonBounded configuration) {message : BatchMessage K}
    {pc : SessionPc K} (hsession : w.session = some (message, pc)) {nowNs : ℕ} {next : World K}
    (hchange : BatchChange w nowNs pc next) : next.controller.HorizonBounded configuration := by
  have hpc := h.session message pc hsession
  cases hchange with
  | begun previous session hreset =>
    obtain ⟨rfl, -⟩ := reset_eq_some hreset
    exact { hbounded with image := fun _ => Nat.zero_le _ }
  | stored store locals session => exact horizonBounded_storeStart h.core hbounded hpc
  | committed session hcommit => exact horizonBounded_commit hbounded hpc.2 hcommit
  | published message =>
    refine { hbounded with unread := fun hopen snapshot hcurrent => ?_ }
    cases hcurrent.1
    exact hbounded.image hopen
  | _ => exact { hbounded with }

theorem Sound.horizonBounded_step [IsStrictOrderedRing K] (h : w.Sound)
    (hbounded : w.controller.HorizonBounded configuration) (label : Label K) :
    (w.step label).controller.HorizonBounded configuration := by
  have hchange := worldChange_step w label
  generalize w.step label = next at hchange
  cases hchange with
  | same => exact hbounded
  | observed | delivered => exact { hbounded with }
  | realtime htick => exact h.horizonBounded_stepTick hbounded htick _
  | batch hsession hbatch => exact h.horizonBounded_of_batchChange hbounded hsession hbatch

end World

/-- The margins cover the longest period, or they leave no horizon to advance in. -/
def RuntimeConfiguration.CoversPeriod (configuration : RuntimeConfiguration K) : Prop :=
  configuration.maximumControllerPeriodNs ≤ configuration.schedulingGuard.margin + 1 ∨
    configuration.buffer.maxHorizonNs ≤ configuration.schedulingGuard.margin

namespace RollingTrajectoryController

variable [FloorSemiring K] {c : RollingTrajectoryController K}
  {configuration : RuntimeConfiguration K}

/-- The remaining horizon does not cover the stop with its margins. -/
def BelowLowWater (c : RollingTrajectoryController K) : Prop :=
  ∃ stopDurationNs ∈ c.configuration.limitChecker.calculateStopDurationNs c.rtDesired,
    hasSufficientStoppingHorizon c.executionTimeNs c.bufferedUntilNs stopDurationNs
      c.configuration.schedulingGuard = false

instance (c : RollingTrajectoryController K) : Decidable c.BelowLowWater :=
  inferInstanceAs (Decidable (∃ _ ∈ _, _))

/-- The stop has begun. The next ticks follow its trajectory or hold where it ends, and its reason
is recorded unless another one was. -/
structure StopBegins (c : RollingTrajectoryController K) (reason : StopReason)
    (updated : RollingTrajectoryController K × Bool) : Prop where
  succeeds : updated.2 = true
  state : updated.1.rtSessionState = .stopping ∨ updated.1.rtSessionState = .holding
  recorded : updated.1.stopReason = if c.stopReason = .none then reason else c.stopReason

/-- A tick that would advance samples no later than the last point, or it begins the stop. -/
def SamplesBuffered (c : RollingTrajectoryController K) (periodNs : ℤ) (nowNs : ℕ) : Prop :=
  ∀ image ∈ c.rtActiveTrajectory, image.final = false →
    c.configuration.validPeriod periodNs = true →
      elapsedExceeds nowNs c.rtLastAcceptedArrivalNs c.configuration.updateTimeoutNs = false →
        ∀ stopDurationNs,
          c.configuration.limitChecker.calculateStopDurationNs c.rtDesired = some stopDurationNs →
            c.executionTimeNs + periodNs.toNat ≤ image.endNs ∨
              c.updateRunning periodNs nowNs = c.beginRtStop .lowWater ∧
                c.StopBegins .lowWater (c.updateRunning periodNs nowNs)

theorem calculateStopDurationNs_le {checker : LimitChecker K} {desired : JointPoint K}
    {stopDurationNs : ℕ} (h : checker.calculateStopDurationNs desired = some stopDurationNs) :
    stopDurationNs ≤ maxUint64 := by
  unfold LimitChecker.calculateStopDurationNs durationToNanoseconds at h
  split at h
  · split at h
    · cases h
    split at h
    · cases h
    · rename_i hfits
      obtain rfl := Option.some.inj h
      exact not_lt.1 hfits
  · cases h

theorem beginStopTrajectory_recordStopReason (c : RollingTrajectoryController K)
    (reason : StopReason) :
    (c.recordStopReason reason).beginStopTrajectory.2 = c.beginStopTrajectory.2 := by
  have hbegin : (c.recordStopReason reason).rtStopTrajectory.begin
      (c.recordStopReason reason).rtDesired = c.rtStopTrajectory.begin c.rtDesired := rfl
  have hvalid : ∀ desired, (c.recordStopReason reason).desiredIsValid desired =
      c.desiredIsValid desired := fun _ => rfl
  unfold beginStopTrajectory
  rw [hbegin]
  cases c.rtStopTrajectory.begin c.rtDesired with
  | none => rfl
  | some stop =>
    dsimp only
    split
    · cases stop.sample 0 with
      | none => rfl
      | some sampled =>
        dsimp only
        rw [hvalid]
        cases c.desiredIsValid sampled.1 <;> rfl
    · rfl

theorem stopBegins_of_accepted [IsStrictOrderedRing K] {reason : StopReason} (hopen : c.Open)
    (hchecker : c.rtStopTrajectory.limitChecker = c.configuration.limitChecker)
    (haccepted : c.beginStopTrajectory.2 = true) : c.StopBegins reason (c.beginRtStop reason) := by
  have hbegin : c.beginRtStop reason = (c.recordStopReason reason).beginStopTrajectory := by
    unfold beginRtStop
    rcases hopen with hstate | hstate <;> rw [hstate]
  have hsucceeds : (c.beginRtStop reason).2 = true := by
    rw [hbegin, beginStopTrajectory_recordStopReason, haccepted]
  have hcases := beginRtStop_cases reason hopen hchecker
  generalize c.beginRtStop reason = updated at hcases hsucceeds
  cases hcases with
  | refused => cases hsucceeds
  | rests => exact ⟨rfl, .inr rfl, rfl⟩
  | stops => exact ⟨rfl, .inl rfl, rfl⟩

theorem Runs.samplesBuffered [SquareRoot K] [IsStrictOrderedRing K] {image : TrajectoryImage K}
    (h : c.Runs image) (hrunning : c.rtSessionState = .running)
    (hchecker : c.rtStopTrajectory.limitChecker = c.configuration.limitChecker)
    (hbounded : c.HorizonBounded configuration) (hcovers : configuration.CoversPeriod)
    (haccepts : c.BelowLowWater → c.beginStopTrajectory.2 = true) (periodNs : ℤ) (nowNs : ℕ) :
    c.SamplesBuffered periodNs nowNs := by
  intro other hother hfinal hperiod htimeout stopDurationNs hstop
  obtain rfl : image = other := Option.some.inj (h.active.symm.trans hother)
  have hend : image.endNs = c.bufferedUntilNs := by
    obtain ⟨last, hlast, hbuffered⟩ := h.last_isSome
    rw [hbuffered, TrajectoryImage.endNs, Option.mem_def.1 hlast]
    rfl
  have hmaximum : periodNs.toNat ≤ c.configuration.maximumControllerPeriodNs := by
    simp only [RuntimeConfiguration.validPeriod, Bool.and_eq_true, decide_eq_true_eq] at hperiod
    exact hperiod.2
  cases hhorizon : hasSufficientStoppingHorizon c.executionTimeNs c.bufferedUntilNs stopDurationNs
      c.configuration.schedulingGuard with
  | true =>
    obtain ⟨-, hlt⟩ := (SchedulingGuard.hasSufficientStoppingHorizon_iff
      (calculateStopDurationNs_le hstop)).1 hhorizon
    refine .inl ?_
    rw [hend]
    rw [hbounded.loaded] at hlt hmaximum
    rcases hcovers with hcovers | hcovers
    · omega
    · have hle := hbounded.buffered hrunning
      omega
  | false =>
    have hlow : c.updateRunning periodNs nowNs = c.beginRtStop .lowWater := by
      unfold updateRunning
      rw [h.active]
      dsimp only
      rw [hperiod, Bool.not_true, if_neg Bool.false_ne_true, hfinal, if_neg Bool.false_ne_true,
        htimeout, if_neg Bool.false_ne_true, hstop]
      dsimp only
      rw [hhorizon, if_neg Bool.false_ne_true]
    refine .inr ⟨hlow, ?_⟩
    rw [hlow]
    exact stopBegins_of_accepted (.inr hrunning) hchecker (haccepts ⟨_, hstop, hhorizon⟩)

/-- The same controller with other points. -/
def withPoints (c : RollingTrajectoryController K) (buffer : RollingBuffer K)
    (active : Option (TrajectoryImage K)) (cursor : MonotonicTrajectoryCursor)
    (bufferedUntilNs : ℕ) : RollingTrajectoryController K :=
  { c with
    buffer
    rtActiveTrajectory := active
    rtSamplingCursor := cursor
    bufferedUntilNs }

section Points

variable (c) (buffer : RollingBuffer K) (active : Option (TrajectoryImage K))
  (cursor : MonotonicTrajectoryCursor) (bufferedUntilNs : ℕ)

omit [FloorSemiring K] in
@[simp] theorem withPoints_rtSessionState :
    (c.withPoints buffer active cursor bufferedUntilNs).rtSessionState = c.rtSessionState := rfl

omit [FloorSemiring K] in
@[simp] theorem withPoints_executionTimeNs :
    (c.withPoints buffer active cursor bufferedUntilNs).executionTimeNs = c.executionTimeNs := rfl

omit [FloorSemiring K] in
@[simp] theorem withPoints_rtStopElapsedNs :
    (c.withPoints buffer active cursor bufferedUntilNs).rtStopElapsedNs = c.rtStopElapsedNs := rfl

omit [FloorSemiring K] in
@[simp] theorem withPoints_rtDesired :
    (c.withPoints buffer active cursor bufferedUntilNs).rtDesired = c.rtDesired := rfl

omit [FloorSemiring K] in
@[simp] theorem withPoints_rtStopTrajectory :
    (c.withPoints buffer active cursor bufferedUntilNs).rtStopTrajectory = c.rtStopTrajectory := rfl

omit [FloorSemiring K] in
@[simp] theorem withPoints_stopIncrementNs (periodNs : ℤ) :
    (c.withPoints buffer active cursor bufferedUntilNs).stopIncrementNs periodNs =
      c.stopIncrementNs periodNs := rfl

omit [FloorSemiring K] in
@[simp] theorem withPoints_desiredIsValid (desired : JointPoint K) :
    (c.withPoints buffer active cursor bufferedUntilNs).desiredIsValid desired =
      c.desiredIsValid desired := rfl

omit [FloorSemiring K] in
@[simp] theorem withPoints_recordStopReason (reason : StopReason) :
    (c.withPoints buffer active cursor bufferedUntilNs).recordStopReason reason =
      (c.recordStopReason reason).withPoints buffer active cursor bufferedUntilNs := rfl

omit [FloorSemiring K] in
theorem advanceRtStop_withPoints (periodNs : ℤ) :
    (c.withPoints buffer active cursor bufferedUntilNs).advanceRtStop periodNs =
      ((c.advanceRtStop periodNs).1.withPoints buffer active cursor bufferedUntilNs,
        (c.advanceRtStop periodNs).2) := by
  unfold advanceRtStop
  rw [withPoints_stopIncrementNs, withPoints_rtStopElapsedNs, withPoints_executionTimeNs,
    withPoints_rtStopTrajectory]
  cases addTime c.rtStopElapsedNs (c.stopIncrementNs periodNs) with
  | none => rfl
  | some nextElapsedNs =>
    cases addTime c.executionTimeNs (c.stopIncrementNs periodNs) with
    | none => rfl
    | some nextExecutionNs =>
      dsimp only
      cases c.rtStopTrajectory.sample nextElapsedNs with
      | none => rfl
      | some sampled =>
        dsimp only
        rw [withPoints_desiredIsValid]
        cases c.desiredIsValid sampled.1 <;> rfl

theorem beginStopTrajectory_withPoints :
    (c.withPoints buffer active cursor bufferedUntilNs).beginStopTrajectory =
      (c.beginStopTrajectory.1.withPoints buffer active cursor bufferedUntilNs,
        c.beginStopTrajectory.2) := by
  unfold beginStopTrajectory
  rw [withPoints_rtStopTrajectory, withPoints_rtDesired]
  cases c.rtStopTrajectory.begin c.rtDesired with
  | none => rfl
  | some stop =>
    dsimp only
    by_cases hholding : stop.state = .holding
    · rw [if_pos hholding, if_pos hholding]
      cases stop.sample 0 with
      | none => rfl
      | some sampled =>
        dsimp only
        rw [withPoints_desiredIsValid]
        cases c.desiredIsValid sampled.1 <;> rfl
    · rw [if_neg hholding, if_neg hholding]
      rfl

theorem beginRtStop_withPoints (reason : StopReason) :
    (c.withPoints buffer active cursor bufferedUntilNs).beginRtStop reason =
      ((c.beginRtStop reason).1.withPoints buffer active cursor bufferedUntilNs,
        (c.beginRtStop reason).2) := by
  unfold beginRtStop
  rw [withPoints_rtSessionState, withPoints_recordStopReason, beginStopTrajectory_withPoints]
  cases c.rtSessionState <;> rfl

end Points

end RollingTrajectoryController

namespace World

variable [SquareRoot K] [FloorSemiring K]

/-- Every tick of a running session that is not final begins its stop before the buffer ends. -/
def EndsAtLowWater (w : World K) (label : Label K) : Prop :=
  ∀ input nowNs, label = .realtime nowNs → w.tick = some (input, .body .running) →
    w.Consumes label false → (w.controller.consumeLatestRtTrajectory false).2 ≠ .invalid →
      (w.controller.consumeLatestRtTrajectory false).1.SamplesBuffered input.periodNs nowNs

/-- `StopTrajectory::begin` accepts the desired point of every tick that is below low water. -/
def AcceptsStop (w : World K) (label : Label K) : Prop :=
  w.Consumes label false → (w.controller.consumeLatestRtTrajectory false).2 ≠ .invalid →
    (w.controller.consumeLatestRtTrajectory false).1.BelowLowWater →
      (w.controller.consumeLatestRtTrajectory false).1.beginStopTrajectory.2 = true

instance (w : World K) (label : Label K) : Decidable (w.AcceptsStop label) :=
  inferInstanceAs (Decidable (_ → _ → _ → _))

variable {w : World K} {configuration : RuntimeConfiguration K} [IsStrictOrderedRing K]

theorem Sound.endsAtLowWater (h : w.Sound) (hbounded : w.controller.HorizonBounded configuration)
    (hcovers : configuration.CoversPeriod) {label : Label K} (haccepts : w.AcceptsStop label) :
    w.EndsAtLowWater label := by
  intro input nowNs _ htick hconsumes hvalid
  have hbegins := haccepts hconsumes hvalid
  obtain ⟨hcaptured, -⟩ := h.tick _ _ htick
  obtain ⟨image, hruns⟩ := h.core.running hcaptured
  have hdiscard := hbounded.of_keeps (keepsHorizon_discard w.controller)
  have hcases := consume_cases w.controller false
  generalize w.controller.consumeLatestRtTrajectory false = consumed at hcases hvalid hbegins
  obtain ⟨hcore', -, hrunning, image', hruns', -⟩ :=
    runs_of_consumption h.core hruns hcaptured hcases
  refine hruns'.samplesBuffered hrunning hcore'.stopChecker ?_ hcovers hbegins input.periodNs nowNs
  cases hcases with
  | unchanged => exact hdiscard
  | invalid => exact absurd rfl hvalid
  | accepted hunread hfresh htakes =>
    exact htakes.horizonBounded hbounded (.inr hcaptured)
      ⟨hunread, hruns.floor.symm.le.trans hfresh.1⟩

end World

namespace Standstill

/-- A batch of five milliseconds, and periods of ten. -/
def short : List (Label ℚ) :=
  batch (message 1 (10 ^ 9) (5 * 10 ^ 6)) (99 * 10 ^ 7) 15 ++ tick (10 ^ 9) 7 ++
    tick (101 * 10 ^ 7) 4

/-- Margins of thirteen milliseconds. -/
def guarded : RuntimeConfiguration ℚ :=
  { configuration with schedulingGuard := ⟨10 ^ 7, 10 ^ 6, 10 ^ 6, 10 ^ 6⟩ }

end Standstill

end RobotDriver.Rolling
