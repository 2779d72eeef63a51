import RobotDriver.Rolling.RollingBuffer
import RobotDriver.Rolling.SnapshotExchange

/-!
# The stop trajectory

`StopTrajectory` over a configured limit checker, the checks of a desired point, and the horizon
that a stop needs. All axes stop together, in the longest time that any of them needs.
-/

namespace RobotDriver.Rolling

inductive StopTrajectoryState
  | idle | stopping | holding
  deriving DecidableEq, Repr

structure SchedulingGuard where
  oneCycleDetectionNs : ℕ
  stopTimeGrowthNs : ℕ
  nonRtToRtVisibilityNs : ℕ
  periodQuantizationNs : ℕ

namespace SchedulingGuard

/-- The stop duration with the four margins. -/
def required (guard : SchedulingGuard) (stopDurationNs : ℕ) : Option ℕ :=
  (addTime stopDurationNs guard.oneCycleDetectionNs).bind fun sum =>
    (addTime sum guard.stopTimeGrowthNs).bind fun sum =>
      (addTime sum guard.nonRtToRtVisibilityNs).bind fun sum =>
        addTime sum guard.periodQuantizationNs

end SchedulingGuard

def hasSufficientStoppingHorizon (executionTimeNs bufferedUntilNs stopDurationNs : ℕ)
    (guard : SchedulingGuard) : Bool :=
  if bufferedUntilNs < executionTimeNs then false
  else (guard.required stopDurationNs).any (· < bufferedUntilNs - executionTimeNs)

variable {K : Type*} [Field K] [LinearOrder K]

/-- The stop limit in the direction of motion. -/
def AxisEnvelope.stopAcceleration (limits : AxisEnvelope K) (velocity : K) : K :=
  if 0 ≤ velocity then limits.stopAccelerationPositive else limits.stopAccelerationNegative

namespace LimitChecker

variable (checker : LimitChecker K)

/-- The longest time that any axis needs to stop. -/
def stopSeconds (velocities : Axis → K) : K :=
  axes.foldl (fun duration axis =>
    max duration
      (|velocities axis| / (checker.envelope axis).stopAcceleration (velocities axis))) 0

def desiredIsValid (desired : JointPoint K) : Bool :=
  axes.all fun axis =>
    decide ((checker.envelope axis).safeLower ≤ desired.positions axis) &&
      decide (desired.positions axis ≤ (checker.envelope axis).safeUpper) &&
        decide (desired.velocities axis ≤ (checker.envelope axis).velocityPositive) &&
          decide (-(checker.envelope axis).velocityNegative ≤ desired.velocities axis)

end LimitChecker

section Duration

variable [FloorSemiring K]

def durationToNanoseconds (durationSeconds : K) : Option ℕ :=
  if durationSeconds < 0 then none
  else if maxUint64 < ⌈durationSeconds * 10 ^ 9⌉₊ then none
  else some ⌈durationSeconds * 10 ^ 9⌉₊

def LimitChecker.calculateStopDurationNs (checker : LimitChecker K) (desired : JointPoint K) :
    Option ℕ :=
  if checker.desiredIsValid desired then
    durationToNanoseconds (checker.stopSeconds desired.velocities)
  else none

end Duration

structure StopTrajectory (K : Type*) [Field K] [LinearOrder K] where
  limitChecker : LimitChecker K
  start : JointPoint K := ⟨0, fun _ => 0, fun _ => 0⟩
  accelerations : Axis → K := fun _ => 0
  terminalPositions : Axis → K := fun _ => 0
  durationSeconds : K := 0
  durationNs : ℕ := 0
  state : StopTrajectoryState := .idle

namespace StopTrajectory

variable (stop : StopTrajectory K)

def stopAccelerations (durationSeconds : K) (desired : JointPoint K) (axis : Axis) : K :=
  if durationSeconds = 0 then 0 else -desired.velocities axis / durationSeconds

def stopPositions (durationSeconds : K) (desired : JointPoint K) (axis : Axis) : K :=
  desired.positions axis + 1 / 2 * desired.velocities axis * durationSeconds

/-- The stop leaves the safe positions or exceeds a stop limit. -/
def breaksLimit (durationSeconds : K) (desired : JointPoint K) (axis : Axis) : Bool :=
  stopPositions durationSeconds desired axis < (stop.limitChecker.envelope axis).safeLower ||
    (stop.limitChecker.envelope axis).safeUpper < stopPositions durationSeconds desired axis ||
      (stop.limitChecker.envelope axis).stopAcceleration (desired.velocities axis) <
        |stopAccelerations durationSeconds desired axis|

/-- `none` when the call returns false. -/
def begin [FloorSemiring K] (desired : JointPoint K) : Option (StopTrajectory K) :=
  if stop.state ≠ .idle then none
  else
    let durationSeconds := stop.limitChecker.stopSeconds desired.velocities
    match durationToNanoseconds durationSeconds with
    | none => none
    | some durationNs =>
      if axes.any (stop.breaksLimit durationSeconds desired) then none
      else some
        { limitChecker := stop.limitChecker
          start := desired
          accelerations := stopAccelerations durationSeconds desired
          terminalPositions := stopPositions durationSeconds desired
          durationSeconds
          durationNs
          state := if durationSeconds = 0 then .holding else .stopping }

def sample (elapsedNs : ℕ) : Option (JointPoint K × StopTrajectory K) :=
  if stop.state = .idle then none
  else if maxUint64 - stop.start.timeNs < elapsedNs then none
  else if stop.state = .holding ∨ stop.durationNs ≤ elapsedNs then
    some (⟨stop.start.timeNs + elapsedNs, stop.terminalPositions, fun _ => 0⟩,
      { stop with state := .holding })
  else
    some
      ({ timeNs := stop.start.timeNs + elapsedNs
         positions := fun axis => stop.start.positions axis +
          stop.start.velocities axis * seconds elapsedNs +
            1 / 2 * stop.accelerations axis * seconds elapsedNs * seconds elapsedNs
         velocities := fun axis =>
          stop.start.velocities axis + stop.accelerations axis * seconds elapsedNs },
        stop)

end StopTrajectory

end RobotDriver.Rolling

/-!
# The rolling trajectory controller

The members of `RollingTrajectoryController` and its realtime functions. The snapshot exchange is
its unread snapshot and its publication counter; the active trajectory is a copy of the image in
the slot of the consumer. Words that only guard a section (the gate, the mutex, the state version)
are part of the program counters of the system.
-/

namespace RobotDriver.Rolling

/-- The public results of a batch. -/
inductive BatchResult
  | accepted | wrongEpoch | staleSequence | invalidBatch | lateReplace | spliceMismatch
  | limitExceeded | notStoppable | horizonExceeded | notAccepting | finalNotAtRest
  deriving DecidableEq, Repr

/-- The public reasons of a stop. -/
inductive PublicStopReason
  | none | updateTimeout | bufferEnd | deactivated | completed | internal
  deriving DecidableEq, Repr

def publicStopReason : StopReason → PublicStopReason
  | .none => .none
  | .updateTimeout => .updateTimeout
  | .lowWater => .bufferEnd
  | .controllerDeactivated => .deactivated
  | .completed => .completed
  | _ => .internal

inductive SnapshotConsumeResult
  | noChange | accepted | invalid
  deriving DecidableEq, Repr

variable {K : Type*}

/-- The envelope that the configuration builds from one limit of each kind. -/
def loadedEnvelope (lower upper velocity acceleration margin : K) : AxisEnvelope K where
  positionLower := lower
  positionUpper := upper
  velocityPositive := velocity
  velocityNegative := velocity
  accelerationPositive := acceleration
  accelerationNegative := acceleration
  stopAccelerationPositive := acceleration
  stopAccelerationNegative := acceleration
  positionMarginLower := margin
  positionMarginUpper := margin

variable [Field K] [LinearOrder K]

theorem tenMilliseconds_pos : 0 < 10 ^ 7 := by norm_num

theorem millisecond_pos : 0 < 10 ^ 6 := by norm_num

theorem millisecond_le_ten : 10 ^ 6 ≤ 10 ^ 7 := by norm_num

theorem tenMilliseconds_le_hundred : 10 ^ 7 ≤ 10 ^ 8 := by norm_num

structure RuntimeConfiguration (K : Type*) [Field K] [LinearOrder K] where
  jointPositionLower : Axis → K
  jointPositionUpper : Axis → K
  jointVelocityLimits : Axis → K
  jointAccelerationLimits : Axis → K
  positionMargin : K
  buffer : BufferConfiguration K
  updateTimeoutNs : ℕ
  replaceLeadNs : ℕ
  nominalControllerPeriodNs : ℕ
  maximumControllerPeriodNs : ℕ
  schedulingGuard : SchedulingGuard
  feedbackAgeLimitMs : K
  takeoverTolerances : Axis → K
  valid : ∀ axis, (loadedEnvelope (jointPositionLower axis) (jointPositionUpper axis)
    (jointVelocityLimits axis) (jointAccelerationLimits axis) positionMargin).Valid
  replaceLeadNs_pos : 0 < replaceLeadNs
  replaceLeadNs_le : replaceLeadNs ≤ buffer.maxHorizonNs
  maxHorizonNs_le : buffer.maxHorizonNs ≤ maxUint64
  nominalControllerPeriodNs_pos : 0 < nominalControllerPeriodNs
  nominalControllerPeriodNs_le : nominalControllerPeriodNs ≤ maximumControllerPeriodNs
  maximumControllerPeriodNs_le : maximumControllerPeriodNs ≤ updateTimeoutNs
  updateTimeoutNs_le : updateTimeoutNs ≤ maxUint64
  feedbackAgeLimitMs_pos : 0 < feedbackAgeLimitMs

/-- Unit limits on every axis. -/
def RuntimeConfiguration.unit [IsStrictOrderedRing K] : RuntimeConfiguration K where
  jointPositionLower _ := -1
  jointPositionUpper _ := 1
  jointVelocityLimits _ := 1
  jointAccelerationLimits _ := 1
  positionMargin := 0
  buffer := .tight
  updateTimeoutNs := 10 ^ 8
  replaceLeadNs := 10 ^ 7
  nominalControllerPeriodNs := 10 ^ 6
  maximumControllerPeriodNs := 10 ^ 7
  schedulingGuard := ⟨10 ^ 6, 10 ^ 6, 10 ^ 6, 10 ^ 6⟩
  feedbackAgeLimitMs := 10
  takeoverTolerances _ := 1
  valid _ := by
    constructor <;> norm_num [loadedEnvelope, AxisEnvelope.safeLower, AxisEnvelope.safeUpper]
  replaceLeadNs_pos := tenMilliseconds_pos
  replaceLeadNs_le := by norm_num [BufferConfiguration.tight]
  maxHorizonNs_le := by norm_num [BufferConfiguration.tight, maxUint64]
  nominalControllerPeriodNs_pos := millisecond_pos
  nominalControllerPeriodNs_le := millisecond_le_ten
  maximumControllerPeriodNs_le := tenMilliseconds_le_hundred
  updateTimeoutNs_le := by decide
  feedbackAgeLimitMs_pos := by norm_num

namespace RuntimeConfiguration

variable (configuration : RuntimeConfiguration K)

def limitChecker : LimitChecker K where
  envelope axis := loadedEnvelope (configuration.jointPositionLower axis)
    (configuration.jointPositionUpper axis) (configuration.jointVelocityLimits axis)
    (configuration.jointAccelerationLimits axis) configuration.positionMargin
  valid := configuration.valid

def validPeriod (periodNs : ℤ) : Bool :=
  0 < periodNs && periodNs.toNat ≤ configuration.maximumControllerPeriodNs

end RuntimeConfiguration

structure RollingTrajectoryController (K : Type*) [Field K] [LinearOrder K] where
  configuration : RuntimeConfiguration K
  buffer : RollingBuffer K
  unread : Option (RollingSnapshot K) := none
  publicationSequence : ℕ := 0
  activationEpoch : ℕ := 0
  lastSequence : ℕ := 0
  epochSequence : ℕ := 0
  lastResult : BatchResult := .accepted
  previousStopReason : PublicStopReason := .none
  sessionOriginNs : ℤ := 0
  rtSessionState : SessionState := .none
  stopReason : StopReason := .none
  stopRequested : Bool := false
  executionTimeNs : ℕ := 0
  activeGeneration : ℕ := 0
  bufferedUntilNs : ℕ := 0
  replaceableFromNs : ℕ := 0
  primeStartNs : ℤ := 0
  sessionEpoch : ℕ := 0
  sessionPublicationFloor : ℕ := 1
  rtStateSessionEpoch : ℕ := 0
  observedPositions : Axis → Option K
  observedFeedbackAgeMs : Option K
  desiredPositions : Axis → K
  desiredVelocities : Axis → K := fun _ => 0
  rtObservedSessionEpoch : ℕ := 0
  rtPublicationFloor : ℕ := 1
  rtConsumedPublicationSequence : ℕ := 0
  rtLastAcceptedArrivalNs : ℕ := 0
  rtStopElapsedNs : ℕ := 0
  rtActiveTrajectory : Option (TrajectoryImage K) := none
  rtSamplingCursor : MonotonicTrajectoryCursor := {}
  rtDesired : JointPoint K
  rtStopTrajectory : StopTrajectory K

def elapsedExceeds (nowNs startNs limitNs : ℕ) : Bool := nowNs < startNs || limitNs < nowNs - startNs

namespace RollingTrajectoryController

variable (c : RollingTrajectoryController K)

def desiredIsValid (desired : JointPoint K) : Bool :=
  c.configuration.limitChecker.desiredIsValid desired

/-- `none` when the call returns false. -/
def resetRtEpoch (epoch : ℕ) : Option (RollingTrajectoryController K) :=
  let hold : JointPoint K := ⟨0, c.desiredPositions, fun _ => 0⟩
  if c.sessionPublicationFloor = 0 then none
  else if c.desiredIsValid hold then
    some { c with
      rtActiveTrajectory := none
      rtSamplingCursor := {}
      rtDesired := hold
      rtStopTrajectory := { limitChecker := c.configuration.limitChecker }
      rtPublicationFloor := c.sessionPublicationFloor
      rtConsumedPublicationSequence := c.sessionPublicationFloor - 1
      rtLastAcceptedArrivalNs := 0
      rtStopElapsedNs := 0
      executionTimeNs := 0
      activeGeneration := 0
      bufferedUntilNs := 0
      replaceableFromNs := 0
      rtObservedSessionEpoch := epoch }
  else none

/-- The checks of an image that depend on the execution time. -/
def handoffTimeIsValid (priming : Bool) (trajectory : TrajectoryImage K) : Bool :=
  if priming then c.executionTimeNs = 0 && trajectory.points.head?.any (·.timeNs = 0)
  else
    trajectory.covers c.executionTimeNs &&
      (c.replaceableFromNs ≤ trajectory.earliestChangedNs ||
        c.executionTimeNs = 0 && trajectory.earliestChangedNs = 0)

/-- The state after a snapshot is accepted, `none` when it is invalid. -/
def takeSnapshot (priming : Bool) (snapshot : RollingSnapshot K) :
    Option (RollingTrajectoryController K) :=
  if snapshot.sessionEpoch ≠ c.rtObservedSessionEpoch ∨
      snapshot.trajectory.generation ≤ c.activeGeneration then none
  else if c.handoffTimeIsValid priming snapshot.trajectory then
    (sampleTrajectoryImageMonotonic snapshot.trajectory c.executionTimeNs {}).bind fun sampled =>
      if c.desiredIsValid sampled.1 then
        (addTime c.executionTimeNs c.configuration.replaceLeadNs).map fun boundaryNs =>
          { c with
            rtActiveTrajectory := some snapshot.trajectory
            rtSamplingCursor := sampled.2
            rtDesired := sampled.1
            rtConsumedPublicationSequence := snapshot.publicationSequence
            rtLastAcceptedArrivalNs := snapshot.arrivalTimeNs
            activeGeneration := snapshot.trajectory.generation
            bufferedUntilNs := snapshot.trajectory.points.getLast?.elim 0 (·.timeNs)
            replaceableFromNs := boundaryNs
            rtSessionState := if priming then .running else c.rtSessionState }
      else none
  else none

def consumeLatestRtTrajectory (priming : Bool) :
    RollingTrajectoryController K × SnapshotConsumeResult :=
  match c.unread with
  | none => (c, .noChange)
  | some snapshot =>
    if snapshot.publicationSequence < c.rtPublicationFloor ∨
        snapshot.publicationSequence ≤ c.rtConsumedPublicationSequence then
      ({ c with unread := none }, .noChange)
    else
      match { c with unread := none }.takeSnapshot priming snapshot with
      | none => ({ c with unread := none }, .invalid)
      | some taken => (taken, .accepted)

def updateRtReplaceableBoundary : RollingTrajectoryController K × Bool :=
  match addTime c.executionTimeNs c.configuration.replaceLeadNs with
  | none => (c, false)
  | some boundaryNs => ({ c with replaceableFromNs := boundaryNs }, true)

/-- The compare-and-exchange of the stop reason. -/
def recordStopReason (reason : StopReason) : RollingTrajectoryController K :=
  { c with stopReason := if c.stopReason = .none then reason else c.stopReason }

section Stop

variable [FloorSemiring K]

/-- `beginRtStop` in a priming or running session, behind the store of the reason. -/
def beginStopTrajectory : RollingTrajectoryController K × Bool :=
  match c.rtStopTrajectory.begin c.rtDesired with
  | none => (c, false)
  | some stop =>
    if stop.state = .holding then
      match stop.sample 0 with
      | none =>
        ({ c with rtStopTrajectory := stop, rtStopElapsedNs := 0, stopRequested := false }, false)
      | some (terminal, stop) =>
        if c.desiredIsValid terminal then
          ({ c with
            rtStopTrajectory := stop
            rtStopElapsedNs := 0
            stopRequested := false
            rtDesired := terminal
            rtSessionState := .holding }, true)
        else
          ({ c with rtStopTrajectory := stop, rtStopElapsedNs := 0, stopRequested := false }, false)
    else
      ({ c with
        rtStopTrajectory := stop
        rtStopElapsedNs := 0
        stopRequested := false
        rtSessionState := .stopping }, true)

def beginRtStop (reason : StopReason) : RollingTrajectoryController K × Bool :=
  match c.rtSessionState with
  | .stopping | .holding => (c, true)
  | .priming | .running => (c.recordStopReason reason).beginStopTrajectory
  | _ => (c, false)

end Stop

def stopIncrementNs (periodNs : ℤ) : ℕ :=
  if c.stopReason ≠ .clockAnomaly ∧ c.configuration.validPeriod periodNs then periodNs.toNat
  else c.configuration.nominalControllerPeriodNs

def advanceRtStop (periodNs : ℤ) : RollingTrajectoryController K × Bool :=
  match addTime c.rtStopElapsedNs (c.stopIncrementNs periodNs),
    addTime c.executionTimeNs (c.stopIncrementNs periodNs) with
  | some nextElapsedNs, some nextExecutionNs =>
    match c.rtStopTrajectory.sample nextElapsedNs with
    | none => (c, false)
    | some (candidate, stop) =>
      if c.desiredIsValid candidate then
        ({ c with
          rtStopTrajectory := stop
          rtDesired := candidate
          rtStopElapsedNs := nextElapsedNs
          executionTimeNs := nextExecutionNs
          rtSessionState := if stop.state = .holding then .holding else c.rtSessionState }, true)
      else ({ c with rtStopTrajectory := stop }, false)
  | _, _ => (c, false)

/-- Sample the active trajectory and keep the cursor; `none` when the sample is not used. -/
def sampleActive (trajectory : TrajectoryImage K) (timeNs : ℕ) :
    RollingTrajectoryController K × Option (JointPoint K) :=
  match sampleTrajectoryImageMonotonic trajectory timeNs c.rtSamplingCursor with
  | none => (c, none)
  | some (candidate, cursor) =>
    ({ c with rtSamplingCursor := cursor },
      if c.desiredIsValid candidate then some candidate else none)

def advanceRtFinal (trajectory : TrajectoryImage K) (periodNs : ℤ) :
    RollingTrajectoryController K × Bool :=
  match addTime c.executionTimeNs periodNs.toNat with
  | none => (c, false)
  | some nextExecutionNs =>
    match c.sampleActive trajectory (min nextExecutionNs c.bufferedUntilNs) with
    | (c', none) => (c', false)
    | (c', some candidate) =>
      let advanced := { c' with
        rtDesired := candidate
        executionTimeNs := min nextExecutionNs c.bufferedUntilNs }
      if nextExecutionNs < c.bufferedUntilNs then advanced.updateRtReplaceableBoundary
      else ({ advanced.recordStopReason .completed with rtSessionState := .holding }, true)

section Update

variable [FloorSemiring K]

/-- The last branch of a running session: advance, or begin a stop. -/
def advanceRunning (trajectory : TrajectoryImage K) (periodNs : ℤ) :
    RollingTrajectoryController K × Bool :=
  match addTime c.executionTimeNs periodNs.toNat with
  | none => c.beginRtStop .internalInvariant
  | some nextExecutionNs =>
    match c.sampleActive trajectory nextExecutionNs with
    | (c', none) => c'.beginRtStop .internalInvariant
    | (c', some candidate) =>
      match { c' with
        rtDesired := candidate
        executionTimeNs := nextExecutionNs }.updateRtReplaceableBoundary with
      | (c'', true) => (c'', true)
      | (c'', false) => c''.beginRtStop .internalInvariant

/-- A running session behind `consumeLatestRtTrajectory`. -/
def updateRunning (periodNs : ℤ) (nowNs : ℕ) : RollingTrajectoryController K × Bool :=
  match c.rtActiveTrajectory with
  | none => (c, false)
  | some trajectory =>
    if !c.configuration.validPeriod periodNs then c.beginRtStop .clockAnomaly
    else if trajectory.final then
      match c.advanceRtFinal trajectory periodNs with
      | (c', true) => (c', true)
      | (c', false) => c'.beginRtStop .internalInvariant
    else if elapsedExceeds nowNs c.rtLastAcceptedArrivalNs c.configuration.updateTimeoutNs then
      c.beginRtStop .updateTimeout
    else
      match c.configuration.limitChecker.calculateStopDurationNs c.rtDesired with
      | none => c.beginRtStop .internalInvariant
      | some stopDurationNs =>
        if hasSufficientStoppingHorizon c.executionTimeNs c.bufferedUntilNs stopDurationNs
            c.configuration.schedulingGuard then c.advanceRunning trajectory periodNs
        else c.beginRtStop .lowWater

end Update

/-- The command interfaces receive the positions. -/
def writeRtDesired : RollingTrajectoryController K × Option (Axis → K) :=
  if c.desiredIsValid c.rtDesired then
    ({ c with
      desiredPositions := c.rtDesired.positions
      desiredVelocities := c.rtDesired.velocities
      rtStateSessionEpoch := c.rtObservedSessionEpoch }, some c.rtDesired.positions)
  else (c, none)

end RollingTrajectoryController

end RobotDriver.Rolling
