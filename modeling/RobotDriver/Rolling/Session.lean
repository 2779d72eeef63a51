import RobotDriver.Rolling.Controller

/-!
# Sessions and admission

The non-realtime functions of `RollingTrajectoryController`. A call of `handleBatch` is a sequence
of steps: each loads or stores shared words once, and `startSession` stores them one by one. A time
stamp with negative seconds makes the conversion throw.
-/

namespace RobotDriver.Rolling

structure Stamp where
  sec : ℤ
  nanosec : ℕ
  deriving DecidableEq

def Stamp.nanoseconds (stamp : Stamp) : Option ℤ :=
  if stamp.sec < 0 then none else some (stamp.sec * 10 ^ 9 + stamp.nanosec)

structure MessagePoint (K : Type*) where
  timeFromStart : Stamp
  positions : List (Option K)
  velocities : List (Option K)

structure BatchMessage (K : Type*) where
  epoch : ℕ
  sequence : ℕ
  replaceFrom : Stamp
  points : List (MessagePoint K)
  final : Bool

def publicResult : RejectCode → BatchResult
  | .none => .accepted
  | .lateReplace => .lateReplace
  | .positionDiscontinuity | .velocityDiscontinuity => .spliceMismatch
  | .positionLimit | .velocityLimit | .accelerationLimit => .limitExceeded
  | .notStoppingViable => .notStoppable
  | .capacityExceeded | .insufficientHorizon | .horizonExceeded => .horizonExceeded
  | .sessionNotAccepting => .notAccepting
  | .finalNotAtRest => .finalNotAtRest
  | _ => .invalidBatch

/-- The conversion of an unsigned word. -/
def toInt64 (value : ℕ) : ℤ := (value : ℤ).bmod (2 ^ 64)

/-- The stores of `startSession` into the words that the realtime side reads, in order. -/
inductive StartStore
  | executionTime | activeGeneration | bufferedUntil | replaceableFrom | primeStart
  | publicationFloor | stopReason | stopRequested | sessionEpoch | sessionState
  deriving DecidableEq, Repr

def StartStore.next : StartStore → Option StartStore
  | .executionTime => some .activeGeneration
  | .activeGeneration => some .bufferedUntil
  | .bufferedUntil => some .replaceableFrom
  | .replaceableFrom => some .primeStart
  | .primeStart => some .publicationFloor
  | .publicationFloor => some .stopReason
  | .stopReason => some .stopRequested
  | .stopRequested => some .sessionEpoch
  | .sessionEpoch => some .sessionState
  | .sessionState => none

/-- The locals of `startSession` behind its checks. -/
structure StartLocals where
  startNs : ℤ
  epoch : ℕ
  publication : ℕ

/-- How the part of `admitBatch` before its first context ends. -/
inductive Admission
  | result (result : BatchResult)
  | thrown
  | start (startNs : ℤ)
  | continue (offsetNs : ℤ)

inductive Conversion (K : Type*)
  | thrown
  | invalid
  | views (points : List (PointView K))

section Conversion

variable {K : Type*}

def pointViews (offsetNs : ℤ) : List (MessagePoint K) → Conversion K
  | [] => .views []
  | point :: rest =>
    match point.timeFromStart.nanoseconds with
    | none => .thrown
    | some durationNs =>
      if offsetNs + durationNs < 0 then .invalid
      else
        match pointViews offsetNs rest with
        | .views points =>
          .views (⟨(offsetNs + durationNs).toNat, point.positions, point.velocities⟩ :: points)
        | other => other

end Conversion

variable {K : Type*} [Field K] [LinearOrder K]

def feedbackFresh (ageMs : Option K) (limitMs : K) : Bool :=
  ageMs.any fun age => 0 ≤ age && age ≤ limitMs

namespace RollingTrajectoryController

variable (c : RollingTrajectoryController K)

/-- A running session, or a priming one with an accepted batch. -/
def accepting : Bool :=
  c.rtSessionState = .running || c.rtSessionState = .priming && !c.buffer.image.points.isEmpty

/-- `admitBatch` behind the store of the sequence, up to the decision to start a session. -/
def admission (message : BatchMessage K) (nowNs : ℤ) : Admission :=
  if message.points.length = 0 ∨ transportMaxPoints < message.points.length then
    .result .invalidBatch
  else
    match message.replaceFrom.nanoseconds with
    | none => .thrown
    | some replaceFromNs =>
      if replaceFromNs - nowNs < toInt64 c.configuration.replaceLeadNs then .result .lateReplace
      else if c.accepting then
        if replaceFromNs - c.sessionOriginNs < 0 then .result .lateReplace
        else .continue (replaceFromNs - c.sessionOriginNs)
      else if c.rtSessionState = .stopping ∨ c.rtSessionState = .terminated then
        .result .notAccepting
      else if toInt64 c.configuration.buffer.maxHorizonNs < replaceFromNs - nowNs then
        .result .horizonExceeded
      else .start replaceFromNs

def anchorIsNear : Bool :=
  axes.all fun axis => (c.observedPositions axis).any fun actual =>
    |c.desiredPositions axis - actual| ≤ c.configuration.takeoverTolerances axis

/-- `startSession` up to its first store into a shared word. -/
def beginSession (startNs : ℤ) :
    Except BatchResult (RollingTrajectoryController K × StartLocals) :=
  if !feedbackFresh c.observedFeedbackAgeMs c.configuration.feedbackAgeLimitMs then
    .error .notAccepting
  else if !c.anchorIsNear then .error .notAccepting
  else if c.sessionEpoch = maxUint64 ∨ c.publicationSequence = maxUint64 then
    .error .notAccepting
  else
    match c.buffer.reset ⟨0, c.desiredPositions, fun _ => 0⟩ with
    | none => .error .limitExceeded
    | some buffer =>
      .ok ({ c with
        buffer
        previousStopReason :=
          if c.stopReason = .none then c.previousStopReason else publicStopReason c.stopReason
        sessionOriginNs := startNs }, ⟨startNs, c.sessionEpoch, c.publicationSequence⟩)

def storeStart (locals : StartLocals) : StartStore → RollingTrajectoryController K
  | .executionTime => { c with executionTimeNs := 0 }
  | .activeGeneration => { c with activeGeneration := 0 }
  | .bufferedUntil => { c with bufferedUntilNs := 0 }
  | .replaceableFrom => { c with replaceableFromNs := 0 }
  | .primeStart => { c with primeStartNs := locals.startNs }
  | .publicationFloor => { c with sessionPublicationFloor := locals.publication + 1 }
  | .stopReason => { c with stopReason := .none }
  | .stopRequested => { c with stopRequested := false }
  | .sessionEpoch => { c with sessionEpoch := locals.epoch + 1 }
  | .sessionState => { c with rtSessionState := .priming }

/-- `none` when the call returns false. The view of the realtime state cannot be read while a tick
runs, or when ticks intervene in every attempt. -/
def buildAdmissionContext [FloorSemiring K] (readable : Bool) : Option AdmissionContext :=
  if c.rtSessionState = .priming ∧ c.activeGeneration = 0 then some { priming := true }
  else if !readable then none
  else
    let desired : JointPoint K := ⟨c.executionTimeNs, c.desiredPositions, c.desiredVelocities⟩
    if !c.desiredIsValid desired ∨ c.rtSessionState ≠ .running ∨
        c.rtStateSessionEpoch ≠ c.sessionEpoch then none
    else
      (c.configuration.limitChecker.calculateStopDurationNs desired).bind fun stopDurationNs =>
        (c.configuration.schedulingGuard.required stopDurationNs).map fun minimumHorizonNs =>
          { executionTimeNs := c.executionTimeNs
            replaceableFromNs := c.replaceableFromNs
            minimumHorizonNs
            activeGeneration := c.activeGeneration }

/-- `RollingSnapshotExchange::publish`, `none` when it returns false. -/
def publish (arrivalTimeNs : ℕ) : Option (RollingTrajectoryController K) :=
  if c.publicationSequence = maxUint64 then none
  else
    some { c with
      unread := some
        { sessionEpoch := c.sessionEpoch
          trajectory := c.buffer.image
          arrivalTimeNs
          publicationSequence := c.publicationSequence + 1 }
      publicationSequence := c.publicationSequence + 1 }

end RollingTrajectoryController

end RobotDriver.Rolling
