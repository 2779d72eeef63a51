import RobotDriver.Rolling.Session

/-!
# The controller and its two threads

A tick of `update` loads the session epoch and state in attempts of its own, then the stop request
and the start of a priming session; the rest of it, from the gate to the write of its positions, is
one step. A call of `handleBatch` holds the gate and the mutex from its delivery to its result. The
field `commanded` records the positions that the ticks have written, newest first, and `results`
the answers.
-/

namespace RobotDriver.Rolling

open RollingTrajectoryController

structure TickInput where
  timeNs : ℤ
  periodNs : ℤ
  deriving DecidableEq

def maximumEpochReadAttempts : ℕ := 3

/-- Where a tick stands; `body` holds the coherent state, `write` follows incoherent attempts. -/
inductive TickPc
  | epoch (attempt : ℕ)
  | reset (attempt epoch : ℕ)
  | state (attempt epoch : ℕ)
  | recheck (attempt epoch : ℕ) (state : SessionState)
  | stopRequest (state : SessionState)
  | primeStart
  | body (state : SessionState)
  | stop
  | write
  deriving DecidableEq

inductive SessionPc (K : Type*)
  | starting (startNs : ℤ)
  | storing (store : StartStore) (locals : StartLocals)
  | admitting (offsetNs : ℤ)
  | prepared (candidate : TrajectoryImage K)
  | committing (candidate : TrajectoryImage K) (context : AdmissionContext)
  | publishing
  | reporting
  | requesting

structure World (K : Type*) [Field K] [LinearOrder K] where
  controller : RollingTrajectoryController K
  tick : Option (TickInput × TickPc) := none
  session : Option (BatchMessage K × SessionPc K) := none
  commanded : List (Axis → K) := []
  results : List (ℕ × BatchResult) := []

/-- A label carries what the environment chooses for the step. -/
inductive Label (K : Type*)
  | tick (input : TickInput) (observedPositions : Axis → Option K) (feedbackAgeMs : Option K)
  | realtime (nowNs : ℕ)
  | deliver (message : BatchMessage K) (nowNs : ℤ)
  | admission (nowNs : ℕ) (readable : Bool)

namespace World

variable {K : Type*} [Field K] [LinearOrder K] (w : World K)

/-- `writeRtDesired` at the end of a tick whose update succeeded. -/
def finishTick (updated : RollingTrajectoryController K × Bool) : World K :=
  if updated.2 then
    match updated.1.writeRtDesired with
    | (c, none) => { w with controller := c, tick := none }
    | (c, some positions) =>
      { w with controller := c, tick := none, commanded := positions :: w.commanded }
  else { w with controller := updated.1, tick := none }

def finishBatch (message : BatchMessage K) (c : RollingTrajectoryController K)
    (result : BatchResult) : World K :=
  { w with
    controller := { c with lastResult := result, lastSequence := message.sequence }
    session := none
    results := (message.sequence, result) :: w.results }

section Realtime

variable [FloorSemiring K]

/-- The part of a tick behind the gate. -/
def updateBody (c : RollingTrajectoryController K) (busy : Bool) (state : SessionState)
    (periodNs : ℤ) (nowNs : ℕ) : RollingTrajectoryController K × Bool :=
  match state with
  | .priming =>
    if busy then (c, true)
    else
      match c.consumeLatestRtTrajectory true with
      | (c', .invalid) => c'.beginRtStop .internalInvariant
      | (c', _) => (c', true)
  | .running =>
    if c.executionTimeNs = 0 ∧ busy then (c, true)
    else
      match c.consumeLatestRtTrajectory false with
      | (c', .invalid) => c'.beginRtStop .internalInvariant
      | (c', _) => c'.updateRunning periodNs nowNs
  | .stopping => c.advanceRtStop periodNs
  | .holding | .none => ({ c with rtDesired.velocities := fun _ => 0 }, true)
  | .terminated => (c, true)

def stepTick (input : TickInput) (nowNs : ℕ) : TickPc → World K
  | .epoch attempt =>
    if attempt = maximumEpochReadAttempts then { w with tick := some (input, .write) }
    else if w.controller.sessionEpoch = w.controller.rtObservedSessionEpoch then
      { w with tick := some (input, .state attempt w.controller.sessionEpoch) }
    else { w with tick := some (input, .reset attempt w.controller.sessionEpoch) }
  | .reset attempt epoch =>
    match w.controller.resetRtEpoch epoch with
    | none => { w with tick := none }
    | some c => { w with controller := c, tick := some (input, .state attempt epoch) }
  | .state attempt epoch =>
    { w with tick := some (input, .recheck attempt epoch w.controller.rtSessionState) }
  | .recheck attempt epoch state =>
    if w.controller.sessionEpoch ≠ epoch then
      { w with tick := some (input, .epoch (attempt + 1)) }
    else if state = .priming ∨ state = .running then
      { w with tick := some (input, .stopRequest state) }
    else { w with tick := some (input, .body state) }
  | .stopRequest state =>
    if w.controller.stopRequested then { w with tick := some (input, .stop) }
    else if state = .priming then { w with tick := some (input, .primeStart) }
    else { w with tick := some (input, .body state) }
  | .primeStart =>
    if w.controller.primeStartNs ≤ input.timeNs then
      { w with tick := some (input, .body .priming) }
    else { w with tick := some (input, .write) }
  | .body state => w.finishTick
      (updateBody w.controller w.session.isSome state input.periodNs nowNs)
  | .stop => w.finishTick (w.controller.beginRtStop .internalInvariant)
  | .write => w.finishTick (w.controller, true)

end Realtime

section Batch

variable [FloorSemiring K] [SquareRoot K]

def stepDeliver (message : BatchMessage K) (nowNs : ℤ) : World K :=
  if message.epoch ≠ w.controller.activationEpoch then
    w.finishBatch message w.controller .wrongEpoch
  else if message.sequence ≤ w.controller.epochSequence then
    w.finishBatch message w.controller .staleSequence
  else
    let c := { w.controller with epochSequence := message.sequence }
    match w.controller.admission message nowNs with
    | .result result => w.finishBatch message c result
    | .thrown => { w with controller := c, session := none }
    | .start startNs => { w with controller := c, session := some (message, .starting startNs) }
    | .continue offsetNs =>
      { w with controller := c, session := some (message, .admitting offsetNs) }

/-- The conversion of the points, the first context and `prepare`. -/
def stepAdmitting (message : BatchMessage K) (offsetNs : ℤ) (readable : Bool) : World K :=
  match pointViews offsetNs message.points with
  | .thrown => { w with session := none }
  | .invalid => w.finishBatch message w.controller .invalidBatch
  | .views points =>
    match w.controller.buildAdmissionContext readable with
    | none => w.finishBatch message w.controller .notAccepting
    | some context =>
      match w.controller.buffer.prepare ⟨offsetNs.toNat, points, message.final⟩ context with
      | .error code => w.finishBatch message w.controller (publicResult code)
      | .ok candidate => { w with session := some (message, .prepared candidate) }

def stepSession (message : BatchMessage K) (nowNs : ℕ) (readable : Bool) : SessionPc K → World K
  | .starting startNs =>
    match w.controller.beginSession startNs with
    | .error result => w.finishBatch message w.controller result
    | .ok (c, locals) =>
      { w with controller := c, session := some (message, .storing .executionTime locals) }
  | .storing store locals =>
    { w with
      controller := w.controller.storeStart locals store
      session := some (message, store.next.elim (.admitting 0) (.storing · locals)) }
  | .admitting offsetNs => w.stepAdmitting message offsetNs readable
  | .prepared candidate =>
    match w.controller.buildAdmissionContext readable with
    | none => w.finishBatch message w.controller .notAccepting
    | some context => { w with session := some (message, .committing candidate context) }
  | .committing candidate context =>
    match w.controller.buffer.commit candidate context with
    | .error code => w.finishBatch message w.controller (publicResult code)
    | .ok buffer =>
      { w with controller := { w.controller with buffer }, session := some (message, .publishing) }
  | .publishing =>
    match w.controller.publish nowNs with
    | none => { w with session := some (message, .reporting) }
    | some c => w.finishBatch message c .accepted
  | .reporting =>
    { w with
      controller := w.controller.recordStopReason .internalInvariant
      session := some (message, .requesting) }
  | .requesting =>
    w.finishBatch message { w.controller with stopRequested := true } .notAccepting

def step (w : World K) : Label K → World K
  | .tick input observedPositions feedbackAgeMs =>
    match w.tick with
    | some _ => w
    | none =>
      { w with
        controller :=
          { w.controller with observedPositions, observedFeedbackAgeMs := feedbackAgeMs }
        tick := some (input, .epoch 0) }
  | .realtime nowNs =>
    match w.tick with
    | none => w
    | some (input, pc) => w.stepTick input nowNs pc
  | .deliver message nowNs =>
    match w.session with
    | some _ => w
    | none => w.stepDeliver message nowNs
  | .admission nowNs readable =>
    match w.session with
    | none => w
    | some (message, pc) => w.stepSession message nowNs (readable && w.tick.isNone) pc

end Batch

/-- The controller after its activation. The exchange keeps its counter and the snapshot that the
last activation has left unread. -/
def activated (configuration : RuntimeConfiguration K) (sourceCommands : Axis → K)
    (actualPositions : Axis → Option K) (feedbackAgeMs : Option K) (activationEpoch : ℕ)
    (publicationSequence : ℕ) (unread : Option (RollingSnapshot K)) : World K where
  controller :=
    { configuration
      buffer := { configuration := configuration.buffer, limitChecker := configuration.limitChecker }
      unread
      publicationSequence
      activationEpoch
      observedPositions := actualPositions
      observedFeedbackAgeMs := feedbackAgeMs
      desiredPositions := sourceCommands
      rtDesired := ⟨0, sourceCommands, fun _ => 0⟩
      rtStopTrajectory := { limitChecker := configuration.limitChecker } }

end World

end RobotDriver.Rolling
