import RobotDriver.Rolling.Realtime

/-!
# The invariant of the two threads

What holds of the controller in each session state, and what each program counter relies on. The
realtime side changes only its own words and moves the session forward, and `handleBatch` restarts
a session only while nothing moves.
-/

namespace RobotDriver.Rolling

variable {K : Type*} [Field K] [LinearOrder K]

namespace RollingTrajectoryController

variable (c : RollingTrajectoryController K)

def Moving : Prop := c.rtSessionState = .running ∨ c.rtSessionState = .stopping

/-- The point that a new session holds. -/
def hold : JointPoint K := ⟨0, c.desiredPositions, fun _ => 0⟩

/-- The unread snapshot, when the current session has published it. -/
def Current (snapshot : RollingSnapshot K) : Prop :=
  c.unread = some snapshot ∧ c.sessionPublicationFloor ≤ snapshot.publicationSequence

/-- The consumer as `resetRtEpoch` leaves it. -/
structure RtReset : Prop where
  floor : c.rtPublicationFloor = c.sessionPublicationFloor
  consumed : c.rtConsumedPublicationSequence < c.sessionPublicationFloor
  stop : c.rtStopTrajectory = { limitChecker := c.configuration.limitChecker }

section Sessions

variable [SquareRoot K]

structure Primed : Prop where
  execution : c.executionTimeNs = 0
  generation : c.activeGeneration = 0
  anchor : c.buffer.anchor = c.hold
  valid : c.desiredIsValid c.hold = true
  reset : c.rtObservedSessionEpoch = c.sessionEpoch → c.RtReset
  empty : c.buffer.image.points = [] → c.sessionPublicationFloor = c.publicationSequence + 1
  request : c.buffer.image.points = [] → c.stopRequested = false
  anchored : c.buffer.image.points ≠ [] →
    Anchored c.buffer.anchor c.buffer.image ∧ c.buffer.image.Starts 0
  unread : ∀ snapshot, c.Current snapshot → snapshot.sessionEpoch = c.sessionEpoch ∧
    SoundImage c.configuration.limitChecker snapshot.trajectory ∧
      Anchored c.buffer.anchor snapshot.trajectory ∧ snapshot.trajectory.Starts 0 ∧
        Linked snapshot.trajectory c.buffer.image

/-- A snapshot that a running session may still consume. -/
structure Successor (image : TrajectoryImage K) (snapshot : RollingSnapshot K) : Prop where
  consumed : c.rtConsumedPublicationSequence < snapshot.publicationSequence
  generation : image.generation < snapshot.trajectory.generation
  epoch : snapshot.sessionEpoch = c.sessionEpoch
  sound : SoundImage c.configuration.limitChecker snapshot.trajectory
  starts : snapshot.trajectory.Starts c.executionTimeNs
  linked : Linked image snapshot.trajectory
  latest : Linked snapshot.trajectory c.buffer.image

structure Runs (image : TrajectoryImage K) : Prop where
  active : c.rtActiveTrajectory = some image
  sound : SoundImage c.configuration.limitChecker image
  generation : c.activeGeneration = image.generation
  cursor : c.rtSamplingCursor.Fits image
  desired : sampleTrajectoryImage image c.executionTimeNs = some c.rtDesired
  valid : c.desiredIsValid c.rtDesired = true
  buffered : ∀ last ∈ image.points.getLast?, c.bufferedUntilNs = last.timeNs
  boundary : c.replaceableFromNs = c.executionTimeNs + c.configuration.replaceLeadNs ∧
      c.executionTimeNs + c.configuration.replaceLeadNs ≤ maxUint64 ∨
    maxUint64 < c.executionTimeNs + c.configuration.replaceLeadNs ∧ c.stopReason ≠ .none
  epoch : c.rtObservedSessionEpoch = c.sessionEpoch
  floor : c.rtPublicationFloor = c.sessionPublicationFloor
  consumed : c.sessionPublicationFloor ≤ c.rtConsumedPublicationSequence
  stop : c.rtStopTrajectory = { limitChecker := c.configuration.limitChecker }
  nonempty : c.buffer.image.points ≠ []
  starts : c.buffer.image.Starts c.executionTimeNs
  linked : Linked image c.buffer.image
  unread : ∀ snapshot, c.Current snapshot → c.Successor image snapshot

/-- What holds in every state of the controller. -/
structure Core : Prop where
  limitChecker : c.buffer.limitChecker = c.configuration.limitChecker
  stopChecker : c.rtStopTrajectory.limitChecker = c.configuration.limitChecker
  buffer : SoundBuffer c.buffer
  anchor : ∀ axis, c.buffer.anchor.velocities axis = 0
  image : c.buffer.image.points ≠ [] → SoundImage c.configuration.limitChecker c.buffer.image
  epoch : c.rtObservedSessionEpoch ≤ c.sessionEpoch
  floor_pos : 0 < c.sessionPublicationFloor
  floor_le : c.sessionPublicationFloor ≤ c.publicationSequence + 1
  consumed : c.rtConsumedPublicationSequence ≤ c.publicationSequence
  unread : ∀ snapshot, c.unread = some snapshot →
    snapshot.publicationSequence ≤ c.publicationSequence
  alive : c.rtSessionState ≠ .terminated
  primed : c.rtSessionState = .priming → c.Primed
  running : c.rtSessionState = .running → ∃ image, c.Runs image
  stopping : c.rtSessionState = .stopping → c.rtObservedSessionEpoch = c.sessionEpoch

end Sessions

/-- The arms hold what was written last. -/
def Still : Prop :=
  ¬c.Moving → c.rtDesired.positions = c.desiredPositions ∧ c.rtDesired.velocities = fun _ => 0

end RollingTrajectoryController

def StartStore.index : StartStore → ℕ
  | .executionTime => 0
  | .activeGeneration => 1
  | .bufferedUntil => 2
  | .replaceableFrom => 3
  | .primeStart => 4
  | .publicationFloor => 5
  | .stopReason => 6
  | .stopRequested => 7
  | .sessionEpoch => 8
  | .sessionState => 9

section Counters

variable (c : RollingTrajectoryController K)

/-- The session state that a tick has loaded still describes the controller. -/
def Captured : SessionState → Prop
  | .running => c.rtSessionState = .running
  | .stopping => c.rtSessionState = .stopping
  | .priming => c.rtSessionState = .priming
  | .none | .holding => ¬c.Moving
  | .terminated => False

def TickSound : TickPc → Prop
  | .epoch attempt => 0 < attempt → ¬c.Moving
  | .write => ¬c.Moving
  | .reset _ epoch => epoch ≤ c.sessionEpoch ∧ ¬c.Moving
  | .state _ epoch => c.rtObservedSessionEpoch = epoch
  | .recheck _ epoch state => c.rtObservedSessionEpoch = epoch ∧ Captured c state
  | .stopRequest state => (state = .priming ∨ state = .running) ∧ Captured c state ∧
      (state = .priming → c.RtReset)
  | .body state => Captured c state ∧ (state = .priming → c.RtReset)
  | .primeStart => c.rtSessionState = .priming ∧ c.RtReset
  | .stop => c.rtSessionState = .priming ∧ c.buffer.image.points ≠ [] ∨
      c.rtSessionState = .running

/-- Between the stores of `startSession`. -/
structure Storing (store : StartStore) (locals : StartLocals) : Prop where
  still : ¬c.Moving
  image : c.buffer.image.points = []
  anchor : c.buffer.anchor = c.hold
  valid : c.desiredIsValid c.hold = true
  publication : locals.publication = c.publicationSequence
  execution : 0 < store.index → c.executionTimeNs = 0
  generation : 1 < store.index → c.activeGeneration = 0
  floor : 5 < store.index → c.sessionPublicationFloor = c.publicationSequence + 1
  request : 7 < store.index → c.stopRequested = false
  epoch : store.index ≤ 8 → c.sessionEpoch = locals.epoch
  reset : store = .sessionState → c.rtObservedSessionEpoch = c.sessionEpoch → c.RtReset

variable [SquareRoot K]

/-- The candidate of an accepted `prepare`, whose context is not newer than the consumer allows. -/
structure Candidate (candidate : TrajectoryImage K) (context : AdmissionContext) : Prop where
  prepares : ∃ batch knot kept, Prepares c.buffer batch context candidate knot kept
  priming : c.rtSessionState = .priming → c.buffer.image.points ≠ [] →
    context.activeGeneration < c.buffer.image.generation
  running : c.rtSessionState = .running →
    context.activeGeneration < c.buffer.image.generation ∨
      c.rtActiveTrajectory = some c.buffer.image

/-- The committed image is newer than all that the consumer can have. -/
structure Unpublished : Prop where
  nonempty : c.buffer.image.points ≠ []
  active : c.rtSessionState = .running → c.activeGeneration < c.buffer.image.generation
  unread : c.rtSessionState = .running → ∀ snapshot, c.Current snapshot →
    snapshot.trajectory.generation < c.buffer.image.generation

def SessionSound : SessionPc K → Prop
  | .starting _ => ¬c.Moving ∧ (c.rtSessionState = .priming → c.buffer.image.points = [])
  | .storing store locals => Storing c store locals
  | .admitting _ => True
  | .prepared candidate => ∃ context, Candidate c candidate context
  | .committing candidate context' => (∃ context, Candidate c candidate context) ∧
      (c.rtSessionState = .priming ∨ c.rtSessionState = .running →
        context'.executionTimeNs ≤ c.executionTimeNs)
  | .publishing => Unpublished c
  | .reporting | .requesting => c.buffer.image.points ≠ []

end Counters

variable [SquareRoot K]

structure World.Sound (w : World K) : Prop where
  core : w.controller.Core
  still : w.controller.Still
  tick : ∀ input pc, w.tick = some (input, pc) → TickSound w.controller pc
  session : ∀ message pc, w.session = some (message, pc) → SessionSound w.controller pc

section Frame

variable {c c' : RollingTrajectoryController K}

/-- What the steps of a tick may change of what `handleBatch` relies on. -/
structure RtStep (c c' : RollingTrajectoryController K) : Prop where
  configuration : c'.configuration = c.configuration
  buffer : c'.buffer = c.buffer
  publication : c'.publicationSequence = c.publicationSequence
  epoch : c'.sessionEpoch = c.sessionEpoch
  floor : c'.sessionPublicationFloor = c.sessionPublicationFloor
  still : ¬c.Moving → ¬c'.Moving
  desired : ¬c.Moving → c'.desiredPositions = c.desiredPositions
  execution : ¬c.Moving → c.executionTimeNs = 0 → c'.executionTimeNs = 0
  generation : ¬c.Moving → c.activeGeneration = 0 → c'.activeGeneration = 0
  request : c.stopRequested = false → c'.stopRequested = false
  reset : ¬c.Moving → c.buffer.image.points = [] →
    (c.rtObservedSessionEpoch = c.sessionEpoch → c.RtReset) →
      c'.rtObservedSessionEpoch = c'.sessionEpoch → c'.RtReset
  priming : c'.rtSessionState = .priming → c.rtSessionState = .priming ∧
    c'.executionTimeNs = c.executionTimeNs
  running : c'.rtSessionState = .running → c.rtSessionState = .running ∧
    c.executionTimeNs ≤ c'.executionTimeNs
  active : c'.rtSessionState = .running → c.rtActiveTrajectory = some c.buffer.image →
    c'.rtActiveTrajectory = some c.buffer.image
  unpublished : c'.rtSessionState = .running → Unpublished c → Unpublished c'

theorem SessionSound.realtime {pc : SessionPc K} (h : SessionSound c pc) (hstep : RtStep c c') :
    SessionSound c' pc := by
  have hcandidate : ∀ candidate, (∃ context, Candidate c candidate context) →
      ∃ context, Candidate c' candidate context := by
    rintro candidate ⟨context, hprepares, hpriming, hrunning⟩
    refine ⟨context, ?_, fun hstate => ?_, fun hstate => ?_⟩
    · rw [hstep.buffer]
      exact hprepares
    · rw [hstep.buffer]
      exact hpriming (hstep.priming hstate).1
    · rw [hstep.buffer]
      exact (hrunning (hstep.running hstate).1).imp_right (hstep.active hstate)
  cases pc with
  | starting startNs =>
    refine ⟨hstep.still h.1, fun hstate => ?_⟩
    rw [hstep.buffer]
    exact h.2 (hstep.priming hstate).1
  | storing store locals =>
    have hhold : c'.hold = c.hold := by
      rw [RollingTrajectoryController.hold, hstep.desired h.still]
      rfl
    constructor
    · exact hstep.still h.still
    · rw [hstep.buffer]
      exact h.image
    · rw [hstep.buffer, hhold]
      exact h.anchor
    · rw [hhold, RollingTrajectoryController.desiredIsValid, hstep.configuration]
      exact h.valid
    · rw [hstep.publication]
      exact h.publication
    · exact fun hindex => hstep.execution h.still (h.execution hindex)
    · exact fun hindex => hstep.generation h.still (h.generation hindex)
    · rw [hstep.floor, hstep.publication]
      exact h.floor
    · exact fun hindex => hstep.request (h.request hindex)
    · rw [hstep.epoch]
      exact h.epoch
    · exact fun hstore => hstep.reset h.still h.image (h.reset hstore)
  | admitting offsetNs => trivial
  | prepared candidate => exact hcandidate candidate h
  | committing candidate context' =>
    refine ⟨hcandidate candidate h.1, fun hstate => ?_⟩
    rcases hstate with hstate | hstate
    · obtain ⟨hbefore, hexecution⟩ := hstep.priming hstate
      rw [hexecution]
      exact h.2 (.inl hbefore)
    · obtain ⟨hbefore, hexecution⟩ := hstep.running hstate
      exact (h.2 (.inr hbefore)).trans hexecution
  | publishing =>
    by_cases hstate : c'.rtSessionState = .running
    · exact hstep.unpublished hstate h
    · refine ⟨?_, fun hrunning => absurd hrunning hstate, fun hrunning => absurd hrunning hstate⟩
      rw [hstep.buffer]
      exact h.nonempty
  | reporting | requesting =>
    change c'.buffer.image.points ≠ []
    rw [hstep.buffer]
    exact h

/-- What the steps of `handleBatch` may change of what a tick relies on. -/
structure BatchStep (c c' : RollingTrajectoryController K) : Prop where
  configuration : c'.configuration = c.configuration
  observed : c'.rtObservedSessionEpoch = c.rtObservedSessionEpoch
  rtFloor : c'.rtPublicationFloor = c.rtPublicationFloor
  consumed : c'.rtConsumedPublicationSequence = c.rtConsumedPublicationSequence
  stop : c'.rtStopTrajectory = c.rtStopTrajectory
  epoch : c.sessionEpoch ≤ c'.sessionEpoch
  state : c'.rtSessionState = c.rtSessionState ∨ c'.rtSessionState = .priming ∧ ¬c.Moving
  floor : c.rtSessionState = .priming →
    c'.sessionPublicationFloor = c.sessionPublicationFloor
  image : c.rtSessionState = .priming → c.buffer.image.points ≠ [] →
    c'.buffer.image.points ≠ []

omit [SquareRoot K] in
theorem TickSound.batch {pc : TickPc} (h : TickSound c pc) (hstep : BatchStep c c') :
    TickSound c' pc := by
  have hmoving : ¬c.Moving → ¬c'.Moving := by
    intro hstill hmoving
    rcases hstep.state with hstate | ⟨hstate, -⟩
    · rw [RollingTrajectoryController.Moving, hstate] at hmoving
      exact hstill hmoving
    · rw [RollingTrajectoryController.Moving, hstate] at hmoving
      rcases hmoving with hmoving | hmoving <;> cases hmoving
  have hpriming : c.rtSessionState = .priming → c'.rtSessionState = .priming := by
    intro hbefore
    rcases hstep.state with hstate | ⟨hstate, -⟩
    · rw [hstate, hbefore]
    · exact hstate
  have hkeep : c.Moving → c'.rtSessionState = c.rtSessionState := fun hbefore =>
    hstep.state.resolve_right fun hrestart => hrestart.2 hbefore
  have hcaptured : ∀ state, Captured c state → Captured c' state := by
    intro state hstate
    cases state with
    | none => exact hmoving hstate
    | priming => exact hpriming hstate
    | running => exact (hkeep (.inl hstate)).trans hstate
    | stopping => exact (hkeep (.inr hstate)).trans hstate
    | holding => exact hmoving hstate
    | terminated => exact hstate
  have hreset : c.rtSessionState = .priming → c.RtReset → c'.RtReset := by
    rintro hbefore ⟨hfloor, hconsumed, hstop⟩
    refine ⟨?_, ?_, ?_⟩
    · rw [hstep.rtFloor, hfloor, hstep.floor hbefore]
    · rw [hstep.consumed, hstep.floor hbefore]
      exact hconsumed
    · rw [hstep.stop, hstep.configuration]
      exact hstop
  cases pc with
  | epoch attempt => exact fun hattempt => hmoving (h hattempt)
  | write => exact hmoving h
  | reset attempt epoch => exact ⟨h.1.trans hstep.epoch, hmoving h.2⟩
  | state attempt epoch => exact hstep.observed.trans h
  | recheck attempt epoch state => exact ⟨hstep.observed.trans h.1, hcaptured state h.2⟩
  | stopRequest state =>
    refine ⟨h.1, hcaptured state h.2.1, fun hstate => hreset ?_ (h.2.2 hstate)⟩
    rw [hstate] at h
    exact h.2.1
  | body state =>
    refine ⟨hcaptured state h.1, fun hstate => hreset ?_ (h.2 hstate)⟩
    rw [hstate] at h
    exact h.1
  | primeStart => exact ⟨hpriming h.1, hreset h.1 h.2⟩
  | stop =>
    rcases h with ⟨hstate, himage⟩ | hstate
    · exact .inl ⟨hpriming hstate, hstep.image hstate himage⟩
    · exact .inr ((hkeep (.inl hstate)).trans hstate)

end Frame

end RobotDriver.Rolling
