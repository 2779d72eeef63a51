import RobotDriver.OperatorWeb.ConsoleSteps

/-!
# The sockets of the arm page

Each connection has a handler that serves its commands and status pushes until the socket is seen
to be closed, and then reads the lease, stops the arm if the connection still holds it, releases
and ends. A socket may be lost long before that is seen, and any step of the console and of other
connections may fall between two steps of a handler. `commander` is the connection that started
the motion in progress, `released` records the explicit releases, `commanding` the sockets that
were lost, or seen to be lost, during their own motion, and `stopped` the handlers that called
`stop`.
-/

namespace RobotDriver.OperatorWeb

variable {n : ℕ} {C P G K : Type*}

inductive SocketPhase
  | unopened
  | connected
  | lost
  | closing
  | stopping
  | releasing
  | ending
  | ended
  deriving DecidableEq, Repr

/-- The connection a command or a status push comes from. -/
def ConsoleEvent.session : ConsoleEvent n C P G K → Option C
  | .touch session => some session
  | .acquire session => some session
  | .release session => some session
  | .beginEnable session => some session
  | .execute session _ _ => some session
  | .runSequence session _ => some session
  | _ => none

structure ArmPage (n : ℕ) (C P G K : Type*) where
  console : ArmConsole n C P G K
  phase : C → SocketPhase := fun _ => .unopened
  commander : Option C := none
  released : C → Bool := fun _ => false
  commanding : C → Bool := fun _ => false
  stopped : C → Bool := fun _ => false

inductive ArmPageEvent (n : ℕ) (C P G K : Type*)
  | console (event : ConsoleEvent n C P G K)
  | connect (connection : C)
  | lose (connection : C)
  | detect (connection : C)
  | readHolder (connection : C)
  | callStop (connection : C)
  | callRelease (connection : C)
  | finish (connection : C)

namespace Motion

def idle (m : Motion C P G K) : Bool := m.execution.isNone && m.sequence.isNone

end Motion

namespace ArmPage

variable [DecidableEq C] [DecidableEq P] [DecidableEq G] [Field K] [LinearOrder K]
  (config : ConsoleConfig n G K) (s : ArmPage n C P G K)

def serving (connection : C) : Bool :=
  s.phase connection = .connected || s.phase connection = .lost

def moveTo (connection : C) (phase : SocketPhase) : ArmPage n C P G K :=
  { s with phase := Function.update s.phase connection phase }

/-- The motion belongs to the connection whose command found the console idle. -/
def consoleStep (event : ConsoleEvent n C P G K) : ArmPage n C P G K :=
  { s with
    console := s.console.step config event
    commander :=
      if (s.console.step config event).idle then none
      else if s.console.idle then event.session
      else s.commander }

def recordRelease : ConsoleEvent n C P G K → ArmPage n C P G K
  | .release session => { s with released := Function.update s.released session true }
  | _ => s

def handle (event : ConsoleEvent n C P G K) : ArmPage n C P G K :=
  if event.session.all s.serving then (s.recordRelease event).consoleStep config event else s

/-- The motion of the connection is in progress when its socket is lost or seen to be lost. -/
def recordMotion (connection : C) : ArmPage n C P G K :=
  if s.commander = some connection then
    { s with commanding := Function.update s.commanding connection true }
  else s

/-- The test of the `finally` block. -/
def readHolder (connection : C) : ArmPage n C P G K :=
  if s.console.holdsLease connection then
    (s.consoleStep config .readLease).moveTo connection .stopping
  else (s.consoleStep config .readLease).moveTo connection .ending

def step : ArmPageEvent n C P G K → ArmPage n C P G K
  | .console event => s.handle config event
  | .connect connection =>
    if s.phase connection = .unopened then s.moveTo connection .connected else s
  | .lose connection =>
    if s.phase connection = .connected then (s.recordMotion connection).moveTo connection .lost
    else s
  | .detect connection =>
    if s.phase connection = .lost then (s.recordMotion connection).moveTo connection .closing
    else s
  | .readHolder connection =>
    if s.phase connection = .closing then s.readHolder config connection else s
  | .callStop connection =>
    if s.phase connection = .stopping then
      { (s.consoleStep config .stop).moveTo connection .releasing with
        stopped := Function.update s.stopped connection true }
    else s
  | .callRelease connection =>
    if s.phase connection = .releasing then
      (s.consoleStep config (.release connection)).moveTo connection .ending
    else s
  | .finish connection =>
    if s.phase connection = .ending then s.moveTo connection .ended else s

end ArmPage

namespace ArmConsole

variable [DecidableEq C] [DecidableEq P] [DecidableEq G] [Field K] [LinearOrder K]
  (config : ConsoleConfig n G K) (s : ArmConsole n C P G K)

/-- The next step of the sequence comes to `execute`. -/
def stepLooks (sequence : Sequence C P G K) : Bool :=
  sequence.steps[sequence.index]?.any fun step => s.model.isSome && (s.poses step.name).isSome

/-- The event looks at the lease, which first drops an expired one. -/
def looks : ConsoleEvent n C P G K → Bool
  | .acquire _ | .readLease | .beginEnable _ | .execute .. => true
  | .runSequence _ steps => (normalize config steps).toBool
  | .startSequence id _ =>
    decide (id ∈ s.starts) && s.sequence.any fun sequence =>
      decide (sequence.id = id) && s.stepLooks sequence
  | .work id _ => decide (id ∈ s.workers) && s.sequence.any fun sequence => sequence.id = id
  | _ => false

variable {config s}

omit [DecidableEq P] in
theorem stepLooks_of_stepError {sequence : Sequence C P G K} {step : SequenceStep P G K}
    {result : Except ErrorCode Unit} (hstep : sequence.steps[sequence.index]? = some step)
    {m : Motion C P G K} {stepping : Sequence C P G K}
    (h : ArmConsole.stepError config { s with toMotion := m } stepping step = result)
    (hmodel : result ≠ .error .modelUnavailable) (hpose : result ≠ .error .badPose) :
    s.stepLooks sequence = true := by
  unfold stepLooks
  unfold stepError at h
  rw [hstep]
  split at h
  · exact absurd h.symm hmodel
  · rename_i hloaded
    split at h
    · exact absurd h.symm hpose
    · rename_i pose hfound
      have hpose' : s.poses step.name = some pose := hfound
      simp only [Option.any_some, hpose', Option.isSome_some, Bool.and_true]
      exact Option.isSome_iff_ne_none.2 (by simpa using hloaded)

variable (config s) in
omit [DecidableEq P] in
theorem arm_sequenceStep (sequence : Sequence C P G K) (accepted : Bool) :
    (s.sequenceStep config sequence accepted).arm = s.arm ∨
      s.stepLooks sequence = true ∧
        (s.sequenceStep config sequence accepted).arm = s.arm.expire s.now := by
  unfold sequenceStep
  split
  · exact .inl rfl
  · rename_i step hstep
    dsimp only
    split
    · rename_i hok
      exact .inr ⟨stepLooks_of_stepError hstep hok (by simp) (by simp), rfl⟩
    · rename_i hreached
      exact .inr ⟨stepLooks_of_stepError hstep hreached (by simp) (by simp), rfl⟩
    · exact .inl rfl
    · exact .inl rfl
    · rename_i code hpose hmodel herror
      exact .inr ⟨stepLooks_of_stepError hstep herror (by simpa using hmodel) (by simpa using hpose),
        rfl⟩

/-- What a step does to the lease. -/
inductive Leases (config : ConsoleConfig n G K) (s : ArmConsole n C P G K) :
    ConsoleEvent n C P G K → ArmLease C K → Prop
  | keep (event : ConsoleEvent n C P G K) : Leases config s event s.arm
  | touch (session : C) : Leases config s (.touch session) (s.arm.touch session s.now)
  | acquire (session : C) : Leases config s (.acquire session) (s.arm.acquire session s.now)
  | release (session : C) : Leases config s (.release session) (s.arm.release session)
  | look (event : ConsoleEvent n C P G K) (looks : s.looks config event = true) :
      Leases config s event (s.arm.expire s.now)

variable (config s) in
theorem leases (event : ConsoleEvent n C P G K) :
    Leases config s event (s.step config event).arm := by
  cases event with
  | advance now | send execution | done execution success =>
    simp only [step]
    split <;> exact .keep _
  | setModel bounds => exact .keep _
  | setPose name pose => exact .keep _
  | update robot => exact .keep _
  | touch session => exact .touch session
  | acquire session => exact .acquire session
  | release session => exact .release session
  | readLease => exact .look _ rfl
  | beginEnable session =>
    simp only [step, beginEnable]
    split <;> exact .look _ rfl
  | endEnable => exact .keep _
  | execute session target gear =>
    simp only [step, ArmConsole.execute]
    split <;> exact .look _ rfl
  | stop => exact .keep _
  | runSequence session steps =>
    simp only [step, ArmConsole.runSequence]
    split
    · exact .keep _
    · rename_i hok
      have hlooks : s.looks config (.runSequence session steps) = true := by
        simp only [looks, hok]
        rfl
      split <;> exact .look _ hlooks
  | startSequence id accepted =>
    simp only [step, startSequence]
    split
    · rename_i hstarting
      split
      · rename_i sequence hsequence
        split
        · rename_i hsame
          have harm := arm_sequenceStep config
            { s with toMotion := s.endStart id } sequence accepted
          rcases harm with hkeep | ⟨hlooks, hexpire⟩
          · rw [hkeep]
            exact .keep _
          · rw [hexpire]
            refine .look _ ?_
            have hcurrent : s.sequence = some sequence := hsequence
            simp only [looks, hstarting, decide_true, Bool.true_and, hcurrent, Option.any_some,
              hsame]
            exact hlooks
        · exact .keep _
      · exact .keep _
    · exact .keep _
  | work id accepted =>
    simp only [step, ArmConsole.work]
    split
    · rename_i hworking
      split
      · exact .keep _
      · rename_i sequence hsequence
        split
        · exact .keep _
        · rename_i hsame
          have hlooks : s.looks config (.work id accepted) = true := by
            simp only [looks, hworking, decide_true, Bool.true_and, hsequence, Option.any_some]
            simpa using hsame
          split
          · exact .look _ hlooks
          · split
            · exact .look _ hlooks
            · rename_i waitUntil hwait
              split
              · exact .look _ hlooks
              · have harm := arm_sequenceStep config
                  (ArmConsole.expireLease { s with toMotion := s.endWorker id })
                  { sequence with index := sequence.index + 1, waitUntil := none } accepted
                rcases harm with hkeep | ⟨-, hexpire⟩
                · rw [hkeep]
                  exact .look _ hlooks
                · rw [hexpire]
                  have htwice := ArmLease.expire_expire s.arm s.now
                  change Leases config s _ ((s.arm.expire s.now).expire s.now)
                  rw [htwice]
                  exact .look _ hlooks
    · exact .keep _

end ArmConsole

end RobotDriver.OperatorWeb
