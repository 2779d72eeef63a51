import RobotDriver.Lib.Double
import RobotDriver.Lib.LabelledRun
import RobotDriver.OperatorWeb.Leases

/-!
# The arm console

`ArmConsole` with the threads that call it. Every block under the lock and every `Driver.send` is
one step, and a step reads the clock once. Executions and sequences are compared by identity, which
`id` stands for. `sends`, `starts` and `workers` hold the threads between two blocks, `handed`,
`sentSteps` and `arrivals` record a run. What `plan_move` makes of a start, a goal and a gear enters
only through its duration.
-/

namespace RobotDriver.OperatorWeb

inductive ErrorCode
  | leaseRequired
  | busy
  | notReady
  | badGear
  | badTarget
  | targetOutOfRange
  | modelUnavailable
  | feedbackStale
  | feedbackIncomplete
  | noMotion
  | badPose
  | badSequence
  | badDwell
  deriving DecidableEq, Repr

inductive NotReady
  | noCapability
  | notEnabled
  | controllerInactive
  | enableBusy
  deriving DecidableEq, Repr

structure ConsoleConfig (n : ℕ) (G K : Type*) where
  gears : List G
  limitMargin : K
  maxFeedbackAge : K
  planDuration : (Fin n → K) → (Fin n → K) → G → K

structure Robot (n : ℕ) (K : Type*) where
  positions : Fin n → Option K := fun _ => none
  feedbackAt : Option K := none
  enableState : String := "DISCONNECTED"
  enableAt : Option K := none
  controllerActive : Bool := false
  controllerAt : Option K := none
  capability : Bool := false

/-- Enabled and at rest, as of time 0. -/
def Robot.ready : Robot 1 ℚ where
  positions _ := some 0
  feedbackAt := some 0
  enableState := "ENABLED"
  enableAt := some 0
  controllerActive := true
  controllerAt := some 0
  capability := true

inductive ExecutionKind
  | move
  | stop
  deriving DecidableEq, Repr

/-- `origin` is the sequence and the step a move was started for. -/
structure Execution where
  id : ℕ
  kind : ExecutionKind
  origin : Option (ℕ × ℕ)
  deriving DecidableEq, Repr

structure SequenceStep (P G K : Type*) where
  name : P
  gear : G
  dwellS : K

structure Sequence (C P G K : Type*) where
  id : ℕ
  session : C
  steps : List (SequenceStep P G K)
  index : ℕ
  dwellS : K
  waitUntil : Option K

/-- A requested target: the wrong joints, or a value for each joint that need not be a number. -/
inductive Target (n : ℕ) (K : Type*)
  | wrongJoints
  | values (value : Fin n → Option (Double K))

/-- An execution given to `Driver.send` and the execution that was current at that moment. -/
structure HandOver where
  execution : Execution
  current : Option Execution
  deriving DecidableEq, Repr

/-- A step reported successful or already reached. -/
structure Arrival (K : Type*) where
  step : ℕ × ℕ
  time : K

/-- What the console remembers of its motion, with the threads between two blocks. -/
structure Motion (C P G K : Type*) where
  execution : Option Execution := none
  sequence : Option (Sequence C P G K) := none
  sends : List Execution := []
  starts : List ℕ := []
  workers : List ℕ := []
  nextExecution : ℕ := 0
  nextSequence : ℕ := 0
  handed : List HandOver := []
  sentSteps : List (ℕ × ℕ) := []
  arrivals : List (Arrival K) := []

structure ArmConsole (n : ℕ) (C P G K : Type*) extends Motion C P G K where
  model : Option (Fin n → K × K) := none
  poses : P → Option (Fin n → K) := fun _ => none
  robot : Robot n K := {}
  arm : ArmLease C K := {}
  enableBusy : Bool := false
  now : K

inductive ConsoleEvent (n : ℕ) (C P G K : Type*)
  | advance (now : K)
  | setModel (bounds : Fin n → K × K)
  | setPose (name : P) (pose : Option (Fin n → K))
  | update (robot : Robot n K)
  | touch (session : C)
  | acquire (session : C)
  | release (session : C)
  | readLease
  | beginEnable (session : C)
  | endEnable
  | execute (session : C) (target : Target n K) (gear : G)
  | send (execution : Execution)
  | done (execution : Execution) (success : Bool)
  | stop
  | runSequence (session : C) (steps : List (P × G × Double K))
  | startSequence (id : ℕ) (accepted : Bool)
  | work (id : ℕ) (accepted : Bool)

def stateStaleS {K : Type*} [Field K] : K := 5 / 2

def maxSequence : ℕ := 50

namespace Motion

variable {C P G K : Type*} (m : Motion C P G K)

/-- The new execution becomes the current one. -/
def record (kind : ExecutionKind) (origin : Option (ℕ × ℕ)) : Motion C P G K :=
  { m with
    execution := some ⟨m.nextExecution, kind, origin⟩
    nextExecution := m.nextExecution + 1 }

/-- `Driver.send` is called outside the lock later. -/
def sendLater : Motion C P G K := { m with sends := m.execution.toList ++ m.sends }

def handOver (execution : Execution) : Motion C P G K :=
  { m with handed := m.handed ++ [⟨execution, m.execution⟩] }

def send (execution : Execution) : Motion C P G K :=
  { m with sends := m.sends.erase execution }.handOver execution

def abort : Motion C P G K := { m with sequence := none }

def sequenceArrived [Add K] (now : K) (sequence : Sequence C P G K) (step : Option (ℕ × ℕ)) :
    Motion C P G K :=
  { m with
    sequence := some { sequence with waitUntil := some (now + sequence.dwellS) }
    workers := sequence.id :: m.workers
    arrivals := m.arrivals ++ (step.map fun step => ⟨step, now⟩).toList }

/-- The completion callback; a superseded execution is ignored. -/
def done [Add K] (now : K) (execution : Execution) (success : Bool) : Motion C P G K :=
  if m.execution ≠ some execution then m
  else
    match execution.kind, m.sequence, success with
    | .move, some sequence, true =>
      { m with execution := none }.sequenceArrived now sequence execution.origin
    | .move, some _, false => { m with execution := none, sequence := none }
    | _, _, _ => { m with execution := none }

def stop : Motion C P G K :=
  match m.execution with
  | none => m.abort
  | some execution =>
    if execution.kind = .stop then m.abort else (m.abort.record .stop none).sendLater

def submitted (sequence : Sequence C P G K) : Execution :=
  ⟨m.nextExecution, .move, some (sequence.id, sequence.index)⟩

/-- The recorded step is handed over under the lock; a driver that raises ends the sequence. -/
def submit (sequence : Sequence C P G K) (accepted : Bool) : Motion C P G K :=
  let moving := m.record .move (some (sequence.id, sequence.index))
  let sent :=
    { moving with sentSteps := m.sentSteps ++ [(sequence.id, sequence.index)] }.handOver
      (m.submitted sequence)
  if accepted then sent else { sent with execution := none, sequence := none }

def begin (session : C) (steps : List (SequenceStep P G K)) [Zero K] : Motion C P G K :=
  { m with
    sequence := some ⟨m.nextSequence, session, steps, 0, (steps.map (·.dwellS)).headD 0, none⟩
    starts := m.nextSequence :: m.starts
    nextSequence := m.nextSequence + 1 }

def endStart (id : ℕ) : Motion C P G K := { m with starts := m.starts.erase id }

def endWorker (id : ℕ) : Motion C P G K := { m with workers := m.workers.erase id }

end Motion

namespace ArmConsole

variable {n : ℕ} {C P G K : Type*} [DecidableEq C] [DecidableEq P] [DecidableEq G] [Field K]
  [LinearOrder K] (config : ConsoleConfig n G K) (s : ArmConsole n C P G K)

def fresh (now : K) (stamp : Option K) (limit : K) : Bool :=
  stamp.any fun stamp => now - stamp ≤ limit

def expireLease : ArmConsole n C P G K := { s with arm := s.arm.expire s.now }

def holdsLease (session : C) : Bool := (s.arm.expire s.now).lease = some session

def feedbackFresh : Bool := fresh s.now s.robot.feedbackAt config.maxFeedbackAge

def measured : Except ErrorCode (Fin n → K) :=
  if s.model.isNone then .error .modelUnavailable
  else if !s.feedbackFresh config then .error .feedbackStale
  else if h : ∀ joint, (s.robot.positions joint).isSome = true then
    .ok fun joint => (s.robot.positions joint).get (h joint)
  else .error .feedbackIncomplete

def armEnabled : Bool :=
  fresh s.now s.robot.enableAt stateStaleS && s.robot.enableState = "ENABLED"

def motionReady : Option NotReady :=
  if !s.robot.capability then some .noCapability
  else if !s.armEnabled then some .notEnabled
  else if !fresh s.now s.robot.controllerAt stateStaleS || !s.robot.controllerActive then
    some .controllerInactive
  else if s.enableBusy then some .enableBusy
  else none

def checkJoint (bounds : K × K) : Option (Double K) → Except ErrorCode K
  | none => .error .badTarget
  | some (.finite value) =>
    if bounds.1 + config.limitMargin ≤ value ∧ value ≤ bounds.2 - config.limitMargin then .ok value
    else .error .targetOutOfRange
  | some _ => .error .targetOutOfRange

/-- The joints are checked in order; the first error counts. -/
def checkTarget : Target n K → Except ErrorCode (List K)
  | .wrongJoints => if s.model.isNone then .error .modelUnavailable else .error .badTarget
  | .values value =>
    match s.model with
    | none => .error .modelUnavailable
    | some bounds =>
      (List.finRange n).mapM fun joint => checkJoint config (bounds joint) (value joint)

def poseTarget (pose : Fin n → K) : Target n K := .values fun joint => some (.finite (pose joint))

/-- The checks of `execute` under the lock; `sequence` is the sequence it is called for. -/
def admitMove (session : C) (sequence : Option ℕ) (target : Target n K) (gear : G) :
    Except ErrorCode Unit :=
  if !s.holdsLease session then .error .leaseRequired
  else if s.execution.isSome || s.sequence.map (·.id) ≠ sequence then .error .busy
  else if s.motionReady.isSome then .error .notReady
  else if gear ∉ config.gears then .error .badGear
  else
    match s.checkTarget config target, s.measured config with
    | .error code, _ => .error code
    | .ok _, .error code => .error code
    | .ok goal, .ok start =>
      if config.planDuration start (fun joint => goal.getD joint 0) gear ≤ 0 then .error .noMotion
      else .ok ()

def execute (session : C) (target : Target n K) (gear : G) : ArmConsole n C P G K :=
  match s.admitMove config session none target gear with
  | .error _ => s.expireLease
  | .ok _ => { s.expireLease with toMotion := (s.record .move none).sendLater }

def stepError (sequence : Sequence C P G K) (step : SequenceStep P G K) : Except ErrorCode Unit :=
  if s.model.isNone then .error .modelUnavailable
  else
    match s.poses step.name with
    | none => .error .badPose
    | some pose =>
      s.admitMove config sequence.session (some sequence.id) (poseTarget pose) step.gear

/-- `_sequence_step` for the current sequence. -/
def sequenceStep (sequence : Sequence C P G K) (accepted : Bool) : ArmConsole n C P G K :=
  match sequence.steps[sequence.index]? with
  | none => { s with toMotion := s.abort }
  | some step =>
    let stepping := { sequence with dwellS := step.dwellS }
    let s := { s with sequence := some stepping }
    match s.stepError config stepping step with
    | .ok _ => { s.expireLease with toMotion := s.submit stepping accepted }
    | .error .noMotion =>
      { s.expireLease with
        toMotion := s.sequenceArrived s.now stepping (some (stepping.id, stepping.index)) }
    | .error .badPose | .error .modelUnavailable => { s with toMotion := s.abort }
    | .error _ => { s.expireLease with toMotion := s.abort }

def normalize (steps : List (P × G × Double K)) :
    Except ErrorCode (List (SequenceStep P G K)) :=
  if steps = [] ∨ maxSequence < steps.length then .error .badSequence
  else
    steps.mapM fun (name, gear, dwell) =>
      match dwell with
      | .finite dwellS =>
        if dwellS < 0 then .error .badDwell
        else if gear ∉ config.gears then .error .badGear
        else .ok ⟨name, gear, dwellS⟩
      | _ => .error .badDwell

def posesChecked (steps : List (SequenceStep P G K)) : Bool :=
  steps.all fun step =>
    match s.poses step.name with
    | none => false
    | some pose => (s.checkTarget config (poseTarget pose)).toBool

/-- The block of `run_sequence` before its first step. -/
def runSequence (session : C) (steps : List (P × G × Double K)) : ArmConsole n C P G K :=
  match normalize config steps with
  | .error _ => s
  | .ok steps =>
    if s.holdsLease session && s.execution.isNone && s.sequence.isNone && s.motionReady.isNone &&
        s.model.isSome && s.posesChecked config steps then
      { s.expireLease with toMotion := s.begin session steps }
    else s.expireLease

def startSequence (id : ℕ) (accepted : Bool) : ArmConsole n C P G K :=
  if id ∈ s.starts then
    let s := { s with toMotion := s.endStart id }
    match s.sequence with
    | some sequence => if sequence.id = id then s.sequenceStep config sequence accepted else s
    | none => s
  else s

/-- One turn of the loop of `_sequence_continue`. -/
def work (id : ℕ) (accepted : Bool) : ArmConsole n C P G K :=
  if id ∈ s.workers then
    let ended := { s with toMotion := s.endWorker id }
    match s.sequence with
    | none => ended
    | some sequence =>
      if sequence.id ≠ id then ended
      else if !s.holdsLease sequence.session || s.motionReady.isSome ||
          !(s.measured config).toBool then
        { ended.expireLease with sequence := none }
      else
        match sequence.waitUntil with
        | none => ended.expireLease
        | some waitUntil =>
          if 0 < waitUntil - s.now then s.expireLease
          else
            ended.expireLease.sequenceStep config
              { sequence with index := sequence.index + 1, waitUntil := none } accepted
  else s

def beginEnable (session : C) : ArmConsole n C P G K :=
  if s.holdsLease session && s.execution.isNone && s.sequence.isNone && !s.enableBusy then
    { s.expireLease with enableBusy := true }
  else s.expireLease

def step : ConsoleEvent n C P G K → ArmConsole n C P G K
  | .advance now => if s.now ≤ now then { s with now := now } else s
  | .setModel bounds => { s with model := some bounds }
  | .setPose name pose => { s with poses := Function.update s.poses name pose }
  | .update robot => { s with robot := robot }
  | .touch session => { s with arm := s.arm.touch session s.now }
  | .acquire session => { s with arm := s.arm.acquire session s.now }
  | .release session => { s with arm := s.arm.release session }
  | .readLease => s.expireLease
  | .beginEnable session => s.beginEnable session
  | .endEnable => { s with enableBusy := false }
  | .execute session target gear => s.execute config session target gear
  | .send execution =>
    if execution ∈ s.sends then { s with toMotion := s.toMotion.send execution } else s
  | .done execution success =>
    if execution ∈ s.handed.map (·.execution) then
      { s with toMotion := s.toMotion.done s.now execution success }
    else s
  | .stop => { s with toMotion := s.toMotion.stop }
  | .runSequence session steps => s.runSequence config session steps
  | .startSequence id accepted => s.startSequence config id accepted
  | .work id accepted => s.work config id accepted

end ArmConsole

end RobotDriver.OperatorWeb
