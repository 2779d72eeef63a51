import Mathlib.Data.Rat.Floor
import RobotDriver.Ethercat.KincoCyclicModeSlave
import RobotDriver.Lib.LabelledRun

/-!
# Runs of the cyclic-mode axis

A cycle reads the process image, lets the controllers write their commands, and sends the outputs
of the start hook. Before the first read the master sends cycles that only start.
-/

namespace RobotDriver.Ethercat

inductive CommandWrite (K : Type*)
  | position (value : Double K)
  | velocity (value : Double K)
  | mode (value : Double K)
  | controlWord (value : Double K)
  | writeSequence (value : Double K)
  | writeMask (value : Double K)

def KincoCommands.write {K : Type*} (c : KincoCommands K) : CommandWrite K → KincoCommands K
  | .position value => { c with position := value }
  | .velocity value => { c with velocity := value }
  | .mode value => { c with mode := value }
  | .controlWord value => { c with controlWord := value }
  | .writeSequence value => { c with writeSequence := value }
  | .writeMask value => { c with writeMask := value }

structure KincoCycle (K : Type*) where
  complete : Bool
  inputs : List Input
  readAt : Option ℤ
  writes : List (CommandWrite K)
  startAt : ℤ

inductive KincoLabel (K : Type*)
  | cycle (c : KincoCycle K)
  | operational (value : Bool)

namespace KincoCyclicModeSlave

variable {K : Type*} [Field K] [LinearOrder K]

/-- The axis as it is set up, with no velocity command. -/
def start (config : KincoConfig K) (commands : KincoCommands K) : KincoCyclicModeSlave K where
  config := config
  commands := { commands with velocity := .nan }

section Commands

variable (s : KincoCyclicModeSlave K)

def write (writes : List (CommandWrite K)) : KincoCyclicModeSlave K :=
  { s with commands := writes.foldl KincoCommands.write s.commands }

def readData (c : KincoCycle K) : KincoCyclicModeSlave K :=
  match c.readAt with
  | some readAt => (s.onPdoCycleRead c.complete readAt).processInputs c.inputs
  | none => s

/-- The axis as the start hook finds it. -/
def atStart (c : KincoCycle K) : KincoCyclicModeSlave K := (s.readData c).write c.writes

end Commands

variable [FloorRing K] (s : KincoCyclicModeSlave K)

def started (c : KincoCycle K) : KincoCyclicModeSlave K :=
  (s.atStart c).onPdoCycleStart c.complete c.startAt

def cycle (c : KincoCycle K) : KincoCyclicModeSlave K :=
  ((s.started c).processInputs c.inputs).onPdoCycleSent

def step : KincoLabel K → KincoCyclicModeSlave K
  | .cycle c => s.cycle c
  | .operational value => s.setStateIsOperational value

end KincoCyclicModeSlave

/-! ### What the hooks leave alone -/

/-- The part of the axis that only the read hook, the send hook and the bus state change. -/
structure Bookkeeping (K : Type*) [Field K] [LinearOrder K] where
  config : KincoConfig K
  isOperational : Bool
  cycleComplete : Bool
  startupSeedSent : Bool
  startupSeedPending : Bool
  lastSentVelocityRaw : ℤ
  lastSentMode : ℤ

namespace KincoCyclicModeSlave

variable {K : Type*} [Field K] [LinearOrder K]

section Inputs

variable (s : KincoCyclicModeSlave K)

def bookkeeping : Bookkeeping K where
  config := s.config
  isOperational := s.isOperational
  cycleComplete := s.cycleComplete
  startupSeedSent := s.startupSeedSent
  startupSeedPending := s.startupSeedPending
  lastSentVelocityRaw := s.lastSentVelocityRaw
  lastSentMode := s.lastSentMode

@[simp] theorem bookkeeping_processInput (input : Input) :
    (s.processInput input).bookkeeping = s.bookkeeping := by
  unfold processInput countFeedback
  split_ifs <;> cases input <;> rfl

@[simp] theorem bookkeeping_processInputs (inputs : List Input) :
    (s.processInputs inputs).bookkeeping = s.bookkeeping := by
  induction inputs generalizing s with
  | nil => rfl
  | cons input inputs ih => exact (ih _).trans (s.bookkeeping_processInput input)

@[simp] theorem output_processInputs (inputs : List Input) :
    (s.processInputs inputs).output = s.output := by
  induction inputs generalizing s with
  | nil => rfl
  | cons input inputs ih =>
    refine (ih _).trans ?_
    unfold processInput countFeedback
    split_ifs <;> cases input <;> rfl

@[simp] theorem hold_processInputs (inputs : List Input) :
    (s.processInputs inputs).holdPositionRaw = s.holdPositionRaw ∧
      (s.processInputs inputs).holdKnown = s.holdKnown := by
  induction inputs generalizing s with
  | nil => exact ⟨rfl, rfl⟩
  | cons input inputs ih =>
    obtain ⟨hhold, hknown⟩ := ih (s.processInput input)
    refine ⟨hhold.trans ?_, hknown.trans ?_⟩ <;> unfold processInput countFeedback <;>
      split_ifs <;> cases input <;> rfl

end Inputs

variable [FloorRing K] (s : KincoCyclicModeSlave K)

theorem bookkeeping_confirmStartupMode (now : ℤ) :
    (s.confirmStartupMode now).bookkeeping = s.bookkeeping := by
  have hwait : (s.waitForStartupMode now).bookkeeping = s.bookkeeping := by
    unfold waitForStartupMode
    split_ifs <;> rfl
  unfold confirmStartupMode
  dsimp only
  split_ifs <;> exact hwait

theorem bookkeeping_awaitMode (now : ℤ) : (s.awaitMode now).bookkeeping = s.bookkeeping := by
  unfold awaitMode awaitCsp
  dsimp only
  split_ifs <;> rfl

theorem bookkeeping_requestMode (now : ℤ) : (s.requestMode now).bookkeeping = s.bookkeeping := by
  unfold requestMode requestCsp requestCsv
  split_ifs
  · rfl
  · rfl
  · rfl
  · split <;> rfl
  · rfl

theorem bookkeeping_takePosition : s.takePosition.bookkeeping = s.bookkeeping := by
  unfold takePosition
  split_ifs
  · rfl
  · rfl
  · split
    · rfl
    · split_ifs <;> rfl

theorem bookkeeping_followVelocity : s.followVelocity.bookkeeping = s.bookkeeping := by
  have htake : ∀ s : KincoCyclicModeSlave K, s.takeVelocity.bookkeeping = s.bookkeeping := by
    intro s
    unfold takeVelocity
    split_ifs
    · rfl
    · split <;> rfl
  rw [followVelocity, htake, coordinated]
  split_ifs <;> rfl

theorem bookkeeping_operate (now : ℤ) : (s.operate now).bookkeeping = s.bookkeeping := by
  unfold operate
  split_ifs
  · exact s.bookkeeping_awaitMode now
  · exact s.bookkeeping_requestMode now
  · exact bookkeeping_takePosition _
  · exact bookkeeping_followVelocity _

theorem bookkeeping_seededCycle (now : ℤ) :
    (s.seededCycle now).bookkeeping = s.bookkeeping := by
  have htracked : s.tracked.bookkeeping = s.bookkeeping := by
    unfold tracked
    split_ifs <;> rfl
  rw [seededCycle, ← htracked, unlatchedCycle]
  split_ifs
  · rfl
  · rfl
  · rfl
  · exact bookkeeping_confirmStartupMode _ now
  · exact bookkeeping_operate _ now

end KincoCyclicModeSlave

namespace Kinco

def configuration (startupMode : ℤ) (hmode : startupMode = kCsp ∨ startupMode = kCsv) :
    KincoConfig ℚ where
  positionCountsPerUnit := 1000
  velocityCountsPerUnit := 1000
  positionOffsetCounts := 0
  minPosition := -3
  maxPosition := 3
  maxAbsVelocity := 2
  stationaryVelocity := 1 / 100
  feedbackTimeout := 1 / 10
  modeAckTimeout := 1
  takeoverTolerance := 1 / 50
  startupMode := startupMode
  modeSwitching := true
  positionCountsPerUnit_ne := by decide
  velocityCountsPerUnit_ne := by decide
  minPosition_lt := by decide
  maxAbsVelocity_pos := by decide
  stationaryVelocity_pos := by norm_num
  stationaryVelocity_le := by norm_num
  feedbackTimeout_pos := tenthSecond_pos
  modeAckTimeout_pos := by norm_num
  takeoverTolerance_pos := by norm_num
  startupMode_cyclic := hmode
  low_valid := by norm_num [rawPositionValid]
  high_valid := by norm_num [rawPositionValid]
  velocity_valid := by norm_num [rawPositionValid]

def commands : KincoCommands ℚ where
  position := .nan
  velocity := .nan
  mode := .nan
  controlWord := .finite 0
  writeSequence := .finite 0
  writeMask := .finite 0

/-- A complete cycle of four milliseconds at standstill. -/
def observing (statusWord : BitVec 16) (position display count : ℤ)
    (writes : List (CommandWrite ℚ)) : KincoLabel ℚ :=
  .cycle {
    complete := true
    inputs := [.statusWord statusWord, .actualPosition position, .actualVelocity 0,
      .modeDisplay display]
    readAt := some (4000000 * count)
    writes := writes
    startAt := 4000000 * count + 1000000 }

def losing (count : ℤ) : KincoLabel ℚ :=
  .cycle {
    complete := false
    inputs := []
    readAt := some (4000000 * count)
    writes := []
    startAt := 4000000 * count + 1000000 }

end Kinco

end RobotDriver.Ethercat
