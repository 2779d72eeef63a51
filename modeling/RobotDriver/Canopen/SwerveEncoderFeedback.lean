import RobotDriver.Lib.Double
import RobotDriver.Lib.LabelledRun
import RobotDriver.Lib.TripleBuffer

/-!
# Swerve encoder feedback

One axis of `SwerveEncoderFeedback` with its writer and its reader. `observe` loads the epoch,
stores the members of its frame one after the other and exchanges the middle word; `sample` loads
the middle word, exchanges it when it is fresh, copies the members of its frame and loads the epoch.
A report of the NMT state may fall between any two of these steps. `reports` counts the
non-operational reports, `completed` and `samples` record the publications and the samples.
-/

namespace RobotDriver.Canopen

open LabelledRun TripleBuffer

structure SwerveEncoderAxisConfig (K : Type*) where
  nodeId : ℕ
  countsPerRevolution : ℕ
  ringGearTeeth : ℕ
  pinionGearTeeth : ℕ
  direction : ℤ
  installationOffsetRad : K
  encoderRevolutions : ℕ
  node_pos : 0 < nodeId
  node_le : nodeId ≤ 127
  counts_pos : 0 < countsPerRevolution
  ring_pos : 0 < ringGearTeeth
  pinion_pos : 0 < pinionGearTeeth
  direction_unit : direction = -1 ∨ direction = 1

structure SwerveEncoderSample (K : Type*) where
  positionRad : Double K
  feedbackAgeMs : Double K
  valid : Bool
  deriving DecidableEq

structure Frame where
  rawPosition : ℕ := 0
  receivedSteadyNs : ℤ := 0
  nmtEpoch : ℕ := 0
  deriving DecidableEq, Repr

def swerveEncoderPositionIndex : ℕ := 0x6004

def swerveEncoderPositionSubindex : ℕ := 0

/-- The epoch is unsigned and has 32 bits. -/
def epochBound : ℕ := 2 ^ 32

namespace Frame

/-- The members of a frame in the order in which they are stored and copied. -/
def stores (frame : Frame) : List (Frame → Frame) :=
  [fun slot => { slot with rawPosition := frame.rawPosition },
    fun slot => { slot with receivedSteadyNs := frame.receivedSteadyNs },
    fun slot => { slot with nmtEpoch := frame.nmtEpoch }]

@[simp] theorem afterStores_all (frame slot : Frame) : afterStores frame.stores 3 slot = frame := rfl

end Frame

def invalidSample {K : Type*} : SwerveEncoderSample K := ⟨.nan, .posInf, false⟩

namespace SwerveEncoderAxisConfig

variable {K : Type*} [Field K] [LinearOrder K] [FloorRing K] (config : SwerveEncoderAxisConfig K)

def twoPi : K := 6.28318530717958647692

def radiansPerCount : K :=
  twoPi * config.pinionGearTeeth / (config.countsPerRevolution * config.ringGearTeeth)

def range : ℕ := config.countsPerRevolution * config.encoderRevolutions

def position (rawPosition : ℕ) : K :=
  config.direction * rawPosition * config.radiansPerCount - config.installationOffsetRad

/-- What `sample_axis` makes of a copied frame and the epoch loaded after it. Values are exact here,
so its last check, that position and age are finite, always passes. -/
def sampleFrame (frame : Frame) (nmtEpoch : ℕ) (nowSteadyNs : ℤ) : SwerveEncoderSample K :=
  if frame.receivedSteadyNs ≤ 0 ∨ frame.nmtEpoch ≠ nmtEpoch then invalidSample
  else
    if 0 < config.encoderRevolutions ∧ config.range ≤ frame.rawPosition then invalidSample
    else
      let now := max nowSteadyNs frame.receivedSteadyNs
      let position := config.position frame.rawPosition
      { positionRad := .finite
          (if 0 < config.encoderRevolutions then
            Double.remainder position (config.range * config.radiansPerCount)
          else position)
        feedbackAgeMs := .finite (((now - frame.receivedSteadyNs : ℤ) : K) / 1000000)
        valid := true }

end SwerveEncoderAxisConfig

structure Slot where
  frames : ℕ → Frame := fun _ => {}
  middle : ℕ := 1
  back : ℕ := 0
  front : ℕ := 2
  hasFrame : Bool := false
  nmtEpoch : ℕ := 0

namespace Slot

variable (slot : Slot)

def middleIndex : ℕ := slot.middle &&& indexMask

def isFresh : Bool := slot.middle &&& freshBit ≠ 0

def store (frame : Frame) (count : ℕ) : Slot :=
  { slot with
    frames := Function.update slot.frames slot.back
      ((frame.stores[count]?.getD id) (slot.frames slot.back)) }

def exchangeBack : Slot :=
  { slot with back := slot.middleIndex, middle := slot.back ||| freshBit }

def exchangeFront : Slot :=
  { slot with front := slot.middleIndex, middle := slot.front, hasFrame := true }

end Slot

/-- A frame with the number of non-operational reports before it was received. -/
structure Publication where
  frame : Frame
  reports : ℕ
  deriving DecidableEq, Repr

/-- A sample with the publication that was the newest when it chose its slot and the number of
non-operational reports at its end. -/
structure Sampled (K : Type*) where
  newest : Option Publication
  reports : ℕ
  nowSteadyNs : ℤ
  result : SwerveEncoderSample K
  deriving DecidableEq

inductive ObservePc
  | idle
  | storing (publication : Publication) (count : ℕ)

inductive SamplePc
  | idle
  | exchange (nowSteadyNs : ℤ)
  | copying (nowSteadyNs : ℤ) (newest : Option Publication) (frame : Frame) (count : ℕ)

structure AxisRun (K : Type*) where
  slot : Slot := {}
  observe : ObservePc := .idle
  sample : SamplePc := .idle
  reports : ℕ := 0
  completed : List Publication := []
  samples : List (Sampled K) := []

/-- A label carries the arguments that a call starting there receives. -/
inductive AxisLabel
  | observe (nodeId index subindex rawPosition : ℕ) (receivedSteadyNs : ℤ)
  | observeNmt (nodeId : ℕ) (operational : Bool)
  | sample (nowSteadyNs : ℤ)

namespace AxisRun

variable {K : Type*} (config : SwerveEncoderAxisConfig K) (s : AxisRun K)

/-- A frame is received at the load of the epoch, the first atomic operation of `observe`. -/
def stepObserve (nodeId index subindex rawPosition : ℕ) (receivedSteadyNs : ℤ) : AxisRun K :=
  match s.observe with
  | .idle =>
    if index ≠ swerveEncoderPositionIndex ∨ subindex ≠ swerveEncoderPositionSubindex ∨
        receivedSteadyNs ≤ 0 ∨ nodeId ≠ config.nodeId then s
    else
      { s with
        observe := .storing ⟨⟨rawPosition, receivedSteadyNs, s.slot.nmtEpoch⟩, s.reports⟩ 0 }
  | .storing publication count =>
    if count < 3 then
      { s with
        slot := s.slot.store publication.frame count
        observe := .storing publication (count + 1) }
    else
      { s with
        slot := s.slot.exchangeBack
        observe := .idle
        completed := s.completed ++ [publication] }

def stepNmt (nodeId : ℕ) (operational : Bool) : AxisRun K :=
  if nodeId ≠ config.nodeId ∨ operational then s
  else
    { s with
      slot := { s.slot with nmtEpoch := (s.slot.nmtEpoch + 1) % epochBound }
      reports := s.reports + 1 }

def finish (newest : Option Publication) (nowSteadyNs : ℤ) (result : SwerveEncoderSample K) :
    AxisRun K :=
  { s with
    sample := .idle
    samples := s.samples ++ [⟨newest, s.reports, nowSteadyNs, result⟩] }

variable [Field K] [LinearOrder K] [FloorRing K]

def stepSample (nowSteadyNs : ℤ) : AxisRun K :=
  match s.sample with
  | .idle =>
    if s.slot.isFresh then { s with sample := .exchange nowSteadyNs }
    else if s.slot.hasFrame then
      { s with sample := .copying nowSteadyNs s.completed.getLast? {} 0 }
    else s.finish s.completed.getLast? nowSteadyNs invalidSample
  | .exchange nowSteadyNs =>
    { s with
      slot := s.slot.exchangeFront
      sample := .copying nowSteadyNs s.completed.getLast? {} 0 }
  | .copying nowSteadyNs newest frame count =>
    if count < 3 then
      { s with
        sample := .copying nowSteadyNs newest
          (((s.slot.frames s.slot.front).stores[count]?.getD id) frame) (count + 1) }
    else s.finish newest nowSteadyNs (config.sampleFrame frame s.slot.nmtEpoch nowSteadyNs)

def step (s : AxisRun K) : AxisLabel → AxisRun K
  | .observe nodeId index subindex rawPosition receivedSteadyNs =>
    s.stepObserve config nodeId index subindex rawPosition receivedSteadyNs
  | .observeNmt nodeId operational => s.stepNmt config nodeId operational
  | .sample nowSteadyNs => s.stepSample config nowSteadyNs

end AxisRun

end RobotDriver.Canopen
