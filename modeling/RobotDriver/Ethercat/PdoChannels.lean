import Mathlib.Data.Fintype.Basic
import RobotDriver.Ethercat.KincoRun

/-!
# The channels of the cyclic-mode axis

A profile puts the four outputs and the six inputs of the axis into channels of any order. The
master passes over all channels once after the read hook and once after the start hook; whatever
their order, the axis goes through the cycle that `KincoRun` describes, and the image sent holds
its outputs.
-/

namespace RobotDriver.Ethercat

inductive OutputObject
  | controlWord
  | targetPosition
  | targetVelocity
  | modeOfOperation
  deriving DecidableEq, Repr

def kAllOutputs : List OutputObject :=
  [.controlWord, .targetPosition, .targetVelocity, .modeOfOperation]

inductive InputObject
  | statusWord
  | actualPosition
  | actualVelocity
  | modeDisplay
  | errorWord1
  | errorWord2
  deriving DecidableEq, Repr

inductive PdoChannel
  | output (object : OutputObject)
  | input (object : InputObject)
  deriving DecidableEq, Repr

/-- The channels that `validate_pdo` accepts: each object has exactly one. -/
structure KincoProfile where
  channels : List PdoChannel
  nodup : channels.Nodup
  mem : ∀ channel, channel ∈ channels

def PdoChannel.inputObject : PdoChannel → Option InputObject
  | .output _ => none
  | .input object => some object

namespace KincoProfile

variable (profile : KincoProfile)

/-- The input objects in the order of their channels. -/
def inputs : List InputObject := profile.channels.filterMap PdoChannel.inputObject

theorem mem_inputs (object : InputObject) : object ∈ profile.inputs :=
  List.mem_filterMap.2 ⟨.input object, profile.mem _, rfl⟩

theorem nodup_inputs : profile.inputs.Nodup := by
  refine profile.nodup.filterMap fun a b object ha hb => ?_
  cases a <;> cases b <;> simp_all [PdoChannel.inputObject]

end KincoProfile

/-- The inputs of the process image. -/
structure InputImage where
  statusWord : BitVec 16
  actualPosition : ℤ
  actualVelocity : ℤ
  modeDisplay : ℤ
  errorWord1 : BitVec 16
  errorWord2 : BitVec 16

def InputImage.input (image : InputImage) : InputObject → Input
  | .statusWord => .statusWord image.statusWord
  | .actualPosition => .actualPosition image.actualPosition
  | .actualVelocity => .actualVelocity image.actualVelocity
  | .modeDisplay => .modeDisplay image.modeDisplay
  | .errorWord1 => .errorWord1 image.errorWord1
  | .errorWord2 => .errorWord2 image.errorWord2

namespace KincoOutput

def put (image output : KincoOutput) : OutputObject → KincoOutput
  | .controlWord => { image with controlWord := output.controlWord }
  | .targetPosition => { image with position := output.position }
  | .targetVelocity => { image with velocity := output.velocity }
  | .modeOfOperation => { image with mode := output.mode }

/-- The image holds the object of the output. -/
def Holds (image output : KincoOutput) : OutputObject → Prop
  | .controlWord => image.controlWord = output.controlWord
  | .targetPosition => image.position = output.position
  | .targetVelocity => image.velocity = output.velocity
  | .modeOfOperation => image.mode = output.mode

theorem holds_put (image output : KincoOutput) (object : OutputObject) :
    (image.put output object).Holds output object := by
  cases object <;> rfl

theorem Holds.put {image output : KincoOutput} {object : OutputObject}
    (h : image.Holds output object) (other : OutputObject) :
    (image.put output other).Holds output object := by
  cases object <;> cases other <;> first | exact h | rfl

theorem eq_of_holds {image output : KincoOutput} (h : ∀ object, image.Holds output object) :
    image = output := by
  have hword : image.controlWord = output.controlWord := h .controlWord
  have hposition : image.position = output.position := h .targetPosition
  have hvelocity : image.velocity = output.velocity := h .targetVelocity
  have hmode : image.mode = output.mode := h .modeOfOperation
  cases image
  cases output
  simp_all

end KincoOutput

/-- The axis beside its part of the process image. -/
structure PdoSlave (K : Type*) [Field K] [LinearOrder K] where
  slave : KincoCyclicModeSlave K
  image : KincoOutput := {}
  writtenOutputs : OutputObject → Bool := fun _ => false

structure PdoCycle (K : Type*) where
  complete : Bool
  inputs : InputImage
  readAt : Option ℤ
  writes : List (CommandWrite K)
  startAt : ℤ

inductive PdoLabel (K : Type*)
  | cycle (c : PdoCycle K)
  | operational (value : Bool)

/-- The cycle as the axis goes through it. -/
def PdoCycle.toKinco {K : Type*} (profile : KincoProfile) (c : PdoCycle K) : KincoCycle K where
  complete := c.complete
  inputs := profile.inputs.map c.inputs.input
  readAt := c.readAt
  writes := c.writes
  startAt := c.startAt

namespace PdoSlave

variable {K : Type*} [Field K] [LinearOrder K]

/-- The set-up axis, with nothing written. -/
def start (config : KincoConfig K) (commands : KincoCommands K) : PdoSlave K where
  slave := .start config commands

section Channels

variable (p : PdoSlave K) (inputs : InputImage)

def processData : PdoChannel → PdoSlave K
  | .output object =>
    { p with
      image := p.image.put p.slave.output object
      writtenOutputs := Function.update p.writtenOutputs object true }
  | .input object => { p with slave := p.slave.processInput (inputs.input object) }

def processAll (channels : List PdoChannel) : PdoSlave K :=
  channels.foldl (fun p => p.processData inputs) p

theorem slave_processAll (channels : List PdoChannel) :
    (p.processAll inputs channels).slave =
      p.slave.processInputs
        ((channels.filterMap PdoChannel.inputObject).map inputs.input) := by
  induction channels generalizing p with
  | nil => rfl
  | cons channel channels ih =>
    refine (ih (p.processData inputs channel)).trans ?_
    cases channel <;> rfl

theorem output_processData (channel : PdoChannel) :
    (p.processData inputs channel).slave.output = p.slave.output := by
  cases channel with
  | output object => rfl
  | input object => exact KincoCyclicModeSlave.output_processInputs p.slave [inputs.input object]

theorem image_processAll (channels : List PdoChannel) (object : OutputObject)
    (h : .output object ∈ channels ∨
      p.image.Holds p.slave.output object ∧ p.writtenOutputs object = true) :
    (p.processAll inputs channels).image.Holds p.slave.output object ∧
      (p.processAll inputs channels).writtenOutputs object = true := by
  induction channels generalizing p with
  | nil => exact h.resolve_left (List.not_mem_nil)
  | cons channel channels ih =>
    have hnext := ih (p.processData inputs channel)
    rw [output_processData] at hnext
    refine hnext ?_
    by_cases hlater : .output object ∈ channels
    · exact .inl hlater
    right
    cases channel with
    | input other => exact h.resolve_left (by simp [hlater])
    | output other =>
      by_cases hsame : object = other
      · subst hsame
        exact ⟨KincoOutput.holds_put _ _ object, Function.update_self ..⟩
      · have hheld := h.resolve_left (by simp [hlater, hsame])
        exact ⟨hheld.1.put other, (Function.update_of_ne hsame _ _).trans hheld.2⟩

def readData (profile : KincoProfile) (c : PdoCycle K) : PdoSlave K :=
  match c.readAt with
  | some readAt =>
    { p with slave := p.slave.onPdoCycleRead c.complete readAt }.processAll c.inputs
      profile.channels
  | none => p

end Channels

section Cycle

variable [FloorRing K] (profile : KincoProfile) (p : PdoSlave K)

def onPdoCycleStart (c : PdoCycle K) : PdoSlave K :=
  { p with
    slave := (p.slave.write c.writes).onPdoCycleStart c.complete c.startAt
    writtenOutputs := fun _ => false }

/-- A cycle whose outputs were not all written is not recorded. -/
def onPdoCycleSent : PdoSlave K :=
  if ∀ object ∈ kAllOutputs, p.writtenOutputs object = true then
    { p with slave := p.slave.onPdoCycleSent }
  else p

def cycle (c : PdoCycle K) : PdoSlave K :=
  (((p.readData profile c).onPdoCycleStart c).processAll c.inputs profile.channels).onPdoCycleSent

def step : PdoLabel K → PdoSlave K
  | .cycle c => p.cycle profile c
  | .operational value => { p with slave := p.slave.setStateIsOperational value }

theorem slave_onPdoCycleStart (c : PdoCycle K) :
    ((p.readData profile c).onPdoCycleStart c).slave = p.slave.started (c.toKinco profile) := by
  have hread : (p.readData profile c).slave = p.slave.readData (c.toKinco profile) := by
    unfold readData KincoCyclicModeSlave.readData
    simp only [PdoCycle.toKinco]
    cases c.readAt with
    | none => rfl
    | some readAt => exact slave_processAll _ _ _
  simp only [onPdoCycleStart, hread]
  rfl

theorem cycle_eq (c : PdoCycle K) :
    (p.cycle profile c).slave = p.slave.cycle (c.toKinco profile) ∧
      (p.cycle profile c).image = (p.slave.started (c.toKinco profile)).output ∧
      ∀ object, (p.cycle profile c).writtenOutputs object = true := by
  have hstart := p.slave_onPdoCycleStart profile c
  have hpass := fun object => image_processAll ((p.readData profile c).onPdoCycleStart c) c.inputs
    profile.channels object (.inl (profile.mem _))
  have hslave := slave_processAll ((p.readData profile c).onPdoCycleStart c) c.inputs
    profile.channels
  rw [hstart] at hslave
  rw [cycle, onPdoCycleSent, if_pos fun object _ => (hpass object).2]
  refine ⟨?_, ?_, fun object => (hpass object).2⟩
  · simp only [hslave]
    rfl
  · rw [← hstart]
    exact KincoOutput.eq_of_holds fun object => (hpass object).1

end Cycle

end PdoSlave

end RobotDriver.Ethercat
