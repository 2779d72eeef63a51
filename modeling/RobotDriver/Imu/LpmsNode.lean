import Mathlib.Algebra.Group.Nat.Defs
import Mathlib.Data.Fin.VecNotation
import Mathlib.Data.Fintype.Basic
import Mathlib.Data.Rat.Defs
import Mathlib.Tactic.FinCases
import RobotDriver.Lib.Numerals

/-!
# The decoder of the inertial sensor

The sensor sends its values in four PDOs. The decoder overwrites the values of the kind it receives
and hands the sample out when its mask has seen every kind since the last one, in any order.
-/

namespace RobotDriver.Imu

inductive Pdo
  | pdo1
  | pdo2
  | pdo3
  | pdo4
  deriving DecidableEq, Repr

namespace Pdo

def base : Pdo → ℕ
  | pdo1 => 0x180
  | pdo2 => 0x280
  | pdo3 => 0x380
  | pdo4 => 0x480

def bit : Pdo → UInt8
  | pdo1 => 0x01
  | pdo2 => 0x02
  | pdo3 => 0x04
  | pdo4 => 0x08

end Pdo

structure CanFrame where
  id : ℕ := 0
  dlc : ℕ := 0
  data : Fin 8 → UInt8 := fun _ => 0
  isExtended : Bool := false
  isRemote : Bool := false
  isError : Bool := false

structure ImuSample where
  linearAccelerationMps2 : Fin 3 → ℚ := fun _ => 0
  angularVelocityRadps : Fin 3 → ℚ := fun _ => 0
  magneticFieldT : Fin 3 → ℚ := fun _ => 0
  orientationWxyz : Fin 4 → ℚ := fun _ => 0
  eulerRad : Fin 3 → ℚ := fun _ => 0

structure DecodeResult where
  sample : Option ImuSample := none
  heartbeatState : Option UInt8 := none
  recognized : Bool := false
  malformed : Bool := false

def kPi : ℚ := 314159265358979323846 / 100000000000000000000

def kStandardGravityMps2 : ℚ := 980665 / 100000

def kDegreesToRadians : ℚ := kPi / 180

def kMicroteslaToTesla : ℚ := 1 / 1000000

def kAllPdosReceived : UInt8 := 0x0F

def accelerationScale : ℚ := kStandardGravityMps2 / 1000

def angularVelocityScale : ℚ := kDegreesToRadians / 10

def magneticFieldScale : ℚ := kMicroteslaToTesla / 100

def eulerScale : ℚ := kDegreesToRadians / 100

def quaternionScale : ℚ := 1 / 10000

def readSignedLe16 (data : Fin 8 → UInt8) (valueIndex : Fin 4) : ℤ :=
  let raw : ℕ := (data ⟨valueIndex.val * 2, by omega⟩).toNat +
    (data ⟨valueIndex.val * 2 + 1, by omega⟩).toNat * 2 ^ 8
  if raw < 0x8000 then (raw : ℤ) else (raw : ℤ) - 0x10000

def scaledValue (data : Fin 8 → UInt8) (valueIndex : Fin 4) (scale : ℚ) : ℚ :=
  readSignedLe16 data valueIndex * scale

/-- The values of one kind are written, those of the others stay. -/
def ImuSample.write (sample : ImuSample) (data : Fin 8 → UInt8) : Pdo → ImuSample
  | .pdo1 => { sample with
      linearAccelerationMps2 := ![scaledValue data 0 accelerationScale,
        scaledValue data 1 accelerationScale, scaledValue data 2 accelerationScale]
      angularVelocityRadps := ![scaledValue data 3 angularVelocityScale,
        sample.angularVelocityRadps 1, sample.angularVelocityRadps 2] }
  | .pdo2 => { sample with
      angularVelocityRadps := ![sample.angularVelocityRadps 0,
        scaledValue data 0 angularVelocityScale, scaledValue data 1 angularVelocityScale]
      magneticFieldT := ![scaledValue data 2 magneticFieldScale,
        scaledValue data 3 magneticFieldScale, sample.magneticFieldT 2] }
  | .pdo3 => { sample with
      magneticFieldT := ![sample.magneticFieldT 0, sample.magneticFieldT 1,
        scaledValue data 0 magneticFieldScale]
      eulerRad := ![scaledValue data 1 eulerScale, scaledValue data 2 eulerScale,
        scaledValue data 3 eulerScale] }
  | .pdo4 => { sample with
      orientationWxyz := ![scaledValue data 0 quaternionScale, scaledValue data 1 quaternionScale,
        scaledValue data 2 quaternionScale, scaledValue data 3 quaternionScale] }

structure Decoder where
  nodeId : ℕ
  pendingMask : UInt8 := 0
  sample : ImuSample := {}

namespace Decoder

/-- The kind of PDO an identifier of the node stands for. -/
def pdoOf (nodeId id : ℕ) : Option Pdo :=
  if id = Pdo.pdo1.base + nodeId then some .pdo1
  else if id = Pdo.pdo2.base + nodeId then some .pdo2
  else if id = Pdo.pdo3.base + nodeId then some .pdo3
  else if id = Pdo.pdo4.base + nodeId then some .pdo4
  else none

def consumeHeartbeat (frame : CanFrame) : DecodeResult :=
  if frame.dlc < 1 ∨ 8 < frame.dlc then { recognized := true, malformed := true }
  else if ∃ index : Fin 8, 1 ≤ index.val ∧ index.val < frame.dlc ∧ frame.data index ≠ 0 then
    { recognized := true, malformed := true }
  else { recognized := true, heartbeatState := some (frame.data 0) }

def consumePdo (decoder : Decoder) (frame : CanFrame) (pdo : Pdo) : DecodeResult × Decoder :=
  let sample := decoder.sample.write frame.data pdo
  let pendingMask := decoder.pendingMask ||| pdo.bit
  if pendingMask = kAllPdosReceived then
    ({ recognized := true, sample := some sample }, { decoder with sample, pendingMask := 0 })
  else ({ recognized := true }, { decoder with sample, pendingMask })

def consume (decoder : Decoder) (frame : CanFrame) : DecodeResult × Decoder :=
  if frame.isExtended || frame.isRemote || frame.isError then ({}, decoder)
  else if frame.id = 0x700 + decoder.nodeId then (consumeHeartbeat frame, decoder)
  else
    match pdoOf decoder.nodeId frame.id with
    | none => ({}, decoder)
    | some pdo =>
      if frame.dlc ≠ 8 then ({ recognized := true, malformed := true }, decoder)
      else decoder.consumePdo frame pdo

def reset (decoder : Decoder) : Decoder := { decoder with pendingMask := 0, sample := {} }

end Decoder

def convertToRosConvention (sample : ImuSample) (convertToRos : Bool) : ImuSample :=
  if convertToRos then
    { sample with
      linearAccelerationMps2 := fun i => -sample.linearAccelerationMps2 i
      orientationWxyz := fun i =>
        if i = 0 then sample.orientationWxyz i else -sample.orientationWxyz i }
  else sample

section Values

def Pdo.scale : Pdo → Fin 4 → ℚ
  | pdo1 => ![accelerationScale, accelerationScale, accelerationScale, angularVelocityScale]
  | pdo2 => ![angularVelocityScale, angularVelocityScale, magneticFieldScale, magneticFieldScale]
  | pdo3 => ![magneticFieldScale, eulerScale, eulerScale, eulerScale]
  | pdo4 => ![quaternionScale, quaternionScale, quaternionScale, quaternionScale]

/-- The four values a kind fills. -/
def ImuSample.values (sample : ImuSample) : Pdo → Fin 4 → ℚ
  | .pdo1 => ![sample.linearAccelerationMps2 0, sample.linearAccelerationMps2 1,
      sample.linearAccelerationMps2 2, sample.angularVelocityRadps 0]
  | .pdo2 => ![sample.angularVelocityRadps 1, sample.angularVelocityRadps 2,
      sample.magneticFieldT 0, sample.magneticFieldT 1]
  | .pdo3 => ![sample.magneticFieldT 2, sample.eulerRad 0, sample.eulerRad 1, sample.eulerRad 2]
  | .pdo4 => sample.orientationWxyz

def decoded (data : Fin 8 → UInt8) (pdo : Pdo) : Fin 4 → ℚ :=
  fun index => scaledValue data index (pdo.scale index)

theorem values_write_self (sample : ImuSample) (data : Fin 8 → UInt8) (pdo : Pdo) :
    (sample.write data pdo).values pdo = decoded data pdo := by
  funext index
  cases pdo <;> fin_cases index <;> rfl

theorem values_write_of_ne (sample : ImuSample) (data : Fin 8 → UInt8) {pdo other : Pdo}
    (h : other ≠ pdo) : (sample.write data pdo).values other = sample.values other := by
  cases pdo <;> cases other <;> first | exact absurd rfl h | rfl

end Values

end RobotDriver.Imu

/-!
# The receive loop of the sensor node

Frames are assembled by the time they arrive at: a PDO that arrives later than the assembly timeout
after the first one of a partial assembly drops it and starts another.
-/

namespace RobotDriver.Imu

/-- The settings the constructor accepts. -/
structure NodeSettings where
  nodeId : ℕ
  assemblyTimeout : ℤ
  convertToRos : Bool
  nodeId_pos : 1 ≤ nodeId
  nodeId_le : nodeId ≤ 127
  assemblyTimeout_pos : 0 < assemblyTimeout

structure LpmsNode where
  decoder : Decoder
  assemblyTimeout : ℤ
  convertToRos : Bool := false
  hasPartialAssembly : Bool := false
  assemblyStartedTime : ℤ := 0
  hasSample : Bool := false
  lastSampleTime : ℤ := 0
  hasHeartbeat : Bool := false
  lastHeartbeatTime : ℤ := 0
  heartbeatState : UInt8 := 0
  recognizedFrameCount : ℕ := 0
  malformedFrameCount : ℕ := 0
  droppedAssemblyCount : ℕ := 0
  publishedSampleCount : ℕ := 0

namespace LpmsNode

variable (node : LpmsNode) (frame : CanFrame) (receiveTime : ℤ)

def isPdo : Bool := (Decoder.pdoOf node.decoder.nodeId frame.id).isSome

def stale : Bool :=
  node.isPdo frame && node.hasPartialAssembly &&
    decide (receiveTime - node.assemblyStartedTime > node.assemblyTimeout)

def dropStale : LpmsNode :=
  if node.stale frame receiveTime then
    { node with
      decoder := node.decoder.reset
      hasPartialAssembly := false
      droppedAssemblyCount := node.droppedAssemblyCount + 1 }
  else node

def beginAssembly : LpmsNode :=
  if node.isPdo frame && !node.hasPartialAssembly then
    { node with assemblyStartedTime := receiveTime, hasPartialAssembly := true }
  else node

def noteHeartbeat (state : Option UInt8) : LpmsNode :=
  match state with
  | none => node
  | some state =>
    { node with
      heartbeatState := state, lastHeartbeatTime := receiveTime, hasHeartbeat := true }

/-- The sample is published in the convention of the node. -/
def publish (sample : Option ImuSample) : Option ImuSample × LpmsNode :=
  match sample with
  | none => (none, node)
  | some sample =>
    (some (convertToRosConvention sample node.convertToRos),
      { node with
        hasPartialAssembly := false
        lastSampleTime := receiveTime
        hasSample := true
        publishedSampleCount := node.publishedSampleCount + 1 })

def assemble : Option ImuSample × LpmsNode :=
  let (result, decoder) := node.decoder.consume frame
  if result.recognized = false then (none, { node with decoder })
  else if result.malformed then
    (none, { node with
      decoder
      recognizedFrameCount := node.recognizedFrameCount + 1
      malformedFrameCount := node.malformedFrameCount + 1 })
  else
    let node := { node with decoder, recognizedFrameCount := node.recognizedFrameCount + 1 }
    ((node.beginAssembly frame receiveTime).noteHeartbeat receiveTime
      result.heartbeatState).publish receiveTime result.sample

def receive : Option ImuSample × LpmsNode :=
  (node.dropStale frame receiveTime).assemble frame receiveTime

def countMalformed : LpmsNode :=
  { node with malformedFrameCount := node.malformedFrameCount + 1 }

/-- The socket is closed, or opened again. -/
def disconnect : LpmsNode :=
  { node with
    decoder := node.decoder.reset
    hasPartialAssembly := false
    hasSample := false
    hasHeartbeat := false
    heartbeatState := 0 }

def new (settings : NodeSettings) : LpmsNode where
  decoder := { nodeId := settings.nodeId }
  assemblyTimeout := settings.assemblyTimeout
  convertToRos := settings.convertToRos

end LpmsNode

namespace Decoder

/-- The kind of a well formed PDO of the node. -/
def carries (nodeId : ℕ) (frame : CanFrame) : Option Pdo :=
  if frame.isExtended || frame.isRemote || frame.isError || frame.dlc ≠ 8 then none
  else pdoOf nodeId frame.id

theorem pdoOf_heartbeat (nodeId : ℕ) : pdoOf nodeId (0x700 + nodeId) = none := by
  have hne (pdo : Pdo) : 0x700 + nodeId ≠ pdo.base + nodeId := by
    cases pdo <;> simp only [Pdo.base] <;> omega
  rw [pdoOf, if_neg (hne _), if_neg (hne _), if_neg (hne _), if_neg (hne _)]

theorem consume_of_carries {decoder : Decoder} {frame : CanFrame} {pdo : Pdo}
    (h : carries decoder.nodeId frame = some pdo) :
    decoder.consume frame = decoder.consumePdo frame pdo := by
  unfold carries at h
  split_ifs at h with hshape
  rw [Bool.or_eq_true, not_or, decide_eq_true_eq, not_not] at hshape
  have hid : frame.id ≠ 0x700 + decoder.nodeId := by
    intro heq
    rw [heq, pdoOf_heartbeat] at h
    cases h
  rw [consume, if_neg hshape.1, if_neg hid, h]
  dsimp only
  rw [if_neg (not_not.2 hshape.2)]

theorem consume_of_not_carries {decoder : Decoder} {frame : CanFrame}
    (h : carries decoder.nodeId frame = none) :
    (decoder.consume frame).2 = decoder ∧ (decoder.consume frame).1.sample = none ∧
      (pdoOf decoder.nodeId frame.id ≠ none → (decoder.consume frame).1.recognized = false ∨
        (decoder.consume frame).1.malformed = true) := by
  rw [consume]
  by_cases hflags : (frame.isExtended || frame.isRemote || frame.isError) = true
  · rw [if_pos hflags]
    exact ⟨rfl, rfl, fun _ => .inl rfl⟩
  rw [if_neg hflags]
  by_cases hheartbeat : frame.id = 0x700 + decoder.nodeId
  · rw [if_pos hheartbeat]
    refine ⟨rfl, ?_, fun hpdo => absurd (hheartbeat ▸ pdoOf_heartbeat _) hpdo⟩
    unfold consumeHeartbeat
    split_ifs <;> rfl
  rw [if_neg hheartbeat]
  rcases hpdo : pdoOf decoder.nodeId frame.id with - | pdo
  · exact ⟨rfl, rfl, fun hne => absurd rfl hne⟩
  dsimp only
  by_cases hdlc : frame.dlc ≠ 8
  · rw [if_pos hdlc]
    exact ⟨rfl, rfl, fun _ => .inr rfl⟩
  · have hshape : ¬(frame.isExtended || frame.isRemote || frame.isError ||
        decide (frame.dlc ≠ 8)) = true := by
      rw [Bool.or_eq_true, decide_eq_true_eq]
      exact not_or.2 ⟨hflags, hdlc⟩
    rw [carries, if_neg hshape, hpdo] at h
    cases h

end Decoder

end RobotDriver.Imu
