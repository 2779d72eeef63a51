import Mathlib.Data.Nat.Bitwise
import RobotDriver.Lib.Double
import RobotDriver.Lib.Fallible

/-!
# The frames of a head motor

A motor answers register requests and sends feedback under one identifier, its master id. The
driver takes a frame for a register reply by its first three bytes, which a feedback frame of
status 0 has too when its raw position is one of three values.
-/

namespace RobotDriver.Head.Protocol

variable {K : Type}

def kStandardCanIdMaximum : ℕ := 0x7FF

def kPayloadSize : ℕ := 8

structure CanFrame where
  id : ℕ
  length : ℕ := kPayloadSize
  data : Fin 8 → Fin 256

def CanFrame.byte (frame : CanFrame) (i : Fin 8) : ℕ := frame.data i

structure MotorLimits (K : Type) where
  positionMax : Double K
  velocityMax : Double K
  torqueMax : Double K

structure MotorFeedback (K : Type) where
  motorId : ℕ
  status : ℕ
  position : K
  velocity : K
  effort : K
  mosTemperatureC : K
  motorTemperatureC : K

structure RegisterReply where
  motorId : ℕ
  operation : ℕ
  registerId : ℕ
  rawValue : ℕ
  deriving DecidableEq, Repr

def CanFrame.validate (frame : CanFrame) : Except String Unit :=
  require (frame.id ≤ kStandardCanIdMaximum ∧ frame.length = kPayloadSize)
    "DaMiao response must be an eight-byte standard CAN frame"

def CanFrame.readU32Le (frame : CanFrame) : ℕ :=
  frame.byte 4 + frame.byte 5 * 2 ^ 8 + frame.byte 6 * 2 ^ 16 + frame.byte 7 * 2 ^ 24

def decodeRegisterReply (frame : CanFrame) : Except String RegisterReply := do
  frame.validate
  require (frame.byte 2 = 0x33 ∨ frame.byte 2 = 0x55)
    "DaMiao register response has an unknown operation"
  let motorId := frame.byte 0 + frame.byte 1 * 2 ^ 8
  require (motorId ≤ kStandardCanIdMaximum)
    "DaMiao register response contains an invalid motor ID"
  return { motorId, operation := frame.byte 2, registerId := frame.byte 3,
           rawValue := frame.readU32Le }

section Feedback

variable [Field K] [LinearOrder K]

def positive : Double K → Option K
  | .finite x => if 0 < x then some x else none
  | _ => none

def MotorLimits.valid (limits : MotorLimits K) : Bool :=
  (positive limits.positionMax).isSome && (positive limits.velocityMax).isSome &&
    (positive limits.torqueMax).isSome

def mapUnsigned (raw : ℕ) (maximum : K) (encodedMaximum : ℕ) : K :=
  raw * (2 * maximum) / encodedMaximum - maximum

def decodeFeedback (frame : CanFrame) (limits : MotorLimits K) :
    Except String (MotorFeedback K) := do
  frame.validate
  match positive limits.positionMax, positive limits.velocityMax, positive limits.torqueMax with
  | some positionMax, some velocityMax, some torqueMax =>
    let position := frame.byte 1 * 2 ^ 8 + frame.byte 2
    let velocity := frame.byte 3 * 2 ^ 4 + frame.byte 4 / 2 ^ 4
    let effort := frame.byte 4 % 2 ^ 4 * 2 ^ 8 + frame.byte 5
    return {
      motorId := frame.byte 0 % 2 ^ 4
      status := frame.byte 0 / 2 ^ 4
      position := mapUnsigned position positionMax 0xFFFF
      velocity := mapUnsigned velocity velocityMax 0x0FFF
      effort := mapUnsigned effort torqueMax 0x0FFF
      mosTemperatureC := frame.byte 6
      motorTemperatureC := frame.byte 7 }
  | _, _, _ => .error "DaMiao feedback mapping limits must be finite and positive"

end Feedback

/-- The identifiers `on_init` accepts. -/
structure MotorIds where
  canId : ℕ
  masterId : ℕ
  canId_pos : 0 < canId
  canId_le : canId ≤ 0x0F
  masterId_le : masterId ≤ kStandardCanIdMaximum
  deriving DecidableEq

structure Motor (K : Type) where
  ids : MotorIds
  limits : MotorLimits K
  position : Double K := .nan
  velocity : Double K := .nan
  effort : Double K := .nan
  faultCode : ℕ := 0
  enabled : Bool := false
  status : ℕ := 0
  mosTemperature : K
  motorTemperature : K
  receivedAt : ℤ := 0

namespace Motor

variable (motor : Motor K)

def store (feedback : MotorFeedback K) (receivedAt : ℤ) : Motor K :=
  { motor with
    position := .finite feedback.position
    velocity := .finite feedback.velocity
    effort := .finite feedback.effort
    faultCode := if feedback.status ≤ 1 then 0 else feedback.status
    enabled := feedback.status = 1
    status := feedback.status
    mosTemperature := feedback.mosTemperatureC
    motorTemperature := feedback.motorTemperatureC
    receivedAt }

/-- The first three bytes are those of an answer to a register operation. -/
def answersRegister (ids : MotorIds) (frame : CanFrame) : Bool :=
  frame.byte 0 = ids.canId % 2 ^ 8 ∧ frame.byte 1 = ids.canId / 2 ^ 8 % 2 ^ 8 ∧
    (frame.byte 2 = 0x33 ∨ frame.byte 2 = 0x55 ∨ frame.byte 2 = 0xAA)

end Motor

def observeFrame [Field K] [LinearOrder K] (frame : CanFrame) (receivedAt : ℤ) :
    List (Motor K) → Except String (List (Motor K))
  | [] => .ok []
  | motor :: motors =>
    if frame.id ≠ motor.ids.masterId then (motor :: ·) <$> observeFrame frame receivedAt motors
    else if Motor.answersRegister motor.ids frame then .ok (motor :: motors)
    else if !motor.limits.valid then .ok (motor :: motors)
    else
      match decodeFeedback frame motor.limits with
      | .error message => .error message
      | .ok feedback =>
        if feedback.motorId ≠ motor.ids.canId then
          (motor :: ·) <$> observeFrame frame receivedAt motors
        else .ok (motor.store feedback receivedAt :: motors)

/-- The answer among the frames received before the deadline. -/
def readRegister (ids : MotorIds) (register : Fin 256) : List CanFrame → Except String ℕ
  | [] => .error "timed out reading DaMiao register"
  | frame :: frames =>
    if frame.id ≠ ids.masterId then readRegister ids register frames
    else if frame.byte 0 ≠ ids.canId % 2 ^ 8 ∨
        frame.byte 1 ≠ ids.canId / 2 ^ 8 % 2 ^ 8 ∨ frame.byte 2 ≠ 0x33 ∨
        frame.byte 3 ≠ register then readRegister ids register frames
    else
      match decodeRegisterReply frame with
      | .error message => .error message
      | .ok reply =>
        if reply.motorId = ids.canId then .ok reply.rawValue
        else readRegister ids register frames

end RobotDriver.Head.Protocol
