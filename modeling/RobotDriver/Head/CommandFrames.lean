import RobotDriver.Head.FrameKinds

/-!
# Command frames

The frames that the driver sends to a motor. A special command fills the place of the position with
bits that are no finite number, and such a position is never sent. So no two commands share a frame.
-/

namespace RobotDriver.Head.Protocol

/-- A `float` by its bits. -/
structure Single where
  raw : ℕ
  raw_lt : raw < 2 ^ 32
  deriving DecidableEq

namespace Single

variable (value : Single)

def isFinite : Bool := value.raw / 2 ^ 23 % 2 ^ 8 ≠ 0xFF

/-- `value <= 0.0F`, which no NaN satisfies. -/
def nonpositive : Bool :=
  (value.isFinite || value.raw % 2 ^ 23 = 0) && (value.raw = 0 || 2 ^ 31 ≤ value.raw)

def byte (i : ℕ) : Fin 256 := Fin.ofNat 256 (value.raw / 2 ^ (8 * i))

def write (data : Fin 8 → Fin 256) (offset : ℕ) (i : Fin 8) : Fin 256 :=
  if offset ≤ i ∧ i < offset + 4 then value.byte (i - offset) else data i

end Single

inductive SpecialCommand
  | clearFault | enable | disable
  deriving DecidableEq

def SpecialCommand.code : SpecialCommand → Fin 256
  | .clearFault => 0xFB
  | .enable => 0xFC
  | .disable => 0xFD

def kRegisterRequestId : ℕ := 0x7FF

def kPositionVelocityIdOffset : ℕ := 0x100

def validateMotorId (motorId : ℕ) : Except String Unit :=
  require (motorId ≠ 0 ∧ motorId ≤ 0x0F) "DaMiao motor ID must be in [1, 15]"

def writeFloatLe (data : Fin 8 → Fin 256) (offset : ℕ) (value : Single) :
    Except String (Fin 8 → Fin 256) := do
  require (value.isFinite = true) "DaMiao float command must be finite"
  return value.write data offset

def makePositionVelocityCommand (motorId : ℕ) (position velocityLimit : Single) :
    Except String CanFrame := do
  validateMotorId motorId
  require (velocityLimit.nonpositive = false) "DaMiao velocity limit must be positive"
  let data ← writeFloatLe (fun _ => 0) 0 position
  return { id := kPositionVelocityIdOffset + motorId, data := ← writeFloatLe data 4 velocityLimit }

def makeSpecialCommand (motorId : ℕ) (command : SpecialCommand) : Except String CanFrame := do
  validateMotorId motorId
  return { id := kPositionVelocityIdOffset + motorId
           data := fun i => if i = 7 then command.code else 0xFF }

/-- The bytes of a request without a value. -/
def registerRequest (motorId : ℕ) (operation registerId : Fin 256) : Fin 8 → Fin 256 :=
  ![Fin.ofNat 256 motorId, Fin.ofNat 256 (motorId / 2 ^ 8), operation, registerId, 0, 0, 0, 0]

def makeRegisterRead (motorId : ℕ) (registerId : Fin 256) : Except String CanFrame := do
  validateMotorId motorId
  return { id := kRegisterRequestId, data := registerRequest motorId 0x33 registerId }

def makeRegisterWriteFloat (motorId : ℕ) (registerId : Fin 256) (value : Single) :
    Except String CanFrame := do
  validateMotorId motorId
  return { id := kRegisterRequestId
           data := ← writeFloatLe (registerRequest motorId 0x55 registerId) 4 value }

def makeParameterSave (motorId : ℕ) : Except String CanFrame := do
  validateMotorId motorId
  return { id := kRegisterRequestId, data := registerRequest motorId 0xAA 0x01 }

inductive Command
  | positionVelocity (position velocityLimit : Single)
  | special (command : SpecialCommand)
  | registerRead (registerId : Fin 256)
  | registerWriteFloat (registerId : Fin 256) (value : Single)
  | parameterSave
  deriving DecidableEq

namespace Command

def frame (motorId : ℕ) : Command → Except String CanFrame
  | positionVelocity position velocityLimit =>
    makePositionVelocityCommand motorId position velocityLimit
  | special command => makeSpecialCommand motorId command
  | registerRead registerId => makeRegisterRead motorId registerId
  | registerWriteFloat registerId value => makeRegisterWriteFloat motorId registerId value
  | parameterSave => makeParameterSave motorId

/-- The identifier and the bytes of a command that can be sent. -/
def content (motorId : ℕ) : Command → ℕ × (Fin 8 → Fin 256)
  | positionVelocity position velocityLimit => (kPositionVelocityIdOffset + motorId,
      velocityLimit.write (position.write (fun _ => 0) 0) 4)
  | special command =>
    (kPositionVelocityIdOffset + motorId, fun i => if i = 7 then command.code else 0xFF)
  | registerRead registerId => (kRegisterRequestId, registerRequest motorId 0x33 registerId)
  | registerWriteFloat registerId value =>
    (kRegisterRequestId, value.write (registerRequest motorId 0x55 registerId) 4)
  | parameterSave => (kRegisterRequestId, registerRequest motorId 0xAA 0x01)

end Command

namespace Single

variable {value other : Single} {data data' : Fin 8 → Fin 256}

theorem ext_byte (h : ∀ i : Fin 4, value.byte i = other.byte i) : value = other := by
  obtain ⟨raw, hraw⟩ := value
  obtain ⟨raw', hraw'⟩ := other
  simp only [Fin.forall_fin_succ, Fin.ext_iff, byte, Fin.ofNat] at h
  simp at h
  congr 1
  omega

theorem not_isFinite (htwo : value.byte 2 = 0xFF) (hthree : value.byte 3 = 0xFF) :
    value.isFinite = false := by
  replace htwo := congrArg Fin.val htwo
  replace hthree := congrArg Fin.val hthree
  simp [byte] at htwo hthree
  simp [isFinite]
  omega

theorem write_byte {offset : ℕ} {i : Fin 8} (h : offset ≤ i ∧ i < offset + 4) :
    value.write data offset i = value.byte (i - offset) := if_pos h

theorem write_below {offset : ℕ} {i : Fin 8} (h : i < offset) :
    value.write data offset i = data i := if_neg (by omega)

theorem write_inj {offset : ℕ} (hoffset : offset ≤ 4)
    (h : ∀ i : Fin 8, i < offset + 4 → value.write data offset i = other.write data' offset i) :
    value = other := by
  refine ext_byte fun i => ?_
  have hbyte := h ⟨offset + i, by omega⟩ (by dsimp only; omega)
  rw [write_byte (by dsimp only; omega), write_byte (by dsimp only; omega)] at hbyte
  rwa [Nat.add_sub_cancel_left] at hbyte

end Single

theorem Command.content_of_frame {motorId : ℕ} {command : Command} {frame : CanFrame}
    (h : command.frame motorId = .ok frame) :
    motorId ≤ 0x0F ∧ (frame.id, frame.data) = command.content motorId ∧
      ∀ position limit, command = .positionVelocity position limit → position.isFinite = true := by
  cases command <;> simp only [Command.frame, makePositionVelocityCommand, makeSpecialCommand,
    makeRegisterRead, makeRegisterWriteFloat, makeParameterSave, validateMotorId, writeFloatLe,
    bind_eq_ok_iff, require_eq_ok_iff] at h
  case positionVelocity =>
    obtain ⟨-, hmotor, -, -, -, ⟨-, hfinite, ⟨⟩⟩, -, ⟨-, -, ⟨⟩⟩, ⟨⟩⟩ := h
    refine ⟨hmotor.2, rfl, fun position limit heq => ?_⟩
    cases heq
    exact hfinite
  case registerWriteFloat =>
    obtain ⟨-, hmotor, -, ⟨-, -, ⟨⟩⟩, ⟨⟩⟩ := h
    exact ⟨hmotor.2, rfl, fun _ _ => Command.noConfusion⟩
  all_goals
    obtain ⟨-, hmotor, ⟨⟩⟩ := h
    exact ⟨hmotor.2, rfl, fun _ _ => Command.noConfusion⟩

theorem registerRequest_inj {motorId other : ℕ} (hmotor : motorId ≤ 0x0F) (hother : other ≤ 0x0F)
    {operation register register' : Fin 256} (h : ∀ i : Fin 8, (i : ℕ) < 4 →
      registerRequest motorId operation register i = registerRequest other operation register' i) :
    motorId = other ∧ register = register' := by
  refine ⟨?_, h 3 (by decide)⟩
  have hbyte := congrArg Fin.val (h 0 (by decide))
  simp [registerRequest] at hbyte
  omega

theorem positionVelocity_ne_special {position velocityLimit : Single} {command : SpecialCommand}
    (hfinite : position.isFinite = true) : velocityLimit.write (position.write (fun _ => 0) 0) 4 ≠
      fun i => if i = 7 then command.code else 0xFF := by
  intro h
  rw [Single.not_isFinite (congrFun h 2) (congrFun h 3)] at hfinite
  cases hfinite

/-- Two commands that share a frame are the same command to the same motor. -/
theorem frame_unambiguous {motorId other : ℕ} {command command' : Command} {frame : CanFrame}
    (h : command.frame motorId = .ok frame) (h' : command'.frame other = .ok frame) :
    motorId = other ∧ command = command' := by
  obtain ⟨hmotor, hcontent, hfinite⟩ := Command.content_of_frame h
  obtain ⟨hother, hcontent', hfinite'⟩ := Command.content_of_frame h'
  rw [hcontent] at hcontent'
  cases command <;> cases command' <;> obtain ⟨hid, hdata⟩ := Prod.mk.inj hcontent'
  -- The identifiers and the operations tell the kinds apart, but for those below.
  all_goals
    try
      unfold kPositionVelocityIdOffset kRegisterRequestId at hid
      omega
  all_goals
    have hbytes := congrFun hdata
    try
      have hoperation := hbytes 2
      simp [registerRequest, Single.write] at hoperation
      done
  · obtain rfl := Single.write_inj le_rfl fun i _ => hbytes i
    have hbelow : ∀ i : Fin 8, (i : ℕ) < 4 → _ := fun i hi =>
      (Single.write_below hi).symm.trans ((hbytes i).trans (Single.write_below hi))
    obtain rfl := Single.write_inj (Nat.zero_le 4) fun i hi => hbelow i (by omega)
    exact ⟨Nat.add_left_cancel hid, rfl⟩
  · exact absurd hdata (positionVelocity_ne_special (hfinite _ _ rfl))
  · exact absurd hdata.symm (positionVelocity_ne_special (hfinite' _ _ rfl))
  · rename_i command command'
    have hcode : command.code = command'.code := hbytes 7
    refine ⟨Nat.add_left_cancel hid, congrArg _ ?_⟩
    cases command <;> cases command' <;> first | rfl | cases hcode
  · obtain ⟨rfl, rfl⟩ := registerRequest_inj hmotor hother fun i _ => hbytes i
    exact ⟨rfl, rfl⟩
  · obtain rfl := Single.write_inj le_rfl fun i _ => hbytes i
    obtain ⟨rfl, rfl⟩ := registerRequest_inj hmotor hother fun i hi =>
      (Single.write_below hi).symm.trans ((hbytes i).trans (Single.write_below hi))
    exact ⟨rfl, rfl⟩
  · exact ⟨(registerRequest_inj hmotor hother fun i _ => hbytes i).1, rfl⟩

/-- One radian at two radians per second. -/
theorem positionVelocity_unambiguous : ∃ frame,
    (Command.positionVelocity ⟨0x3F800000, by decide⟩ ⟨0x40000000, by decide⟩).frame 1 = .ok frame ∧
      ∀ (motorId : ℕ) (command : Command), command.frame motorId = .ok frame → motorId = 1 ∧
        command = .positionVelocity ⟨0x3F800000, by decide⟩ ⟨0x40000000, by decide⟩ :=
  ⟨_, rfl, fun _ _ h => frame_unambiguous h rfl⟩

end RobotDriver.Head.Protocol
