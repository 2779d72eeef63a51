import Mathlib.Data.Fin.VecNotation
import RobotDriver.Head.Protocol

/-!
# Feedback and register replies

The frames a motor sends, encoded field by field. Its feedback decodes to the fields it encodes,
and is taken for feedback unless the status is 0 and the raw position is one of the operation
codes of a register reply; a register reply never changes what is known of a motor.
-/

namespace RobotDriver.Head.Protocol

/-- What a motor reports, as it encodes it. -/
structure Feedback where
  status : Fin 16
  position : Fin (2 ^ 16)
  velocity : Fin (2 ^ 12)
  effort : Fin (2 ^ 12)
  mosTemperature : Fin 256
  motorTemperature : Fin 256

inductive Operation
  | read | write | save

def Operation.code : Operation → ℕ
  | .read => 0x33
  | .write => 0x55
  | .save => 0xAA

structure Reply where
  operation : Operation
  register : Fin 256
  value : Fin (2 ^ 32)

def MotorIds.send (ids : MotorIds) (bytes : Fin 8 → ℕ) : CanFrame where
  id := ids.masterId
  data i := Fin.ofNat 256 (bytes i)

theorem MotorIds.byte_send {ids : MotorIds} {bytes : Fin 8 → ℕ} {i : Fin 8} (h : bytes i < 256) :
    (ids.send bytes).byte i = bytes i := Nat.mod_eq_of_lt h

theorem MotorIds.validate_send {ids : MotorIds} {bytes : Fin 8 → ℕ} :
    (ids.send bytes).validate = .ok () :=
  require_eq_ok_iff.2 ⟨ids.masterId_le, rfl⟩

namespace Feedback

variable (f : Feedback) (ids : MotorIds)

def bytes : Fin 8 → ℕ :=
  ![ids.canId + f.status * 2 ^ 4, f.position / 2 ^ 8, f.position % 2 ^ 8, f.velocity / 2 ^ 4,
    f.velocity % 2 ^ 4 * 2 ^ 4 + f.effort / 2 ^ 8, f.effort % 2 ^ 8, f.mosTemperature,
    f.motorTemperature]

def frame : CanFrame := ids.send (f.bytes ids)

theorem bytes_lt (i : Fin 8) : f.bytes ids i < 256 := by
  have hid := ids.canId_le
  have hstatus := f.status.isLt
  have hposition := f.position.isLt
  have hvelocity := f.velocity.isLt
  have heffort := f.effort.isLt
  revert i
  simp only [Fin.forall_fin_succ, bytes]
  refine ⟨?_, ?_, ?_, ?_, ?_, ?_, ?_, ?_, fun i => i.elim0⟩ <;> simp <;> omega

theorem byte_frame (i : Fin 8) : (f.frame ids).byte i = f.bytes ids i :=
  MotorIds.byte_send (f.bytes_lt ids i)

theorem validate_frame : (f.frame ids).validate = .ok () := MotorIds.validate_send

/-- A feedback frame that looks like the answer to a register operation. -/
def Ambiguous : Prop :=
  f.status = 0 ∧ ((f.position : ℕ) = 0x33 ∨ (f.position : ℕ) = 0x55 ∨ (f.position : ℕ) = 0xAA)

theorem answersRegister_frame :
    Motor.answersRegister ids (f.frame ids) = true ↔ f.Ambiguous := by
  have hid := ids.canId_le
  have hpos := ids.canId_pos
  have hposition := f.position.isLt
  have hzero : f.status = 0 ↔ (f.status : ℕ) = 0 := Fin.ext_iff
  simp only [Motor.answersRegister, byte_frame, decide_eq_true_eq, Ambiguous, hzero]
  simp only [bytes, Matrix.cons_val]
  omega

variable {K : Type} [Field K] [LinearOrder K]

theorem byte_motor : (f.frame ids).byte 0 % 2 ^ 4 = ids.canId := by
  have hid := ids.canId_le
  rw [byte_frame]
  simp only [bytes, Matrix.cons_val]
  omega

end Feedback

namespace Reply

variable (reply : Reply) (ids : MotorIds)

def bytes : Fin 8 → ℕ :=
  ![ids.canId % 2 ^ 8, ids.canId / 2 ^ 8, reply.operation.code, reply.register,
    reply.value % 2 ^ 8, reply.value / 2 ^ 8 % 2 ^ 8, reply.value / 2 ^ 16 % 2 ^ 8,
    reply.value / 2 ^ 24]

def frame : CanFrame := ids.send (reply.bytes ids)

theorem byte_frame {i : Fin 8} (h : reply.bytes ids i < 256) :
    (reply.frame ids).byte i = reply.bytes ids i := MotorIds.byte_send h

theorem validate_frame : (reply.frame ids).validate = .ok () := MotorIds.validate_send

theorem byte_motor : (reply.frame ids).byte 0 = ids.canId := by
  have hid := ids.canId_le
  have hbyte : reply.bytes ids 0 = ids.canId := Nat.mod_eq_of_lt (by omega)
  rw [byte_frame _ _ (by omega), hbyte]

theorem answersRegister_frame : Motor.answersRegister ids (reply.frame ids) = true := by
  have hid := ids.canId_le
  have hhigh : reply.bytes ids 1 = 0 := by
    change ids.canId / 2 ^ 8 = 0
    omega
  have hcode : reply.bytes ids 2 = reply.operation.code := rfl
  have hoperation : reply.operation.code = 0x33 ∨ reply.operation.code = 0x55 ∨
      reply.operation.code = 0xAA := by
    cases reply.operation <;> simp [Operation.code]
  have hone : (reply.frame ids).byte 1 = 0 := by rw [byte_frame _ _ (by omega), hhigh]
  have htwo : (reply.frame ids).byte 2 = reply.operation.code := by
    rw [byte_frame _ _ (by omega), hcode]
  simp only [Motor.answersRegister, byte_motor, hone, htwo, decide_eq_true_eq]
  omega

end Reply

section Observe

variable {K : Type} [Field K] [LinearOrder K]

theorem observeFrame_append {frame : CanFrame} {receivedAt : ℤ} {before : List (Motor K)}
    (h : ∀ motor ∈ before, motor.ids.masterId ≠ frame.id) (motors : List (Motor K)) :
    observeFrame frame receivedAt (before ++ motors) =
      (before ++ ·) <$> observeFrame frame receivedAt motors := by
  induction before with
  | nil => simp
  | cons motor before ih =>
    obtain ⟨hmotor, hbefore⟩ := List.forall_mem_cons.1 h
    rw [List.cons_append, observeFrame, if_pos hmotor.symm, ih hbefore, Functor.map_map]
    rfl

theorem decodeFeedback_of_valid {frame : CanFrame} {limits : MotorLimits K}
    (hframe : frame.validate = .ok ()) (h : limits.valid = true) :
    ∃ feedback, decodeFeedback frame limits = .ok feedback ∧
      feedback.motorId = frame.byte 0 % 2 ^ 4 := by
  simp only [MotorLimits.valid, Bool.and_eq_true, Option.isSome_iff_exists] at h
  obtain ⟨⟨⟨positionMax, hposition⟩, velocityMax, hvelocity⟩, torqueMax, htorque⟩ := h
  simp only [decodeFeedback, hframe, hposition, hvelocity, htorque]
  exact ⟨_, rfl, rfl⟩

theorem answersRegister_congr {ids other : MotorIds} (h : ids.canId = other.canId)
    (frame : CanFrame) : Motor.answersRegister ids frame = Motor.answersRegister other frame := by
  simp only [Motor.answersRegister, h]

theorem observeFrame_reply (reply : Reply) (ids : MotorIds) (receivedAt : ℤ) :
    ∀ motors : List (Motor K),
      observeFrame (reply.frame ids) receivedAt motors = .ok motors
  | [] => rfl
  | motor :: motors => by
    have ih := observeFrame_reply reply ids receivedAt motors
    by_cases hmaster : (reply.frame ids).id ≠ motor.ids.masterId
    · rw [observeFrame, if_pos hmaster, ih]
      rfl
    rw [observeFrame, if_neg hmaster]
    by_cases hanswers : Motor.answersRegister motor.ids (reply.frame ids) = true
    · rw [if_pos hanswers]
    rw [if_neg hanswers]
    by_cases hlimits : motor.limits.valid = true
    · obtain ⟨feedback, hdecode, hid⟩ :=
        decodeFeedback_of_valid (reply.validate_frame ids) hlimits
      have hcanId := ids.canId_le
      rw [reply.byte_motor, Nat.mod_eq_of_lt (by omega)] at hid
      have hforeign : feedback.motorId ≠ motor.ids.canId := by
        intro hsame
        rw [answersRegister_congr (hsame.symm.trans hid)] at hanswers
        exact hanswers (reply.answersRegister_frame ids)
      simp only [hlimits, hdecode, if_pos hforeign, ih]
      rfl
    · rw [if_pos (by simpa using hlimits)]

/-- A motor that has sent nothing, with unit limits. -/
def Motor.unread (ids : MotorIds) : Motor K where
  ids := ids
  limits := ⟨.finite 1, .finite 1, .finite 1⟩
  mosTemperature := 0
  motorTemperature := 0

namespace Feedback

variable (f : Feedback) (ids : MotorIds)

/-- Of motors whose master ids differ, its own takes what the frame decodes to. -/
def Updates (K : Type) [Field K] [LinearOrder K] : Prop :=
  ∀ (before after : List (Motor K)) (motor : Motor K) (receivedAt : ℤ),
    motor.ids = ids → motor.limits.valid = true →
    (∀ other ∈ before, other.ids.masterId ≠ ids.masterId) →
    ∃ feedback, decodeFeedback (f.frame ids) motor.limits = .ok feedback ∧
      observeFrame (f.frame ids) receivedAt (before ++ motor :: after) =
        .ok (before ++ motor.store feedback receivedAt :: after)

/-- No register of a motor is read from the frame. -/
def NeverRead : Prop :=
  ∀ (reader : MotorIds) (register : Fin 256) (before after : List CanFrame),
    (reader.masterId = ids.masterId → reader = ids) →
    readRegister reader register (before ++ f.frame ids :: after) =
      readRegister reader register (before ++ after)

theorem updates_of_not_ambiguous (h : ¬f.Ambiguous) : f.Updates ids K := by
  rintro before after motor receivedAt rfl hlimits hbefore
  obtain ⟨feedback, hdecode, hid⟩ := decodeFeedback_of_valid (f.validate_frame motor.ids) hlimits
  refine ⟨feedback, hdecode, ?_⟩
  rw [byte_motor] at hid
  have hmaster : ¬(f.frame motor.ids).id ≠ motor.ids.masterId := not_not_intro rfl
  have hanswers : ¬Motor.answersRegister motor.ids (f.frame motor.ids) = true :=
    mt (f.answersRegister_frame motor.ids).1 h
  rw [observeFrame_append hbefore, observeFrame, if_neg hmaster, if_neg hanswers]
  have hown : ¬feedback.motorId ≠ motor.ids.canId := not_not_intro hid
  simp only [hlimits, hdecode, if_neg hown]
  rfl

theorem observeFrame_of_ambiguous (h : f.Ambiguous) {motor : Motor K} (hids : motor.ids = ids)
    (receivedAt : ℤ) (after : List (Motor K)) :
    observeFrame (f.frame ids) receivedAt (motor :: after) = .ok (motor :: after) := by
  subst hids
  have hmaster : ¬(f.frame motor.ids).id ≠ motor.ids.masterId := not_not_intro rfl
  rw [observeFrame, if_neg hmaster, if_pos ((f.answersRegister_frame motor.ids).2 h)]

theorem readRegister_append {reader : MotorIds} {register : Fin 256} {frame : CanFrame}
    (h : ∀ frames, readRegister reader register (frame :: frames) =
      readRegister reader register frames) (before after : List CanFrame) :
    readRegister reader register (before ++ frame :: after) =
      readRegister reader register (before ++ after) := by
  induction before with
  | nil => exact h after
  | cons first before ih => simp only [List.cons_append, readRegister, ih]

theorem neverRead_of_not_ambiguous (h : ¬f.Ambiguous) : f.NeverRead ids := by
  intro reader register before after hreader
  apply readRegister_append
  intro frames
  rw [readRegister]
  by_cases hmaster : (f.frame ids).id ≠ reader.masterId
  · rw [if_pos hmaster]
  obtain rfl := hreader (not_not.1 hmaster).symm
  have hanswers := mt (f.answersRegister_frame reader).1 h
  simp only [Motor.answersRegister, decide_eq_true_eq] at hanswers
  rw [if_neg hmaster, if_pos (by tauto)]

theorem not_updates_of_ambiguous [IsStrictOrderedRing K] (h : f.Ambiguous) :
    ¬f.Updates ids K := by
  intro hupdates
  have hlimits : (Motor.unread (K := K) ids).limits.valid = true := by
    simp [Motor.unread, MotorLimits.valid, positive, zero_lt_one]
  obtain ⟨feedback, -, hobserve⟩ := hupdates [] [] (.unread ids) 1 rfl hlimits (by simp)
  rw [List.nil_append, f.observeFrame_of_ambiguous ids h rfl, Except.ok.injEq] at hobserve
  have hreceived := congrArg Motor.receivedAt (List.cons.inj hobserve).1
  exact absurd hreceived (show (0 : ℤ) ≠ 1 by decide)

/-- A feedback frame updates its motor and is never read as a register unless its status is 0 and
its raw position an operation code; a register reply changes no motor. -/
theorem toldApart_iff [IsStrictOrderedRing K] :
    ((f.Updates ids K ∧ f.NeverRead ids) ↔
      ¬(f.status = 0 ∧
        ((f.position : ℕ) = 0x33 ∨ (f.position : ℕ) = 0x55 ∨ (f.position : ℕ) = 0xAA))) ∧
      ∀ (reply : Reply) (receivedAt : ℤ) (motors : List (Motor K)),
        observeFrame (reply.frame ids) receivedAt motors = .ok motors := by
  refine ⟨⟨?_, ?_⟩, fun reply => observeFrame_reply reply ids⟩
  · rintro ⟨hupdates, -⟩ hambiguous
    exact f.not_updates_of_ambiguous ids hambiguous hupdates
  · intro h
    exact ⟨f.updates_of_not_ambiguous ids h, f.neverRead_of_not_ambiguous ids h⟩

def headYaw : MotorIds where
  canId := 1
  masterId := 0x11
  canId_pos := Nat.one_pos
  canId_le := by decide
  masterId_le := by decide

/-- Disabled at the raw position 0x33, turning at the raw velocity 0xA0. -/
def turning : Feedback where
  status := 0
  position := 0x33
  velocity := 0xA0
  effort := 0x7FF
  mosTemperature := 40
  motorTemperature := 35

theorem toldApart_iff_turning :
    ¬(turning.Updates headYaw ℚ ∧ turning.NeverRead headYaw) ∧
      observeFrame (Reply.frame ⟨.read, 0x0A, 2⟩ headYaw) 1 [Motor.unread (K := ℚ) headYaw] =
        .ok [.unread headYaw] :=
  ⟨fun h => (toldApart_iff turning headYaw).1.1 h (by decide),
    (toldApart_iff turning headYaw).2 _ _ _⟩

/-- Its motor misses the feedback, and register 10 is read from it. -/
theorem feedback_taken_for_reply :
    ¬turning.Updates headYaw ℚ ∧ ¬turning.NeverRead headYaw ∧
      readRegister headYaw 0x0A [turning.frame headYaw] = .ok 589889287 := by
  have hread : readRegister headYaw 0x0A [turning.frame headYaw] = .ok 589889287 := by decide
  refine ⟨turning.not_updates_of_ambiguous headYaw ⟨rfl, .inl rfl⟩, fun hnever => ?_, hread⟩
  have hnone := hnever headYaw 0x0A [] [] fun _ => rfl
  rw [List.nil_append, hread] at hnone
  cases hnone

end Feedback

end Observe

end RobotDriver.Head.Protocol
