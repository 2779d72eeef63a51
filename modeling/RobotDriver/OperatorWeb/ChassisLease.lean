import RobotDriver.OperatorWeb.ChassisEnvelope
import RobotDriver.OperatorWeb.OneOperator

/-!
# The lease of the chassis arbiter

The pages know of the arbiter who holds it, what it asks for and when it was asked last. Each of its
operations is one of their calls.
-/

namespace RobotDriver.OperatorWeb.Teleop.DriveArbiter

variable {C L K : Type*} [Field K] [LinearOrder K]

def lease (a : DriveArbiter C K) : OperatorWeb.DriveArbiter C K where
  holder := a.holder
  target := if a.target = 0 then none else some a.target
  lastInput := a.lastInput

section Operations

variable (a : DriveArbiter C K)

theorem lease_zeroTarget (reason : String) :
    (a.zeroTarget reason).lease = { a.lease with target := none } := by
  simp [lease, zeroTarget]

theorem lease_endLease (reason : String) (fast : Bool) :
    (a.endLease reason fast).lease = a.lease.endLease := by
  simp [lease, endLease, zeroTarget, OperatorWeb.DriveArbiter.endLease]

theorem lease_resetMotion (reason : String) :
    (a.resetMotion reason).lease = a.lease.resetMotion := by
  simp [lease, resetMotion, OperatorWeb.DriveArbiter.resetMotion]

theorem lease_tick [StickMath K] (config : TeleopConfig K) (now : K) :
    (a.tick config now).1.lease = a.lease.tick config.commandTimeout now := by
  have hfollow (b : DriveArbiter C K) (dt : K) : (b.follow config dt).lease = b.lease := by
    unfold follow
    split <;> rfl
  have hsettle (b : DriveArbiter C K) : b.settle.lease = b.lease := by
    unfold settle
    split <;> rfl
  have hpublish (b : DriveArbiter C K) : b.publish.1.lease = b.lease := by
    unfold publish
    split_ifs <;> rfl
  have hmoves : decide (a.target ≠ 0) = a.lease.target.isSome := by
    by_cases hzero : a.target = 0 <;> simp [lease, hzero]
  rw [tick, hpublish, hsettle, hfollow, watchdog, apply_ite lease, lease_endLease]
  dsimp only
  rw [hmoves]
  rfl

variable [DecidableEq C] (session : C)

theorem lease_acquire : (a.acquire session).1.lease = a.lease.acquire session := by
  unfold acquire
  split
  · rename_i heldBy hheld
    have hkept : a.lease.acquire session = a.lease := if_neg (by simp [lease, hheld])
    rw [hkept]
    split <;> rfl
  · rename_i hfree
    simp [lease, hfree, OperatorWeb.DriveArbiter.acquire]

theorem lease_release (reason : String) :
    (if a.holder = some session then a.endLease reason false else a).lease =
      a.lease.release session :=
  (apply_ite lease ..).trans (if_congr Iff.rfl (lease_endLease ..) rfl)

theorem lease_halt : (a.halt session).lease = a.lease.halt session :=
  (apply_ite lease ..).trans (if_congr Iff.rfl (lease_zeroTarget ..) rfl)

theorem lease_setGear [StickMath K] (config : TeleopConfig K) (gear : String) :
    (a.setGear config session gear).1.lease = a.lease := by
  unfold setGear
  split_ifs <;> rfl

/-- A rejected input stops like the end of one. -/
theorem lease_drive [StickMath K] (config : TeleopConfig K) (x y : Double K) (yaw : ℤ) (now : K) :
    (a.drive config session x y yaw now).1.lease = a.lease ∨
      (a.drive config session x y yaw now).1.lease = a.lease.halt session ∨
      ∃ target, (a.drive config session x y yaw now).1.lease =
        a.lease.drive session target now := by
  unfold drive
  by_cases hheld : a.holder = some session
  · have hhalt (reason : String) : (a.zeroTarget reason).lease = a.lease.halt session :=
      (lease_zeroTarget ..).trans (if_pos hheld).symm
    rw [if_neg (not_not_intro hheld)]
    split
    · split
      · exact .inr (.inl (hhalt _))
      split
      · exact .inr (.inl (hhalt _))
      dsimp only
      split
      · exact .inr (.inl (hhalt _))
      split
      · exact .inl rfl
      · exact .inr (.inr ⟨_, (if_pos hheld).symm⟩)
    · exact .inr (.inl (hhalt _))
  · rw [if_pos hheld]
    exact .inl rfl

end Operations

/-- An operation at the time of the pages; an acquisition has passed its check. -/
def Admitted (s : PagesState C L ℝ) : ArbiterEvent C → Prop
  | .acquire session => ∃ request ∈ s.requests, request.page = .chassis ∧
      request.connection = session
  | .drive _ _ _ _ now => now = s.now
  | .tick now => now = s.now
  | _ => True

theorem perform_lease [DecidableEq C] [DecidableEq L] (config : TeleopConfig ℝ)
    {a : DriveArbiter C ℝ} {s : PagesState C L ℝ} (hlease : s.arbiter = a.lease)
    (event : ArbiterEvent C) (hevent : Admitted s event) :
    ∃ call, (s.step config.commandTimeout call).arbiter = (a.perform config event).lease ∧
      (s.step config.commandTimeout call).arm = s.arm ∧
      (s.step config.commandTimeout call).head = s.head := by
  have hidle : s.step config.commandTimeout (.advance s.now) = { s with steps := s.steps + 1 } := by
    simp [PagesState.step, PagesState.handle]
  cases event with
  | acquire session =>
    obtain ⟨request, hmem, hpage, rfl⟩ := hevent
    refine ⟨.acquire request, ?_⟩
    simp [PagesState.step, PagesState.handle, PagesState.acquire, hmem, hpage,
      PagesState.acquirePage, hlease, perform, lease_acquire]
  | setGear session gear =>
    refine ⟨.advance s.now, ?_⟩
    rw [hidle]
    exact ⟨hlease.trans (lease_setGear ..).symm, rfl, rfl⟩
  | drive session x y yaw now =>
    obtain rfl := hevent
    rcases a.lease_drive session config x y yaw s.now with h | h | ⟨target, h⟩
    · refine ⟨.advance s.now, ?_⟩
      rw [hidle]
      exact ⟨hlease.trans h.symm, rfl, rfl⟩
    · exact ⟨.halt session, (hlease ▸ h).symm, rfl, rfl⟩
    · exact ⟨.drive session target, (hlease ▸ h).symm, rfl, rfl⟩
  | release session | disconnect session =>
    exact ⟨.release .chassis session, (hlease ▸ a.lease_release session _).symm, rfl, rfl⟩
  | softStop reason => exact ⟨.softStop, (hlease ▸ a.lease_endLease reason true).symm, rfl, rfl⟩
  | halt session => exact ⟨.halt session, (hlease ▸ a.lease_halt session).symm, rfl, rfl⟩
  | resetMotion reason =>
    exact ⟨.resetMotion, (hlease ▸ a.lease_resetMotion reason).symm, rfl, rfl⟩
  | tick now =>
    obtain rfl := hevent
    exact ⟨.tick, (hlease ▸ a.lease_tick config s.now).symm, rfl, rfl⟩

end RobotDriver.OperatorWeb.Teleop.DriveArbiter
