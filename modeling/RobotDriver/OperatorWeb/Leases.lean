import Mathlib.Algebra.Order.Field.Basic
import RobotDriver.Lib.Numerals

/-!
# The page leases

Each page of the operator web keeps its own lease, keyed by connection: the drive arbiter of the
chassis, the arm console and the head console. A refused acquisition leaves the lease as it is.
-/

namespace RobotDriver.OperatorWeb

variable {C K : Type*} [DecidableEq C]

structure DriveArbiter (C K : Type*) where
  holder : Option C := none
  target : Option (K × K × K) := none
  lastInput : Option K := none

namespace DriveArbiter

variable (arbiter : DriveArbiter C K) (session : C)

def endLease : DriveArbiter C K := { arbiter with holder := none, target := none }

def acquire : DriveArbiter C K :=
  if arbiter.holder = none then { arbiter with holder := some session, target := none }
  else arbiter

/-- Also the end of a connection. -/
def release : DriveArbiter C K :=
  if arbiter.holder = some session then arbiter.endLease else arbiter

variable {arbiter session} in
theorem release_holder {connection : C} (h : (arbiter.release session).holder = some connection) :
    arbiter.holder = some connection := by
  unfold release at h
  split at h
  · cases h
  · exact h

def softStop : DriveArbiter C K := arbiter.endLease

/-- An accepted stick input; `target` is empty when it asks for no motion. -/
def drive (target : Option (K × K × K)) (now : K) : DriveArbiter C K :=
  if arbiter.holder = some session then { arbiter with target := target, lastInput := some now }
  else arbiter

theorem drive_holder (target : Option (K × K × K)) (now : K) :
    (arbiter.drive session target now).holder = arbiter.holder := by
  unfold drive
  split <;> rfl

/-- Also a rejected stick input. -/
def halt : DriveArbiter C K :=
  if arbiter.holder = some session then { arbiter with target := none } else arbiter

theorem halt_holder : (arbiter.halt session).holder = arbiter.holder := by
  unfold halt
  split <;> rfl

def resetMotion : DriveArbiter C K := { arbiter with target := none, lastInput := none }

variable [Field K] [LinearOrder K]

def inputExpired (timeout now : K) : Bool :=
  match arbiter.lastInput with
  | none => true
  | some lastInput => timeout < now - lastInput

/-- The part of `tick` that decides about the lease. -/
def tick (timeout now : K) : DriveArbiter C K :=
  if arbiter.holder.isSome && arbiter.target.isSome && arbiter.inputExpired timeout now then
    arbiter.endLease
  else arbiter

omit [DecidableEq C] in
variable {arbiter} in
theorem tick_holder {timeout now : K} {connection : C}
    (h : (arbiter.tick timeout now).holder = some connection) :
    arbiter.holder = some connection := by
  unfold tick at h
  split at h
  · cases h
  · exact h

end DriveArbiter

/-- The lease of the arm console and the time it was last touched. -/
structure ArmLease (C K : Type*) where
  lease : Option C := none
  leaseSeen : Option K := none

namespace ArmLease

variable (arm : ArmLease C K) (session : C)

def touch (now : K) : ArmLease C K :=
  if arm.lease = some session then { arm with leaseSeen := some now } else arm

theorem touch_lease (now : K) : (arm.touch session now).lease = arm.lease := by
  unfold touch
  split <;> rfl

def release : ArmLease C K :=
  if arm.lease = some session then { arm with lease := none } else arm

variable {arm session} in
theorem release_lease {connection : C} (h : (arm.release session).lease = some connection) :
    arm.lease = some connection := by
  unfold release at h
  split at h
  · cases h
  · exact h

variable [Field K] [LinearOrder K]

def leaseTimeoutS : K := 3

def expired (now : K) : Bool :=
  match arm.leaseSeen with
  | none => true
  | some leaseSeen => leaseTimeoutS < now - leaseSeen

def expire (now : K) : ArmLease C K :=
  if arm.expired now then { arm with lease := none } else arm

omit [DecidableEq C] in
variable {arm} in
theorem expire_lease {now : K} {connection : C}
    (h : (arm.expire now).lease = some connection) : arm.lease = some connection := by
  unfold expire at h
  split at h
  · cases h
  · exact h

def acquire (now : K) : ArmLease C K :=
  if (arm.expire now).lease = none ∨ (arm.expire now).lease = some session then
    ⟨some session, some now⟩
  else arm.expire now

end ArmLease

structure HeadConsole (C : Type*) where
  holder : Option C := none

namespace HeadConsole

variable (head : HeadConsole C) (connection : C)

def acquire : HeadConsole C :=
  if head.holder = none then { head with holder := some connection } else head

/-- Also the end of a connection. -/
def release : HeadConsole C :=
  if head.holder = some connection then { head with holder := none } else head

variable {head connection} in
theorem release_holder {other : C} (h : (head.release connection).holder = some other) :
    head.holder = some other := by
  unfold release at h
  split at h
  · cases h
  · exact h

end HeadConsole

end RobotDriver.OperatorWeb
