import Mathlib.Analysis.SpecialFunctions.Complex.Arg
import RobotDriver.Lib.Double

/-!
# The chassis drive arbiter

`DriveArbiter` with the stick shaping and the jerk-limited profile it publishes. Every method runs
under the lock and reads the clock once, so a method is one function of the state and the time.
The functions of the `math` module enter through `StickMath`.
-/

namespace RobotDriver.OperatorWeb.Teleop

class StickMath (K : Type*) where
  sqrt : K → K
  hypot : K → K → K
  atan2 : K → K → K
  cos : K → K
  sin : K → K
  pi : K

open StickMath

noncomputable instance : StickMath ℝ where
  sqrt := Real.sqrt
  hypot x y := Real.sqrt (x * x + y * y)
  atan2 y x := Complex.arg ⟨x, y⟩
  cos := Real.cos
  sin := Real.sin
  pi := Real.pi

structure TeleopError where
  code : String
  message : String
  deriving DecidableEq, Repr

structure Gear (K : Type*) where
  linear : K
  angular : K

structure AxisLimits (K : Type*) where
  accel : K
  decel : K
  stopDecel : K
  jerk : K

structure MotionLimits (K : Type*) where
  linear : AxisLimits K
  angular : AxisLimits K

def trailingZeroCount : ℕ := 3

section Shape

variable {K : Type*} [Field K] [LinearOrder K] [StickMath K]

def maxTickDtS : K := 1 / 10

def commandTimeoutS : K := 1 / 5

def stickDeadzone : K := 1 / 10

def stickSnapDeg : K := 8

def stickMaxInput : K := 101 / 100

def epsilon : K := 1 / 1000000000

def snapError : K := 1 / 10000

def snapAxes : List K := [0, pi / 2, pi, -pi / 2, -pi]

def shapeStick (x y : K) : K × K :=
  let magnitude := hypot x y
  if magnitude ≤ stickDeadzone then (0, 0)
  else
    let magnitude := min magnitude 1
    let angle := atan2 y x
    let angle := (snapAxes.find? fun axis => |angle - axis| ≤ stickSnapDeg * pi / 180).getD angle
    let scaled := ((magnitude - stickDeadzone) / (1 - stickDeadzone)) ^ 2
    let outX := scaled * cos angle
    let outY := scaled * sin angle
    (if |outX| < epsilon then 0 else outX, if |outY| < epsilon then 0 else outY)

end Shape

structure JerkLimitedFollower (d : ℕ) (K : Type*) where
  value : Fin d → K
  accel : Fin d → K

namespace JerkLimitedFollower

variable {d : ℕ} {K : Type*} [Field K]

def reset : JerkLimitedFollower d K := ⟨0, 0⟩

variable [LinearOrder K] [StickMath K] (follower : JerkLimitedFollower d K)

def isZero : Bool := follower.value = 0

def dot (v w : Fin d → K) : K := ((List.finRange d).map fun i => v i * w i).sum

def norm (v : Fin d → K) : K := sqrt (dot v v)

def peakAndJerk (target : Fin d → K) (limits : AxisLimits K) (stopping : Bool) : K × K :=
  if stopping then (limits.stopDecel, limits.jerk * limits.stopDecel / limits.decel)
  else if norm follower.value + epsilon < norm target then (limits.accel, limits.jerk)
  else (limits.decel, limits.jerk)

def step (target : Fin d → K) (dt : K) (limits : AxisLimits K) (stopping : Bool) :
    JerkLimitedFollower d K :=
  let error := target - follower.value
  let errorNorm := norm error
  if errorNorm < snapError then ⟨target, 0⟩
  else
    let (peak, jerk) := follower.peakAndJerk target limits stopping
    let brakingError := max (errorNorm - norm follower.accel * dt) 0
    let desiredNorm := min peak (sqrt (2 * jerk * brakingError))
    let delta := fun i => error i / errorNorm * desiredNorm - follower.accel i
    let delta := if jerk * dt < norm delta then fun i => delta i * (jerk * dt) / norm delta
      else delta
    let accel := follower.accel + delta
    let accel := if peak < norm accel then fun i => accel i * peak / norm accel else accel
    let newValue := fun i => follower.value i + accel i * dt
    if dot (target - newValue) error ≤ 0 then ⟨target, 0⟩ else ⟨newValue, accel⟩

end JerkLimitedFollower

structure TeleopConfig (K : Type*) [LT K] [Zero K] [LE K] where
  gears : List (String × Gear K)
  limits : MotionLimits K
  commandTimeout : K
  gears_ne : gears ≠ []
  gears_pos : ∀ entry ∈ gears, 0 < entry.2.linear ∧ 0 < entry.2.angular
  limits_pos : ∀ axis ∈ [limits.linear, limits.angular],
    0 < axis.accel ∧ 0 < axis.decel ∧ axis.decel ≤ axis.stopDecel ∧ 0 < axis.jerk
  commandTimeout_pos : 0 < commandTimeout

/-- The velocity triple of a Twist: forward, left and turn. -/
abbrev Command (K : Type*) := K × K × K

structure DriveArbiter (C K : Type*) where
  holder : Option C := none
  gear : String
  target : Command K
  lastInput : Option K := none
  linear : JerkLimitedFollower 2 K
  angular : JerkLimitedFollower 1 K
  stoppingFast : Bool := false
  lastTick : Option K := none
  trailingZeros : ℕ := 0
  stopReason : String := "idle"

namespace DriveArbiter

variable {C K : Type*} [DecidableEq C] [Field K] [LinearOrder K] [StickMath K]
  (config : TeleopConfig K) (arbiter : DriveArbiter C K) (session : C)

def initial : DriveArbiter C K where
  gear := (config.gears.head config.gears_ne).1
  target := 0
  linear := .reset
  angular := .reset

def command : Command K :=
  (arbiter.linear.value 0, arbiter.linear.value 1, arbiter.angular.value 0)

def moving : Bool := arbiter.target ≠ 0 || arbiter.command ≠ 0

def zeroTarget (reason : String) : DriveArbiter C K :=
  { arbiter with target := 0, stopReason := reason }

def endLease (reason : String) (fast : Bool) : DriveArbiter C K :=
  { arbiter.zeroTarget reason with
    holder := none
    stoppingFast := fast || arbiter.stoppingFast
    trailingZeros :=
      if arbiter.holder.isSome || fast then trailingZeroCount else arbiter.trailingZeros }

def acquire : DriveArbiter C K × Option TeleopError :=
  match arbiter.holder with
  | some heldBy =>
    if heldBy = session then (arbiter, none)
    else (arbiter, some ⟨"lease_busy", "另一个终端正在控制"⟩)
  | none =>
    ({ arbiter with holder := some session, target := 0, stopReason := "lease_acquired" }, none)

def release : DriveArbiter C K :=
  if arbiter.holder = some session then arbiter.endLease "lease_released" false else arbiter

def disconnect : DriveArbiter C K :=
  if arbiter.holder = some session then arbiter.endLease "client_disconnected" false else arbiter

def softStop (reason : String) : DriveArbiter C K :=
  { arbiter.endLease reason true with trailingZeros := trailingZeroCount }

def leaseRequired : TeleopError := ⟨"lease_required", "未持有控制权"⟩

def gearNamed (name : String) : Option (Gear K) := config.gears.lookup name

/-- An accepted input; the gear is always one of the configured ones. -/
def accept (gear : Gear K) (stick : K × K) (yaw : ℤ) (now : K) : DriveArbiter C K :=
  let target : Command K := (stick.1 * gear.linear, stick.2 * gear.linear, yaw * gear.angular)
  { arbiter with
    target
    lastInput := some now
    stoppingFast := false
    stopReason :=
      if target ≠ 0 then ""
      else if !arbiter.linear.isZero || !arbiter.angular.isZero then "stick_released"
      else arbiter.stopReason }

def drive (x y : Double K) (yaw : ℤ) (now : K) : DriveArbiter C K × Option TeleopError :=
  if arbiter.holder ≠ some session then (arbiter, some leaseRequired)
  else
    match x, y with
    | .finite x, .finite y =>
      if stickMaxInput < hypot x y then
        (arbiter.zeroTarget "invalid_input", some ⟨"invalid_input", "摇杆输入超出范围"⟩)
      else if yaw ∉ [-1, 0, 1] then
        (arbiter.zeroTarget "invalid_input", some ⟨"invalid_input", "转向输入无效"⟩)
      else
        let stick := shapeStick x y
        if (stick.1 ≠ 0 ∨ stick.2 ≠ 0) ∧ yaw ≠ 0 then
          (arbiter.zeroTarget "mixed_input_rejected",
            some ⟨"mixed_input_rejected", "平移与原地转向不能同时进行"⟩)
        else
          match gearNamed config arbiter.gear with
          | none => (arbiter, none)
          | some gear => (arbiter.accept gear stick yaw now, none)
    | _, _ => (arbiter.zeroTarget "invalid_input", some ⟨"invalid_input", "摇杆输入超出范围"⟩)

def halt : DriveArbiter C K :=
  if arbiter.holder = some session then arbiter.zeroTarget "stick_released" else arbiter

def setGear (gear : String) : DriveArbiter C K × Option TeleopError :=
  if arbiter.holder ≠ some session then (arbiter, some leaseRequired)
  else if (gearNamed config gear).isNone then
    (arbiter, some ⟨"unknown_gear", "未知档位: " ++ gear⟩)
  else if arbiter.moving then
    (arbiter, some ⟨"gear_change_while_moving", "停车后才能换档"⟩)
  else ({ arbiter with gear := gear }, none)

def resetMotion (reason : String) : DriveArbiter C K :=
  { arbiter with
    target := 0
    linear := .reset
    angular := .reset
    lastInput := none
    stoppingFast := false
    trailingZeros := trailingZeroCount
    stopReason := reason }

def tickDt (now : K) : K :=
  match arbiter.lastTick with
  | none => 0
  | some lastTick => min (max (now - lastTick) 0) maxTickDtS

def inputExpired (now : K) : Bool :=
  match arbiter.lastInput with
  | none => true
  | some lastInput => config.commandTimeout < now - lastInput

def watchdog (now : K) : DriveArbiter C K :=
  if arbiter.holder.isSome && arbiter.target ≠ 0 && arbiter.inputExpired config now then
    arbiter.endLease "command_timeout" false
  else arbiter

def follow (dt : K) : DriveArbiter C K :=
  if 0 < dt then
    { arbiter with
      linear := arbiter.linear.step ![arbiter.target.1, arbiter.target.2.1] dt
        config.limits.linear arbiter.stoppingFast
      angular := arbiter.angular.step ![arbiter.target.2.2] dt config.limits.angular
        arbiter.stoppingFast }
  else arbiter

/-- A fast stop ends when the profile has come to zero. -/
def settle : DriveArbiter C K :=
  if arbiter.command = 0 then { arbiter with stoppingFast := false } else arbiter

/-- The command of an advanced profile, if one is published. -/
def publish : DriveArbiter C K × Option (Command K) :=
  if arbiter.holder.isSome || arbiter.command ≠ 0 then
    (if arbiter.holder.isNone then { arbiter with trailingZeros := trailingZeroCount } else arbiter,
      some arbiter.command)
  else if 0 < arbiter.trailingZeros then
    ({ arbiter with trailingZeros := arbiter.trailingZeros - 1 }, some 0)
  else (arbiter, none)

def tick (now : K) : DriveArbiter C K × Option (Command K) :=
  (({ arbiter with lastTick := some now }.watchdog config now).follow config
    (arbiter.tickDt now)).settle.publish

end DriveArbiter

end RobotDriver.OperatorWeb.Teleop
