import Mathlib.Analysis.SpecialFunctions.Pow.Real
import RobotDriver.Lib.JerkMotion

/-!
# Jerk-limited trajectories

`arm/trajectory.py`: S-curves along a straight line in joint space. All
joints share one path parameter, the distance travelled by the joint that moves farthest. Square and
cube roots enter through `RootMath`.
-/

namespace RobotDriver.OperatorWeb.Trajectory

open JerkMotion

class RootMath (K : Type*) where
  sqrt : K → K
  cbrt : K → K

open RootMath

noncomputable instance : RootMath ℝ where
  sqrt := Real.sqrt
  cbrt x := x ^ (1 / 3 : ℝ)

variable {K : Type*} [Field K] [LinearOrder K]

def epsilon : K := 1 / 1000000000000

/-- Path limits; `__post_init__` lets only positive ones through. -/
structure Limits (K : Type*) [Zero K] [LT K] where
  velocity : K
  acceleration : K
  jerk : K
  velocity_pos : 0 < velocity
  acceleration_pos : 0 < acceleration
  jerk_pos : 0 < jerk

/-- Segments of a duration and a jerk, on the path parameter. -/
structure Profile (K : Type*) [Zero K] where
  segments : List (K × K) := []
  initialVelocity : K := 0
  initialAcceleration : K := 0

namespace Profile

def duration (profile : Profile K) : K := total profile.segments

def sampleLoop : List (K × K) → K → State K → State K
  | [], _, s => s
  | (duration, jerk) :: rest, remaining, s =>
    let step := min duration remaining
    let s := s.advance jerk step
    let remaining := remaining - step
    if remaining ≤ 0 then s else sampleLoop rest remaining s

def initial (profile : Profile K) : State K :=
  ⟨0, profile.initialVelocity, profile.initialAcceleration⟩

/-- Position, velocity and acceleration on the path, clamped to the profile. -/
def sample (profile : Profile K) (time : K) : State K :=
  let remaining := min (max time 0) profile.duration
  let s := sampleLoop profile.segments remaining profile.initial
  if profile.duration ≤ time then ⟨s.position, 0, 0⟩ else s

end Profile

/-- `_segments`. -/
def segments (items : List (K × K)) : List (K × K) := items.filter fun item => epsilon < item.1

/-- The times of the phases of an S-curve: ramp, hold and cruise. -/
structure Phases (K : Type*) where
  ramp : K
  hold : K
  cruise : K

def phases [RootMath K] (distance : K) (limits : Limits K) : Phases K :=
  let v := limits.velocity
  let a := limits.acceleration
  let j := limits.jerk
  -- the acceleration limit is reached before the velocity limit, or it is not
  let (ramp, accelTime) :=
    if a * a ≤ v * j then (a / j, a / j + v / a) else (sqrt (v / j), 2 * sqrt (v / j))
  let cruise := distance / v - accelTime
  let (ramp, accelTime, cruise) :=
    if cruise < 0 then
      -- the velocity limit is not reached
      let ramp := a / j
      let accelTime := (a * a / j + sqrt (a ^ 4 / j ^ 2 + 4 * a * distance)) / (2 * a)
      if accelTime < 2 * ramp then
        let ramp := cbrt (distance / (2 * j))
        (ramp, 2 * ramp, 0)
      else (ramp, accelTime, 0)
    else (ramp, accelTime, cruise)
  ⟨ramp, max (accelTime - 2 * ramp) 0, cruise⟩

/-- The seven segments of an S-curve. -/
def Phases.items (p : Phases K) (jerk : K) : List (K × K) :=
  [(p.ramp, jerk), (p.hold, 0), (p.ramp, -jerk), (p.cruise, 0), (p.ramp, -jerk), (p.hold, 0),
    (p.ramp, jerk)]

def scurve [RootMath K] (distance : K) (limits : Limits K) : Except String (Profile K) :=
  if distance < 0 then .error "distance must be finite and non-negative"
  else if distance ≤ epsilon then .ok {}
  else .ok { segments := segments ((phases distance limits).items limits.jerk) }

structure TrajectoryPoint (K : Type*) where
  time : K
  positions : List K
  velocities : List K
  accelerations : List K

/-- A path profile applied to the line `origin + direction * u`. -/
structure Plan (K : Type*) [Zero K] where
  origin : List K
  direction : List K
  profile : Profile K

namespace Plan

def duration (plan : Plan K) : K := plan.profile.duration

def state (plan : Plan K) (time : K) : TrajectoryPoint K :=
  let s := plan.profile.sample time
  { time
    positions := List.zipWith (fun o d => o + d * s.position) plan.origin plan.direction
    velocities := plan.direction.map fun d => d * s.velocity
    accelerations := plan.direction.map fun d => d * s.acceleration }

def start (plan : Plan K) : List K := (plan.state 0).positions

def target (plan : Plan K) : List K := (plan.state plan.duration).positions

end Plan

/-- The largest distance that a joint has to move. -/
def largest (delta : List K) : K := (delta.map abs).foldr max 0

def planMove [RootMath K] (start target : List K) (limits : Limits K) : Except String (Plan K) :=
  if start.length ≠ target.length ∨ start = [] then
    .error "start and target must have the same non-zero length"
  else
    let delta := List.zipWith (fun origin goal => goal - origin) start target
    let distance := largest delta
    if distance ≤ epsilon then .ok ⟨start, delta.map fun _ => 0, {}⟩
    else do
      let profile ← scurve distance limits
      return ⟨start, delta.map fun d => d / distance, profile⟩

end RobotDriver.OperatorWeb.Trajectory
