import Mathlib.Data.Rat.Sqrt
import RobotDriver.Lib.LabelledRun
import RobotDriver.OperatorWeb.Leases
import RobotDriver.OperatorWeb.Teleop

/-!
# Zero commands before silence

`publish_command` first asks whether the chassis may move, then advances the arbiter, then
publishes; the methods of the arbiter run between these steps from other threads. As long as the
last Twist is not zero, the arbiter has a holder or owes trailing zeros, so an allowed tick that
publishes nothing follows a zero. A tick that is not allowed publishes nothing at any speed.
-/

namespace RobotDriver.OperatorWeb.Teleop

open LabelledRun

variable {C K : Type*}

/-- `pending` is a command between `tick` and its publication, `last` the last Twist. -/
structure OperatorWebNode (C K : Type*) where
  arbiter : DriveArbiter C K
  now : K
  checked : Bool := false
  pending : Option (Command K) := none
  last : Option (Command K) := none

inductive NodeEvent (C K : Type*)
  | advance (now : K)
  | acquire (session : C)
  | release (session : C)
  | disconnect (session : C)
  | softStop (reason : String)
  | drive (session : C) (x y : Double K) (yaw : ℤ)
  | halt (session : C)
  | setGear (session : C) (gear : String)
  | resetMotion (reason : String)
  | publishZero
  | checkAllowed (allowed : Bool)
  | tick
  | publish

variable [DecidableEq C] [Field K] [LinearOrder K] [StickMath K]

namespace OperatorWebNode

variable (config : TeleopConfig K) (s : OperatorWebNode C K)

/-- The start of `publish_command`, one call at a time. -/
def checkAllowed (allowed : Bool) : OperatorWebNode C K :=
  if s.checked || s.pending.isSome then s
  else if allowed then { s with checked := true }
  else { s with arbiter := s.arbiter.resetMotion "chassis_not_enabled" }

def tick : OperatorWebNode C K :=
  if s.checked then
    { s with
      arbiter := (s.arbiter.tick config s.now).1
      checked := false
      pending := (s.arbiter.tick config s.now).2 }
  else s

def publish : OperatorWebNode C K :=
  match s.pending with
  | none => s
  | some command => { s with pending := none, last := some command }

def step : NodeEvent C K → OperatorWebNode C K
  | .advance now => if s.now ≤ now then { s with now := now } else s
  | .acquire session => { s with arbiter := (s.arbiter.acquire session).1 }
  | .release session => { s with arbiter := s.arbiter.release session }
  | .disconnect session => { s with arbiter := s.arbiter.disconnect session }
  | .softStop reason => { s with arbiter := s.arbiter.softStop reason }
  | .drive session x y yaw =>
    { s with arbiter := (s.arbiter.drive config session x y yaw s.now).1 }
  | .halt session => { s with arbiter := s.arbiter.halt session }
  | .setGear session gear => { s with arbiter := (s.arbiter.setGear config session gear).1 }
  | .resetMotion reason => { s with arbiter := s.arbiter.resetMotion reason }
  | .publishZero => { s with last := some 0 }
  | .checkAllowed allowed => s.checkAllowed allowed
  | .tick => s.tick config
  | .publish => s.publish

def initial (now : K) : OperatorWebNode C K where
  arbiter := .initial config
  now

end OperatorWebNode

/-- A tick of the publisher that publishes nothing. -/
def Silent (config : TeleopConfig K) (s : OperatorWebNode C K) : NodeEvent C K → Prop
  | .checkAllowed allowed => s.checked = false ∧ s.pending = none ∧ allowed = false
  | .tick => s.checked = true ∧ (s.arbiter.tick config s.now).2 = none
  | _ => False

def AtRest (last : Option (Command K)) : Prop := ∀ command, last = some command → command = 0

/-- A tick of the publisher that finds the chassis not allowed to move. -/
def NotAllowed (s : OperatorWebNode C K) : NodeEvent C K → Prop
  | .checkAllowed allowed => s.checked = false ∧ s.pending = none ∧ allowed = false
  | _ => False

namespace DriveArbiter

variable {config : TeleopConfig K} {arbiter : DriveArbiter C K}

/-- The next ticks still publish. -/
def Trails (arbiter : DriveArbiter C K) : Prop :=
  arbiter.holder.isSome = true ∨ 0 < arbiter.trailingZeros

theorem trailingZeroCount_pos : 0 < trailingZeroCount := by decide

omit [DecidableEq C] [LinearOrder K] [StickMath K] in
theorem Trails.endLease (h : arbiter.Trails) (reason : String) (fast : Bool) :
    (arbiter.endLease reason fast).Trails := by
  right
  simp only [DriveArbiter.endLease]
  split_ifs with hheld
  · exact trailingZeroCount_pos
  · rcases h with hholder | hzeros
    · simp [hholder] at hheld
    · exact hzeros

omit [LinearOrder K] [StickMath K] in
theorem Trails.acquire (h : arbiter.Trails) (session : C) : (arbiter.acquire session).1.Trails := by
  unfold DriveArbiter.acquire
  split
  · split_ifs <;> exact h
  · exact .inl rfl

omit [LinearOrder K] [StickMath K] in
theorem Trails.release (h : arbiter.Trails) (session : C) : (arbiter.release session).Trails := by
  unfold DriveArbiter.release
  split_ifs
  · exact h.endLease _ _
  · exact h

omit [LinearOrder K] [StickMath K] in
theorem Trails.disconnect (h : arbiter.Trails) (session : C) :
    (arbiter.disconnect session).Trails := by
  unfold DriveArbiter.disconnect
  split_ifs
  · exact h.endLease _ _
  · exact h

omit [DecidableEq C] [LinearOrder K] [StickMath K] in
theorem trails_softStop (reason : String) : (arbiter.softStop reason).Trails :=
  .inr trailingZeroCount_pos

omit [DecidableEq C] [LinearOrder K] [StickMath K] in
theorem trails_resetMotion (reason : String) : (arbiter.resetMotion reason).Trails :=
  .inr trailingZeroCount_pos

theorem Trails.drive (h : arbiter.Trails) (session : C) (x y : Double K) (yaw : ℤ) (now : K) :
    (arbiter.drive config session x y yaw now).1.Trails := by
  unfold DriveArbiter.drive
  split
  · exact h
  · split
    · dsimp only
      split
      · exact h
      · split
        · exact h
        · split
          · exact h
          · split <;> exact h
    · exact h

omit [LinearOrder K] [StickMath K] in
theorem Trails.halt (h : arbiter.Trails) (session : C) : (arbiter.halt session).Trails := by
  unfold DriveArbiter.halt
  split_ifs <;> exact h

omit [StickMath K] in
theorem Trails.setGear (h : arbiter.Trails) (session : C) (gear : String) :
    (arbiter.setGear config session gear).1.Trails := by
  unfold DriveArbiter.setGear
  split_ifs <;> exact h

omit [DecidableEq C] [StickMath K] in
theorem Trails.watchdog (h : arbiter.Trails) (now : K) :
    (arbiter.watchdog config now).Trails := by
  unfold DriveArbiter.watchdog
  split_ifs
  · exact h.endLease _ _
  · exact h

omit [DecidableEq C] in
theorem Trails.follow (h : arbiter.Trails) (dt : K) : (arbiter.follow config dt).Trails := by
  unfold DriveArbiter.follow
  split_ifs <;> exact h

omit [DecidableEq C] [StickMath K] in
theorem Trails.settle (h : arbiter.Trails) : arbiter.settle.Trails := by
  unfold DriveArbiter.settle
  split_ifs <;> exact h

omit [DecidableEq C] [StickMath K] in
theorem trails_publish {command : Command K} (h : arbiter.publish.2 = some command)
    (hmoving : command ≠ 0) : arbiter.publish.1.Trails := by
  unfold publish at h ⊢
  split_ifs at h ⊢ with hpublished hfree hzeros
  · exact .inr trailingZeroCount_pos
  · exact .inl (by simpa [Option.isSome_iff_ne_none] using hfree)
  · exact absurd (Option.some.inj h).symm hmoving

omit [DecidableEq C] [StickMath K] in
theorem publish_of_trails (h : arbiter.Trails) : arbiter.publish.2 ≠ none := by
  unfold publish
  split_ifs with hpublished hfree hzeros
  · exact Option.some_ne_none _
  · exact Option.some_ne_none _
  · exact Option.some_ne_none _
  · rcases h with hholder | hcount
    · simp [hholder] at hpublished
    · exact absurd hcount hzeros

omit [DecidableEq C] in
theorem Trails.tick (h : arbiter.Trails) (now : K) : (arbiter.tick config now).2 ≠ none := by
  have hticked : Trails { arbiter with lastTick := some now } := h
  exact publish_of_trails ((hticked.watchdog now).follow _).settle

end DriveArbiter

namespace OperatorWebNode

variable {config : TeleopConfig K} {s : OperatorWebNode C K}

/-- A Twist that moves, published or about to be, is followed by further ticks that publish. -/
structure Trailed (s : OperatorWebNode C K) : Prop where
  last : s.pending = none → ¬AtRest s.last → s.arbiter.Trails
  pending : ∀ command, s.pending = some command → command ≠ 0 → s.arbiter.Trails
  idle : s.checked = true → s.pending = none

omit [DecidableEq C] [LinearOrder K] [StickMath K] in
theorem Trailed.arbiter (h : s.Trailed) {arbiter : DriveArbiter C K}
    (harbiter : s.arbiter.Trails → arbiter.Trails) : Trailed { s with arbiter := arbiter } :=
  ⟨fun hpending hlast => harbiter (h.last hpending hlast),
    fun command hpending hmoving => harbiter (h.pending command hpending hmoving), h.idle⟩

theorem Trailed.step (h : s.Trailed) (event : NodeEvent C K) : (s.step config event).Trailed := by
  cases event with
  | advance now =>
    simp only [OperatorWebNode.step]
    split
    · exact ⟨h.last, h.pending, h.idle⟩
    · exact h
  | acquire session => exact h.arbiter fun ht => ht.acquire session
  | release session => exact h.arbiter fun ht => ht.release session
  | disconnect session => exact h.arbiter fun ht => ht.disconnect session
  | softStop reason => exact h.arbiter fun _ => DriveArbiter.trails_softStop reason
  | drive session x y yaw => exact h.arbiter fun ht => ht.drive session x y yaw s.now
  | halt session => exact h.arbiter fun ht => ht.halt session
  | setGear session gear => exact h.arbiter fun ht => ht.setGear session gear
  | resetMotion reason => exact h.arbiter fun _ => DriveArbiter.trails_resetMotion reason
  | publishZero =>
    refine ⟨fun _ hlast => absurd ?_ hlast, h.pending, h.idle⟩
    intro command hcommand
    exact (Option.some.inj hcommand).symm
  | checkAllowed allowed =>
    simp only [OperatorWebNode.step, OperatorWebNode.checkAllowed]
    split_ifs with hbusy
    · exact h
    · have hfree : s.checked = false ∧ s.pending = none := by simpa using hbusy
      exact ⟨h.last, h.pending, fun _ => hfree.2⟩
    · exact h.arbiter fun _ => DriveArbiter.trails_resetMotion _
  | tick =>
    simp only [OperatorWebNode.step, OperatorWebNode.tick]
    split
    · refine ⟨fun hpending hlast => ?_, fun command hpending hmoving =>
        DriveArbiter.trails_publish hpending hmoving, nofun⟩
      exact absurd hpending ((h.last (h.idle ‹_›) hlast).tick s.now)
    · exact h
  | publish =>
    simp only [OperatorWebNode.step, OperatorWebNode.publish]
    split
    · exact h
    · rename_i command hpending
      refine ⟨fun _ hlast => h.pending command hpending fun hzero => hlast ?_, nofun, fun _ => rfl⟩
      intro other hother
      rw [← Option.some.inj hother]
      exact hzero

variable (config)

omit [DecidableEq C] [StickMath K] in
theorem trailed_initial (now : K) : (initial config now : OperatorWebNode C K).Trailed :=
  ⟨fun _ hlast => absurd (fun _ => nofun) hlast, nofun, nofun⟩

/-- The publisher never goes silent at speed exactly if the chassis is never found not allowed
to move at speed. -/
theorem silent_at_rest_iff (now : K) (events : List (NodeEvent C K)) :
    Along (step config) (fun s event => Silent config s event → AtRest s.last)
        (initial config now) events ↔
      Along (step config) (fun s event => NotAllowed s event → AtRest s.last)
        (initial config now) events := by
  refine along_congr (along_of_invariant (P := Trailed) (fun s event h => h.step event) ?_
    (trailed_initial config now) events)
  intro s event h
  cases event with
  | checkAllowed allowed => exact Iff.rfl
  | tick =>
    refine ⟨fun _ => nofun, fun _ ⟨hchecked, hsilent⟩ => ?_⟩
    by_contra hmoving
    exact (h.last (h.idle hchecked) hmoving).tick s.now hsilent
  | _ => exact Iff.rfl

end OperatorWebNode

section LostEnable

/-- Square roots of squares, and the directions of the positive axis, are exact. -/
instance : StickMath ℚ where
  sqrt := Rat.sqrt
  hypot x y := Rat.sqrt (x * x + y * y)
  atan2 _ _ := 0
  cos _ := 1
  sin _ := 0
  pi := 355 / 113

def turningConfig : TeleopConfig ℚ where
  gears := [("leisure", ⟨1 / 20, 1 / 10⟩)]
  limits := ⟨⟨3 / 10, 1 / 2, 1, 2⟩, ⟨3 / 5, 1, 2, 5⟩⟩
  commandTimeout := commandTimeoutS
  gears_ne := by decide
  gears_pos := by decide +kernel
  limits_pos := by decide +kernel
  commandTimeout_pos := by decide +kernel

def turningEvents : List (NodeEvent String ℚ) :=
  [.acquire "a", .checkAllowed true, .tick, .publish, .drive "a" (.finite 0) (.finite 0) 1,
    .advance (1 / 50), .checkAllowed true, .tick, .publish]

/-- A chassis that leaves the enabled state while it turns is sent no zero. -/
theorem lost_enable_silent_at_speed :
    ¬Along (OperatorWebNode.step turningConfig)
      (fun s event => Silent turningConfig s event → AtRest s.last)
      (OperatorWebNode.initial turningConfig 0) (turningEvents ++ [.checkAllowed false]) := by
  intro h
  have hlast := ((along_append _ _ _).1 h).2.1
  refine absurd (hlast ⟨?_, ?_, rfl⟩ (0, 0, 1 / 500) ?_) ?_ <;> decide +kernel

end LostEnable

end RobotDriver.OperatorWeb.Teleop
