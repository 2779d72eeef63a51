import RobotDriver.Swerve.ControlCore

/-!
# Heading over source changes

The heading accumulated over arbitrary patterns of IMU samples, with wheels that report the true
rotation of every cycle. The cycle in which a sample returns anchors the IMU and adds nothing.
-/

noncomputable section

namespace RobotDriver.Swerve

/-- One observed cycle, with the members that the control step before it has set. -/
structure ObservedCycle where
  active : Bool
  holdingModules : Module → Bool
  lastSteeringTargets : Module → Option ℝ
  feedback : Module → ModuleFeedback
  imu : Option YawSample

namespace ObservedCycle

variable (cycle : ObservedCycle) (core : ControlCore)

def prepared : ControlCore :=
  { core with
    active := cycle.active
    holdingModules := cycle.holdingModules
    lastSteeringTargets := cycle.lastSteeringTargets }

def wheelDelta : Option ChassisDelta := (cycle.prepared core).wheelDelta cycle.feedback

def observe : ControlCore := (cycle.prepared core).observe cycle.feedback cycle.imu

def fresh : Prop := (freshImu cycle.imu).isSome

end ObservedCycle

theorem wrapPi_add_turns {angle : ℝ} (h : |angle| < Real.pi) (turns : ℤ) :
    wrapPi (angle + turns * (2 * Real.pi)) = angle := by
  rw [wrapPi, Real.sin_add_int_mul_two_pi, Real.cos_add_int_mul_two_pi]
  exact wrapPi_of_abs_lt h

namespace ControlCore

/-- The core after `n` cycles. -/
def observed (core : ControlCore) (cycles : ℕ → ObservedCycle) : ℕ → ControlCore
  | 0 => core
  | n + 1 => (cycles n).observe (observed core cycles n)

/-- The cycle before brought no sample. -/
def fallbackBefore (core : ControlCore) (cycles : ℕ → ObservedCycle) : ℕ → Prop
  | 0 => core.imuFallback = true
  | n + 1 => ¬(cycles n).fresh

/-- The reported yaw is the true one and an offset, up to whole turns. -/
def Reports (offset trueYaw yaw : ℝ) : Prop :=
  ∃ turns : ℤ, yaw = trueYaw + offset + turns * (2 * Real.pi)

structure TrueMotion where
  initialYaw : ℝ
  offset : ℝ
  rotation : ℕ → ℝ

def TrueMotion.yaw (motion : TrueMotion) (n : ℕ) : ℝ :=
  motion.initialYaw + ∑ k ∈ Finset.range n, motion.rotation k

theorem TrueMotion.yaw_succ (motion : TrueMotion) (n : ℕ) :
    motion.yaw (n + 1) = motion.yaw n + motion.rotation n := by
  rw [TrueMotion.yaw, Finset.sum_range_succ, ← add_assoc, TrueMotion.yaw]

/-- What the wheels and the IMU report is consistent with a true motion. -/
structure Consistent (core : ControlCore) (cycles : ℕ → ObservedCycle) (motion : TrueMotion) :
    Prop where
  odometry : core.odometry.isSome
  anchored : core.imuFallback = false → Reports motion.offset (motion.yaw 0) core.lastImuYaw
  wheels : ∀ n, ∃ delta, (cycles n).wheelDelta (core.observed cycles n) = some delta ∧
    delta.dtheta = motion.rotation n
  imu : ∀ n yaw rate, freshImu (cycles n).imu = some (yaw, rate) →
    Reports motion.offset (motion.yaw (n + 1)) yaw
  rotation : ∀ n, |motion.rotation n| < Real.pi

variable {core : ControlCore} {cycles : ℕ → ObservedCycle} {motion : TrueMotion}

/-- What one cycle leaves behind once there is an odometry. -/
structure Observes (core : ControlCore) (cycle : ObservedCycle) : Prop where
  config : (cycle.observe core).config = core.config
  odometry : (cycle.observe core).odometry.isSome
  previousPositions : (cycle.observe core).previousPositions = fun index =>
    if ((cycle.prepared core).positions cycle.feedback index).valid then
      (cycle.prepared core).positions cycle.feedback index
    else core.previousPositions index
  yaw : (cycle.observe core).yaw = (cycle.prepared core).observedYaw cycle.feedback cycle.imu
  lastImuYaw : (cycle.observe core).lastImuYaw = (freshImu cycle.imu).elim core.lastImuYaw (·.1)
  imuFallback : (cycle.observe core).imuFallback = (freshImu cycle.imu).isNone

theorem observe_of_odometry (cycle : ObservedCycle) (h : core.odometry.isSome) :
    core.Observes cycle := by
  obtain ⟨odometry, hodometry⟩ := Option.isSome_iff_exists.1 h
  have hprepared : (cycle.prepared core).odometry = some odometry := hodometry
  constructor <;>
  · unfold ObservedCycle.observe observe
    split
    · rename_i hnone
      rw [hprepared] at hnone
      cases hnone
    · rfl

variable (core cycles motion) in
/-- The IMU is anchored at the true yaw whenever the cycle before brought a sample. -/
structure Anchored (n : ℕ) : Prop where
  odometry : (core.observed cycles n).odometry.isSome
  fallback : (core.observed cycles n).imuFallback = true ↔ core.fallbackBefore cycles n
  anchor : (core.observed cycles n).imuFallback = false →
    Reports motion.offset (motion.yaw n) (core.observed cycles n).lastImuYaw

theorem anchored (h : core.Consistent cycles motion) (n : ℕ) : core.Anchored cycles motion n := by
  induction n with
  | zero => exact ⟨h.odometry, Iff.rfl, h.anchored⟩
  | succ n ih =>
    have hnext := observe_of_odometry (cycles n) ih.odometry
    refine ⟨hnext.odometry, ?_, ?_⟩
    · rw [observed, hnext.imuFallback, fallbackBefore, ObservedCycle.fresh]
      simp
    · rw [observed, hnext.imuFallback, hnext.lastImuYaw]
      intro hfresh
      cases himu : freshImu (cycles n).imu with
      | none => simp [himu] at hfresh
      | some sample => exact h.imu n sample.1 sample.2 himu

theorem observed_yaw_succ (h : core.Consistent cycles motion) (n : ℕ) :
    (core.observed cycles (n + 1)).yaw = (core.observed cycles n).yaw + motion.rotation n ↔
      ((cycles n).fresh → core.fallbackBefore cycles n → motion.rotation n = 0) := by
  have hn := anchored h n
  rw [observed, (observe_of_odometry (cycles n) hn.odometry).yaw]
  cases himu : freshImu (cycles n).imu with
  | none =>
    obtain ⟨delta, hdelta, hrotation⟩ := h.wheels n
    have hwheel : ((cycles n).prepared (core.observed cycles n)).wheelDelta (cycles n).feedback =
        some delta := hdelta
    have hfresh : ¬(cycles n).fresh := by simp [ObservedCycle.fresh, himu]
    rw [observedYaw_of_wheels himu, hwheel, Option.elim_some, hrotation]
    exact iff_of_true rfl fun hn => absurd hn hfresh
  | some sample =>
    obtain ⟨yaw, rate⟩ := sample
    have hfresh : (cycles n).fresh := by simp [ObservedCycle.fresh, himu]
    rw [← hn.fallback]
    cases hfallback : (core.observed cycles n).imuFallback with
    | true =>
      have hprepared : ((cycles n).prepared (core.observed cycles n)).imuFallback = true := hfallback
      rw [observedYaw_of_anchor himu hprepared]
      simp [ObservedCycle.prepared, hfresh]
    | false =>
      obtain ⟨turns, hsample⟩ := h.imu n yaw rate himu
      obtain ⟨turns', hlast⟩ := hn.anchor hfallback
      have hdifference : yaw - (core.observed cycles n).lastImuYaw =
          motion.rotation n + ((turns - turns' : ℤ) : ℝ) * (2 * Real.pi) := by
        rw [hsample, hlast, TrueMotion.yaw_succ]
        push_cast
        ring
      have hprepared : ((cycles n).prepared (core.observed cycles n)).imuFallback = false := hfallback
      rw [observedYaw_of_imu himu hprepared]
      have hrotation : wrapPi (yaw - (core.observed cycles n).lastImuYaw) = motion.rotation n := by
        rw [hdifference, wrapPi_add_turns (h.rotation n)]
      simp [ObservedCycle.prepared, hrotation]

end ControlCore

/-- Four modules on the axes, at unit distance and tangential, turning on the spot. -/
structure Spin where
  rotation : ℕ → ℝ
  sampled : ℕ → Bool
  rotation_lt : ∀ n, |rotation n| < Real.pi

namespace Spin

def steering : Module → ℝ := ![Real.pi / 2, Real.pi / 2, 0, 0]

def sign : Module → ℝ := ![1, -1, -1, 1]

def config : CoreConfig where
  locations := crossing
  wheelRadius _ := 1
  steeringMin _ := -Real.pi
  steeringMax _ := Real.pi
  steeringLimitMargin _ := 0
  steeringLimitTolerance _ := 0
  maxEncoderDifference := 1
  slipResidualThreshold := 1
  wheelRadius_pos _ := Real.zero_lt_one
  maxEncoderDifference_pos := Real.zero_lt_one
  slipResidualThreshold_pos := Real.zero_lt_one
  steeringLimits_valid _ := by
    have := Real.pi_pos
    refine ⟨le_rfl, le_rfl, ?_, ?_⟩
    · norm_num
      linarith
    · linarith

def position (yaw : ℝ) (index : Module) : SwerveModulePosition :=
  ⟨sign index * yaw, steering index, true, false⟩

variable (s : Spin)

def motion : ControlCore.TrueMotion := ⟨0, 0, s.rotation⟩

def core : ControlCore where
  config := config
  odometry := some (.reset crossing {} 0 (position 0))
  previousPositions := position 0
  lastSteeringTargets index := some (steering index)
  holdingModules _ := true
  output := {}
  yaw := 0
  lastImuYaw := 0
  active := true
  imuFallback := true

def cycle (n : ℕ) : ObservedCycle where
  active := true
  holdingModules _ := false
  lastSteeringTargets index := some (steering index)
  feedback index := ⟨some (steering index), some (sign index * s.motion.yaw (n + 1)),
    some (sign index * s.rotation n), true, true⟩
  imu := if s.sampled n then some ⟨some (s.motion.yaw (n + 1)), some (s.rotation n)⟩ else none

theorem steering_within (index : Module) :
    -Real.pi ≤ steering index ∧ steering index ≤ Real.pi := by
  have := Real.pi_pos
  refine ⟨?_, ?_⟩ <;> fin_cases index <;> simp [steering] <;> linarith

theorem sin_steering_add (index : Module) (r : ℝ) :
    sign index * r * Real.cos (steering index) = -r * (crossing index).y ∧
      sign index * r * Real.sin (steering index) = r * (crossing index).x := by
  fin_cases index <;> simp [steering, sign, crossing]

theorem positions_prepared {core : ControlCore} (h : core.config = config) (n : ℕ) :
    ((s.cycle n).prepared core).positions (s.cycle n).feedback =
      position (s.motion.yaw (n + 1)) := by
  funext index
  obtain ⟨hlower, hupper⟩ := steering_within index
  have hlimits : validSteeringAngleLimits (config.steeringLimits index) :=
    config.steeringLimits_valid index
  have hwithin : steeringAngleWithinLimits (steering index) (config.steeringLimits index) :=
    ⟨hlimits, by simpa [config, CoreConfig.steeringLimits] using hlower,
      by simpa [config, CoreConfig.steeringLimits] using hupper⟩
  have htolerance : steeringMeasurementWithinTolerance (steering index)
      (config.steeringLimits index) :=
    ⟨hlimits, by simpa [config, CoreConfig.steeringLimits] using hlower,
      by simpa [config, CoreConfig.steeringLimits] using hupper⟩
  have hclamp : clampSteeringMeasurementToSafeRange (steering index)
      (config.steeringLimits index) = steering index := by
    simp [clampSteeringMeasurementToSafeRange, config, CoreConfig.steeringLimits, hlower, hupper]
  have hradius : config.wheelRadius index = 1 := rfl
  simp [ControlCore.positions, ControlCore.moduleReady, ControlCore.angleValid,
    ControlCore.holdConsistent, ControlCore.measurementValid, h, cycle, position,
    ObservedCycle.prepared, hwithin, htolerance, hclamp, hradius]

theorem normal_eq (r : ℝ) :
    (List.finRange moduleCount).foldl (fun normal index => accumulateModule (crossing index)
      (sign index * r * Real.cos (steering index)) (sign index * r * Real.sin (steering index))
      normal) (fun _ _ => 0) =
      ![![4, 0, 0, 0], ![0, 4, 0, 0], ![0, 0, 4, 4 * r]] := by
  have hmodules : List.finRange moduleCount = [0, 1, 2, 3] := by decide
  rw [hmodules]
  funext row entry
  fin_cases row <;> fin_cases entry <;>
    simp [accumulateModule, accumulateObservation, crossing, sign, steering] <;> ring

theorem solve_normal (r : ℝ) :
    solveThreeByThree ![![4, 0, 0, 0], ![0, 4, 0, 0], ![0, 0, 4, 4 * r]] = some ![0, 0, r] := by
  rw [solveThreeByThree_diagonal (by norm_num)]
  congr 1
  funext row
  fin_cases row <;> simp

theorem checkSlip_prepared {core : ControlCore} (h : core.config = config) (n : ℕ) :
    (((s.cycle n).prepared core).checkSlip (s.cycle n).feedback).slippingModules =
      fun _ => false := by
  have hpositions := s.positions_prepared h n
  have hmeasured : ((s.cycle n).prepared core).measured (s.cycle n).feedback =
      fun index => ⟨sign index * s.rotation n, steering index, true⟩ := by
    funext index
    have hspeed : sign index * s.rotation n * core.config.wheelRadius index =
        sign index * s.rotation n := by
      rw [h]
      exact mul_one _
    unfold ControlCore.measured
    rw [hpositions]
    exact congrArg (SwerveModuleMeasurement.mk · (steering index) true) hspeed
  have hobservations : velocityObservations (fun index =>
      ⟨sign index * s.rotation n, steering index, true⟩) = fun index =>
        ⟨sign index * s.rotation n * Real.cos (steering index),
          sign index * s.rotation n * Real.sin (steering index), true⟩ := by
    funext index
    simp [velocityObservations]
  have hsolve : solveWithMask (velocityObservations fun index =>
      ⟨sign index * s.rotation n, steering index, true⟩) crossing (List.finRange moduleCount) =
        some ![0, 0, s.rotation n] := by
    rw [hobservations, solveWithMask, normal_eq, solve_normal]
  have hresidual : ∀ index, moduleResidual (velocityObservations (fun index =>
      ⟨sign index * s.rotation n, steering index, true⟩) index) (crossing index)
        ![0, 0, s.rotation n] ≤ 1 := by
    intro index
    obtain ⟨hx, hy⟩ := sin_steering_add index (s.rotation n)
    rw [hobservations]
    simp [moduleResidual, hx, hy]
  obtain ⟨fit, hfit, hslipping⟩ :=
    chassisSpeedsWithSlipRejection_of_consistent (fun _ => rfl) hsolve hresidual
  have hlocations : ((s.cycle n).prepared core).config.locations = crossing :=
    congrArg CoreConfig.locations h
  have hthreshold : ((s.cycle n).prepared core).config.slipResidualThreshold = 1 :=
    congrArg CoreConfig.slipResidualThreshold h
  unfold ControlCore.checkSlip
  rw [hmeasured, hlocations, hthreshold, hfit]
  exact hslipping

theorem odometryPositions_prepared {core : ControlCore} (h : core.config = config) (n : ℕ) :
    ((s.cycle n).prepared core).odometryPositions (s.cycle n).feedback =
      position (s.motion.yaw (n + 1)) := by
  funext index
  rw [ControlCore.odometryPositions, checkSlip_prepared s h, positions_prepared s h]
  rfl

theorem wheelDelta_prepared {core : ControlCore} (h : core.config = config) (n : ℕ)
    (hprevious : core.previousPositions = position (s.motion.yaw n)) :
    (s.cycle n).wheelDelta core = some ⟨0, 0, s.rotation n⟩ := by
  have hlocations : ((s.cycle n).prepared core).config.locations = crossing :=
    congrArg CoreConfig.locations h
  have hprepared : ((s.cycle n).prepared core).previousPositions = position (s.motion.yaw n) :=
    hprevious
  have hcontributing : contributing (position (s.motion.yaw n)) (position (s.motion.yaw (n + 1))) =
      List.finRange moduleCount := by
    simp [contributing, position]
  have hdistance : ∀ index, distanceDelta (position (s.motion.yaw n))
      (position (s.motion.yaw (n + 1))) index = sign index * s.rotation n := by
    intro index
    simp only [distanceDelta, position, ControlCore.TrueMotion.yaw_succ, motion]
    ring
  have hsteering : ∀ index, steeringAngle (position (s.motion.yaw n))
      (position (s.motion.yaw (n + 1))) index = steering index := by
    intro index
    simp [steeringAngle, position]
  rw [ObservedCycle.wheelDelta, ControlCore.wheelDelta, s.odometryPositions_prepared h,
    hlocations, hprepared, wheelChassisDeltaFromPositionDeltas, hcontributing]
  simp only [hdistance, hsteering]
  rw [normal_eq, solve_normal, if_neg (by simp)]
  rfl

theorem observed_spin (n : ℕ) :
    (core.observed s.cycle n).config = config ∧ (core.observed s.cycle n).odometry.isSome ∧
      (core.observed s.cycle n).previousPositions = position (s.motion.yaw n) := by
  induction n with
  | zero =>
    refine ⟨rfl, rfl, ?_⟩
    simp [ControlCore.observed, core, ControlCore.TrueMotion.yaw, motion]
  | succ n ih =>
    obtain ⟨hconfig, hodometry, -⟩ := ih
    have hnext := ControlCore.observe_of_odometry (s.cycle n) hodometry
    refine ⟨hnext.config.trans hconfig, hnext.odometry, ?_⟩
    rw [ControlCore.observed, hnext.previousPositions, s.positions_prepared hconfig]
    funext index
    exact if_pos rfl

theorem spin_consistent : core.Consistent s.cycle s.motion where
  odometry := rfl
  anchored h := by cases h
  wheels n := by
    obtain ⟨hconfig, -, hprevious⟩ := s.observed_spin n
    exact ⟨_, s.wheelDelta_prepared hconfig n hprevious, rfl⟩
  imu n yaw rate h := by
    refine ⟨0, ?_⟩
    cases hsampled : s.sampled n with
    | false => simp [freshImu, cycle, hsampled] at h
    | true =>
      have hyaw : s.motion.yaw (n + 1) = yaw ∧ s.rotation n = rate := by
        simpa [freshImu, cycle, hsampled] using h
      rw [← hyaw.1]
      simp [motion]
  rotation := s.rotation_lt

end Spin
/-- The heading accounts for each of the first cycles exactly when nothing rotated in those that
anchor the IMU. -/
theorem ControlCore.yaw_accounts_iff (core : ControlCore) (cycles : ℕ → ObservedCycle)
    (motion : TrueMotion)
    (h : core.Consistent cycles motion) (count : ℕ) :
    (∀ n ≤ count, (core.observed cycles n).yaw =
        core.yaw + ∑ k ∈ Finset.range n, motion.rotation k) ↔
      ∀ n < count, (cycles n).fresh → core.fallbackBefore cycles n → motion.rotation n = 0 := by
  simp only [← observed_yaw_succ h]
  constructor
  · intro hyaw n hn
    rw [hyaw (n + 1) hn, hyaw n hn.le, Finset.sum_range_succ, add_assoc]
  · intro hstep n hn
    induction n with
    | zero => simp [observed]
    | succ n ih =>
      rw [hstep n hn, ih (Nat.le_of_succ_le hn), Finset.sum_range_succ, add_assoc]

/-- Standing still in the cycle that anchors the IMU, then turning one radian a cycle. -/
def lateSpin : Spin where
  rotation n := if n = 0 then 0 else 1
  sampled _ := true
  rotation_lt n := by
    have := Real.two_le_pi
    split
    · simpa using Real.pi_pos
    · rw [abs_one]
      linarith

theorem ControlCore.lateSpin_accounts :
    (Spin.core.observed lateSpin.cycle 3).yaw =
      Spin.core.yaw + ∑ k ∈ Finset.range 3, lateSpin.motion.rotation k := by
  refine (yaw_accounts_iff Spin.core lateSpin.cycle lateSpin.motion lateSpin.spin_consistent 3).2
    (fun n _ _ hfallback => ?_) 3 le_rfl
  cases n with
  | zero => rfl
  | succ n => exact absurd rfl hfallback

/-- Turning one radian a cycle from the first. -/
def steadySpin : Spin where
  rotation _ := 1
  sampled _ := true
  rotation_lt _ := by
    rw [abs_one]
    linarith [Real.two_le_pi]

/-- The wheels report the radian of the first cycle, the IMU sample in it drops the report. -/
theorem ControlCore.first_sample_drops_rotation :
    Spin.core.Consistent steadySpin.cycle steadySpin.motion ∧
      steadySpin.motion.yaw 1 = 1 ∧ (Spin.core.observed steadySpin.cycle 1).yaw = 0 := by
  refine ⟨steadySpin.spin_consistent, by simp [TrueMotion.yaw, Spin.motion, steadySpin], ?_⟩
  have hsample : freshImu (steadySpin.cycle 0).imu =
      some (steadySpin.motion.yaw 1, steadySpin.rotation 0) := rfl
  have hfallback : ((steadySpin.cycle 0).prepared Spin.core).imuFallback = true := rfl
  have hobserves := observe_of_odometry (steadySpin.cycle 0)
    (show Spin.core.odometry.isSome from rfl)
  rw [observed, observed, hobserves.yaw, observedYaw_of_anchor hsample hfallback]
  rfl

end RobotDriver.Swerve

end
