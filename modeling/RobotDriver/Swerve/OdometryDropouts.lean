import RobotDriver.Swerve.Odometry

/-!
# Odometry over drop-outs

A rigid straight motion with an arbitrary pattern of module validity. A module that recovers
reports the travel since its baseline, and the mean over the valid modules counts it as travel of
the one cycle: the pose is right exactly as long as the valid modules of each cycle have not missed
any travel, on the sum.
-/

noncomputable section

namespace RobotDriver.Swerve

/-- Equal wheel travel in every cycle at one steering angle and one yaw. Cycle 0 is the reset. -/
structure StraightMotion where
  angle : ℝ
  yaw : ℝ
  start : Module → ℝ
  travel : ℕ → ℝ
  valid : ℕ → Module → Bool
  slip : ℕ → Module → Bool

namespace StraightMotion

variable (m : StraightMotion)

def travelled (n : ℕ) : ℝ := ∑ k ∈ Finset.range n, m.travel k

def positions (n : ℕ) (index : Module) : SwerveModulePosition where
  distance := m.start index + m.travelled n
  angle := m.angle
  valid := m.valid n index
  rejectedAsSlip := m.slip n index

/-- The odometry after `n` cycles. -/
def odometry (locations : Module → Translation2d) (pose : Pose2d) : ℕ → SwerveOdometry
  | 0 => .reset locations pose m.yaw (m.positions 0)
  | n + 1 => (odometry locations pose n).update m.yaw (m.positions (n + 1))

def displaced (pose : Pose2d) (distance : ℝ) : Pose2d where
  x := pose.x + distance * Real.cos (pose.heading + m.angle)
  y := pose.y + distance * Real.sin (pose.heading + m.angle)
  heading := pose.heading

/-- The cycle of a module's baseline after `n` cycles. -/
def seen : ℕ → Module → Option ℕ
  | 0, index => if m.valid 0 index then some 0 else none
  | n + 1, index =>
    if m.valid (n + 1) index || m.slip (n + 1) index then some (n + 1) else seen n index

/-- The modules whose increments enter cycle `n`. -/
def counted (n : ℕ) : List Module :=
  (List.finRange moduleCount).filter fun index =>
    (m.seen n index).isSome && m.valid (n + 1) index

/-- The travel that a module missed before cycle `n`. -/
def missed (n : ℕ) (index : Module) : ℝ :=
  m.travelled n - m.travelled ((m.seen n index).getD 0)

/-- The modules counted in cycle `n` missed nothing before it, on the sum. -/
def Accounts (n : ℕ) : Prop :=
  if m.counted n = [] then m.travel n = 0 else ((m.counted n).map (m.missed n)).sum = 0

/-- The travel that the odometry adds in cycle `n`. -/
def measured (n : ℕ) : ℝ :=
  ((m.counted n).map fun index => m.travel n + m.missed n index).sum / (m.counted n).length

variable {m}

theorem travelled_succ (n : ℕ) : m.travelled (n + 1) = m.travelled n + m.travel n :=
  Finset.sum_range_succ _ _

theorem sum_travel_add_missed (n : ℕ) (modules : List Module) :
    (modules.map fun index => m.travel n + m.missed n index).sum =
      modules.length * m.travel n + (modules.map (m.missed n)).sum := by
  induction modules with
  | nil => simp
  | cons index modules ih =>
    simp only [List.map_cons, List.sum_cons, ih, List.length_cons]
    push_cast
    ring

theorem measured_eq_travel_iff (n : ℕ) : m.measured n = m.travel n ↔ m.Accounts n := by
  unfold measured Accounts
  by_cases hnone : m.counted n = []
  · simp [hnone, eq_comm]
  · rw [if_neg hnone, sum_travel_add_missed]
    have hlength : ((m.counted n).length : ℝ) ≠ 0 := by
      simpa using hnone
    rw [div_eq_iff hlength]
    constructor
    · intro h
      linarith
    · intro h
      rw [h]
      ring

variable (m) in
/-- What the odometry holds after `n` cycles. -/
structure Tracks (locations : Module → Translation2d) (pose : Pose2d) (n : ℕ)
    (o : SwerveOdometry) : Prop where
  previousYaw : o.previousYaw = m.yaw
  yawOffset : o.yawOffset = pose.heading - m.yaw
  baseline : ∀ index, (o.previousPositions index).valid = (m.seen n index).isSome
  distance : ∀ index cycle, m.seen n index = some cycle →
    (o.previousPositions index).distance = m.start index + m.travelled cycle
  angle : ∀ index, (o.previousPositions index).angle = m.angle
  pose : o.pose = m.displaced pose (∑ k ∈ Finset.range n, m.measured k)

theorem contributing_eq_counted {locations : Module → Translation2d} {pose : Pose2d} {n : ℕ}
    {o : SwerveOdometry} (h : m.Tracks locations pose n o) :
    contributing o.previousPositions (m.positions (n + 1)) = m.counted n := by
  unfold contributing counted
  congr 1
  funext index
  rw [h.baseline]
  rfl

theorem foldl_translation (f g : Module → ℝ) (modules : List Module) (t : Translation2d) :
    modules.foldl (fun (sum : Translation2d) index => ⟨sum.x + f index, sum.y + g index⟩) t =
      ⟨t.x + (modules.map f).sum, t.y + (modules.map g).sum⟩ := by
  induction modules generalizing t with
  | nil => simp
  | cons index modules ih => simp [ih, add_assoc]

theorem wheelTranslation_eq {locations : Module → Translation2d} {pose : Pose2d} {n : ℕ}
    {o : SwerveOdometry} (h : m.Tracks locations pose n o) (hn : m.counted n ≠ []) :
    wheelTranslationFromPositionDeltas o.previousPositions (m.positions (n + 1)) o.moduleLocations
      0 = some ⟨m.measured n * Real.cos m.angle, m.measured n * Real.sin m.angle⟩ := by
  have hdistance : ∀ index ∈ m.counted n,
      distanceDelta o.previousPositions (m.positions (n + 1)) index =
        m.travel n + m.missed n index := by
    intro index hindex
    have hseen := (Bool.and_eq_true_iff.1 (List.mem_filter.1 hindex).2).1
    obtain ⟨cycle, hcycle⟩ := Option.isSome_iff_exists.1 hseen
    simp only [distanceDelta, positions, h.distance index cycle hcycle, missed, hcycle,
      Option.getD_some, travelled_succ]
    ring
  have hangle : ∀ index,
      steeringAngle o.previousPositions (m.positions (n + 1)) index = m.angle := by
    intro index
    simp only [steeringAngle, h.angle, positions, midpointAngle_self]
  unfold wheelTranslationFromPositionDeltas
  rw [contributing_eq_counted h, foldl_translation, if_neg (by simpa using hn)]
  simp only [hangle, zero_mul, add_zero, sub_zero, zero_add, measured, div_mul_eq_mul_div,
    Option.some.injEq, Translation2d.mk.injEq]
  constructor <;>
  · congr 1
    rw [← List.sum_map_mul_right]
    exact congrArg List.sum (List.map_congr_left fun index hindex => by rw [hdistance index hindex])

theorem previousPositions_update (o : SwerveOdometry) (n : ℕ) (index : Module) :
    (o.update m.yaw (m.positions (n + 1))).previousPositions index =
      if (m.valid (n + 1) index || m.slip (n + 1) index) = true then
        { m.positions (n + 1) index with valid := true, rejectedAsSlip := false }
      else o.previousPositions index :=
  rfl

theorem tracks_update {locations : Module → Translation2d} {pose : Pose2d} {n : ℕ}
    {o : SwerveOdometry} (h : m.Tracks locations pose n o) :
    m.Tracks locations pose (n + 1) (o.update m.yaw (m.positions (n + 1))) := by
  have hdelta : wrapPi (m.yaw - o.previousYaw) = 0 := by rw [h.previousYaw, sub_self, wrapPi_zero]
  refine ⟨rfl, h.yawOffset, fun index => ?_, fun index cycle hcycle => ?_, fun index => ?_, ?_⟩
  · rw [previousPositions_update]
    by_cases hseen : (m.valid (n + 1) index || m.slip (n + 1) index) = true
    · rw [if_pos hseen, seen, if_pos hseen]
      rfl
    · rw [if_neg hseen, seen, if_neg hseen]
      exact h.baseline index
  · rw [previousPositions_update]
    by_cases hseen : (m.valid (n + 1) index || m.slip (n + 1) index) = true
    · rw [seen, if_pos hseen] at hcycle
      rw [if_pos hseen]
      cases hcycle
      rfl
    · rw [seen, if_neg hseen] at hcycle
      rw [if_neg hseen]
      exact h.distance index cycle hcycle
  · rw [previousPositions_update]
    by_cases hseen : (m.valid (n + 1) index || m.slip (n + 1) index) = true
    · rw [if_pos hseen]
      rfl
    · rw [if_neg hseen]
      exact h.angle index
  · have htranslation : ∃ x y,
        (wheelTranslationFromPositionDeltas o.previousPositions (m.positions (n + 1))
          o.moduleLocations 0).elim 0 (·.x) = x ∧
        (wheelTranslationFromPositionDeltas o.previousPositions (m.positions (n + 1))
          o.moduleLocations 0).elim 0 (·.y) = y ∧
        x = m.measured n * Real.cos m.angle ∧ y = m.measured n * Real.sin m.angle := by
      by_cases hn : m.counted n = []
      · have hnone : wheelTranslationFromPositionDeltas o.previousPositions
            (m.positions (n + 1)) o.moduleLocations 0 = none := by
          unfold wheelTranslationFromPositionDeltas
          rw [contributing_eq_counted h, hn]
          rfl
        rw [hnone]
        exact ⟨0, 0, rfl, rfl, by simp [measured, hn], by simp [measured, hn]⟩
      · rw [wheelTranslation_eq h hn]
        exact ⟨_, _, rfl, rfl, rfl, rfl⟩
    obtain ⟨x, y, hx, hy, hxm, hym⟩ := htranslation
    simp only [SwerveOdometry.update, hdelta, hx, hy, integratePose, poseExp_of_straight, h.pose,
      h.yawOffset, displaced, Finset.sum_range_succ]
    rw [hxm, hym, Real.cos_add, Real.sin_add]
    ext
    · dsimp only
      ring
    · dsimp only
      ring
    · dsimp only
      ring

theorem tracks_odometry (locations : Module → Translation2d) (pose : Pose2d) (n : ℕ) :
    m.Tracks locations pose n (m.odometry locations pose n) := by
  induction n with
  | zero =>
    refine ⟨rfl, rfl, fun index => ?_, fun index cycle hcycle => ?_, fun _ => rfl, ?_⟩
    · simp only [odometry, SwerveOdometry.reset, positions, seen]
      cases m.valid 0 index <;> rfl
    · simp only [seen] at hcycle
      split at hcycle
      · cases hcycle
        rfl
      · cases hcycle
    · simp [odometry, SwerveOdometry.reset, displaced]
  | succ n ih => exact tracks_update ih

theorem displaced_inj {pose : Pose2d} {a b : ℝ} : m.displaced pose a = m.displaced pose b ↔ a = b := by
  refine ⟨fun h => ?_, fun h => by rw [h]⟩
  have hx : a * Real.cos (pose.heading + m.angle) = b * Real.cos (pose.heading + m.angle) := by
    simpa [displaced] using congrArg Pose2d.x h
  have hy : a * Real.sin (pose.heading + m.angle) = b * Real.sin (pose.heading + m.angle) := by
    simpa [displaced] using congrArg Pose2d.y h
  have hone := Real.cos_sq_add_sin_sq (pose.heading + m.angle)
  calc a = a * (Real.cos (pose.heading + m.angle) ^ 2 + Real.sin (pose.heading + m.angle) ^ 2) := by
        rw [hone, mul_one]
    _ = b * (Real.cos (pose.heading + m.angle) ^ 2 + Real.sin (pose.heading + m.angle) ^ 2) := by
        linear_combination
          Real.cos (pose.heading + m.angle) * hx + Real.sin (pose.heading + m.angle) * hy
    _ = b := by rw [hone, mul_one]

end StraightMotion

/-- The pose is the true one after each of the first cycles exactly when the modules counted in
each of them missed nothing before it, on the sum. -/
theorem StraightMotion.pose_eq_displaced_iff (m : StraightMotion)
    (locations : Module → Translation2d) (pose : Pose2d) (cycles : ℕ) :
    (∀ n ≤ cycles, (m.odometry locations pose n).pose = m.displaced pose (m.travelled n)) ↔
      ∀ n < cycles, m.Accounts n := by
  have hpose : ∀ n, (m.odometry locations pose n).pose = m.displaced pose (m.travelled n) ↔
      ∑ k ∈ Finset.range n, m.measured k = m.travelled n := by
    intro n
    rw [(tracks_odometry locations pose n).pose, displaced_inj]
  simp only [hpose, ← measured_eq_travel_iff]
  constructor
  · intro h n hn
    have hnext := h (n + 1) hn
    rw [Finset.sum_range_succ, travelled_succ, h n hn.le] at hnext
    exact add_left_cancel hnext
  · intro h n hn
    exact Finset.sum_congr rfl fun k hk => h k ((Finset.mem_range.1 hk).trans_le hn)

/-- One metre a cycle straight ahead; in the first cycle only the first module is valid. -/
def StraightMotion.recovery : StraightMotion where
  angle := 0
  yaw := 0
  start _ := 0
  travel _ := 1
  valid n index := n ≠ 1 || index = 0
  slip _ _ := false

/-- The three modules that come back report two metres for the one cycle, and the pose is at
2.75 m after 2 m of travel. -/
theorem StraightMotion.recovery_counted_twice :
    (∀ n, ∃ index, recovery.valid n index) ∧ recovery.travelled 2 = 2 ∧
      (recovery.odometry (fun _ => ⟨0, 0⟩) {} 2).pose = ⟨2.75, 0, 0⟩ := by
  have hfirst : recovery.counted 0 = [0] := by decide
  have hsecond : recovery.counted 1 = [0, 1, 2, 3] := by decide
  refine ⟨fun n => ⟨0, by simp [recovery]⟩, by norm_num [travelled, recovery], ?_⟩
  rw [(tracks_odometry _ _ 2).pose]
  have h0 : recovery.measured 0 = 1 := by
    rw [measured, hfirst]
    norm_num [missed, travelled, recovery, seen]
  have h1 : recovery.measured 1 = 1.75 := by
    rw [measured, hsecond]
    norm_num [missed, travelled, recovery, seen, Finset.sum_range_succ]
  rw [Finset.sum_range_succ, Finset.sum_range_one, h0, h1]
  norm_num [displaced, recovery]

end RobotDriver.Swerve

end
