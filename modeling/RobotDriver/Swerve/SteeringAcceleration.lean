import RobotDriver.Swerve.SteeringSlew

/-!
# The acceleration limit of the steering

The effective rate of a module is the way of its target over the period. From one call to the next
it changes within the acceleration limit, unless the goal is nearer than the braking reaches, or the
rate and the acceleration in flight have come apart from the last way.
-/

noncomputable section

open scoped Classical

namespace RobotDriver.Swerve

open LabelledRun

section Trapezoid

variable {limit maximumRate rate delta dt : ℝ}

theorem clampTo_near {value slack : ℝ} (hslack : 0 ≤ slack) :
    |clampTo value (rate - slack) (rate + slack) - rate| ≤ slack := by
  have hmem : rate - slack ≤ clampTo value (rate - slack) (rate + slack) ∧
      clampTo value (rate - slack) (rate + slack) ≤ rate + slack := clampTo_mem (by linarith)
  exact abs_le.2 ⟨by linarith [hmem.1], by linarith [hmem.2]⟩

theorem slowedRate_near (hlimit : 0 < limit * dt) :
    |slowedRate (some limit) rate dt - rate| ≤ limit * dt := by
  rw [← clampTo_zero hlimit]
  exact clampTo_near hlimit.le

theorem limitedRate_near (hlimit : 0 < limit * dt) :
    |limitedRate (some limit) maximumRate rate delta dt - rate| ≤ limit * dt :=
  clampTo_near hlimit.le

theorem trapezoidalStep_near (hlimit : 0 < limit) (hdt : 0 < dt)
    (hreaches : delta ≠ 0 → 0 < rate * delta → (|rate| - limit * dt) * dt ≤ |delta|) :
    |(trapezoidalStep (some limit) maximumRate rate delta dt).step / dt - rate| ≤ limit * dt := by
  have hbrake := mul_pos hlimit hdt
  have hnear : |limitedRate (some limit) maximumRate rate delta dt - rate| ≤ limit * dt :=
    limitedRate_near hbrake
  rw [trapezoidalStep_eq]
  generalize limitedRate (some limit) maximumRate rate delta dt = limited at hnear
  obtain ⟨hlow, hhigh⟩ := abs_le.1 hnear
  split_ifs with harrives
  · obtain ⟨hdelta, hbeyond⟩ := harrives
    rcases hdelta.lt_or_gt with hneg | hpos
    · rw [one_lt_div_of_neg hneg, ← lt_div_iff₀ hdt] at hbeyond
      have hslowest : delta / dt ≤ rate + limit * dt := by
        rw [div_le_iff₀ hdt]
        rcases lt_or_ge rate 0 with hrate | hrate
        · have hway := hreaches hdelta (mul_pos_of_neg_of_neg hrate hneg)
          rw [abs_of_neg hrate, abs_of_neg hneg] at hway
          linarith
        · exact hneg.le.trans (mul_nonneg (by linarith) hdt.le)
      exact abs_le.2 ⟨by linarith, by linarith⟩
    · rw [one_lt_div hpos, ← div_lt_iff₀ hdt] at hbeyond
      have hslowest : rate - limit * dt ≤ delta / dt := by
        rw [le_div_iff₀ hdt]
        rcases lt_or_ge 0 rate with hrate | hrate
        · have hway := hreaches hdelta (mul_pos hrate hpos)
          rwa [abs_of_pos hrate, abs_of_pos hpos] at hway
        · exact (mul_nonpos_of_nonpos_of_nonneg (by linarith) hdt.le).trans hpos.le
      exact abs_le.2 ⟨by linarith, by linarith⟩
  · dsimp only
    rwa [mul_div_cancel_right₀ limited hdt.ne']

end Trapezoid

section Jerk

variable (maximumAcceleration jerk maximumRate v a remaining effective dt : ℝ)

/-- What keeps a followed step within the acceleration limit, seen from the goal. The goal is not
nearer than the slowest rate that is allowed reaches; whatever acceleration is allowed next, the mean
rate stays within the limit; and so does half of a rate that braking turns round. -/
structure FollowFits : Prop where
  near : (effective - maximumAcceleration * dt) * dt ≤ remaining
  falling : effective - maximumAcceleration * dt ≤
    v + max (a - jerk * dt) (-maximumAcceleration) * dt / 2
  rising : v + min (a + jerk * dt) maximumAcceleration * dt / 2 ≤
    effective + maximumAcceleration * dt
  turning : v + max (a - jerk * dt) (-maximumAcceleration) * dt ≤ 0 →
    (v < 0 → Brakes maximumAcceleration jerk maximumRate v a remaining dt) →
      v / 2 * dt + 1 / 10 ^ 12 ≤ (effective + maximumAcceleration * dt) * dt

/-- What keeps a held step within it: it goes on from the effective rate, or no rate that is allowed
next is too far from that. -/
structure StopFits : Prop where
  resting : v = 0 → |effective| ≤ maximumAcceleration * dt
  forward : 0 < v → effective = v ∨
    effective - maximumAcceleration * dt ≤
        max 0 (v + max (a - jerk * dt) (-maximumAcceleration) * dt) ∧
      v + max (a - jerk * dt) 0 * dt ≤ effective + maximumAcceleration * dt
  backward : v < 0 → effective = v ∨
    min 0 (v + min (a + jerk * dt) maximumAcceleration * dt) ≤
        effective + maximumAcceleration * dt ∧
      effective - maximumAcceleration * dt ≤ v + min (a + jerk * dt) 0 * dt

variable {maximumAcceleration jerk maximumRate v a remaining effective dt}

variable (maximumRate v) in
theorem abs_cruiseAcceleration_le (hacceleration : 0 < maximumAcceleration) (hjerk : 0 < jerk)
    (hdt : 0 < dt) (ha : |a| ≤ maximumAcceleration) :
    |cruiseAcceleration maximumAcceleration jerk maximumRate v a dt| ≤ maximumAcceleration := by
  have hnonneg : 0 ≤ min maximumAcceleration (√(2 * jerk * max (maximumRate - v) 0)) :=
    le_min hacceleration.le (Real.sqrt_nonneg _)
  refine abs_clampTo_le (mul_pos hjerk hdt).le ?_ ha
  rw [abs_of_nonneg hnonneg]
  exact min_le_left _ _

theorem abs_brakingAcceleration_le (hacceleration : 0 < maximumAcceleration) (hjerk : 0 < jerk)
    (hdt : 0 < dt) (ha : |a| ≤ maximumAcceleration) :
    |brakingAcceleration maximumAcceleration jerk a dt| ≤ maximumAcceleration := by
  have hslack := mul_pos hjerk hdt
  refine abs_le.2 ⟨le_max_right _ _, max_le ?_ (by linarith)⟩
  linarith [(abs_le.1 ha).2]

theorem abs_stopAcceleration_le (hacceleration : 0 < maximumAcceleration) (hjerk : 0 < jerk)
    (hdt : 0 < dt) (ha : |a| ≤ maximumAcceleration) :
    |stopAcceleration maximumAcceleration jerk v a dt| ≤ maximumAcceleration := by
  have hnonneg : 0 ≤ min maximumAcceleration (√(2 * jerk * |v|)) :=
    le_min hacceleration.le (Real.sqrt_nonneg _)
  refine abs_clampTo_le (mul_pos hjerk hdt).le ?_ ha
  rw [abs_copysign, abs_of_nonneg hnonneg]
  exact min_le_left _ _

theorem abs_plannedAcceleration_le (hacceleration : 0 < maximumAcceleration) (hjerk : 0 < jerk)
    (hdt : 0 < dt) (ha : |a| ≤ maximumAcceleration) :
    |(plannedStep maximumAcceleration jerk maximumRate v a remaining dt).acceleration| ≤
      maximumAcceleration := by
  unfold plannedStep
  split_ifs
  · exact abs_brakingAcceleration_le hacceleration hjerk hdt ha
  · exact abs_cruiseAcceleration_le _ _ hacceleration hjerk hdt ha

variable (maximumRate v) in
theorem cruiseAcceleration_window (hacceleration : 0 < maximumAcceleration) (hjerk : 0 < jerk)
    (hdt : 0 < dt) (ha : |a| ≤ maximumAcceleration) :
    max (a - jerk * dt) (-maximumAcceleration) ≤
        cruiseAcceleration maximumAcceleration jerk maximumRate v a dt ∧
      cruiseAcceleration maximumAcceleration jerk maximumRate v a dt ≤
        min (a + jerk * dt) maximumAcceleration := by
  have hslack := mul_pos hjerk hdt
  obtain ⟨hlow, hhigh⟩ := abs_le.1 (abs_cruiseAcceleration_le maximumRate v hacceleration
    hjerk hdt ha)
  have hmem : a - jerk * dt ≤ cruiseAcceleration maximumAcceleration jerk maximumRate v a dt ∧
      cruiseAcceleration maximumAcceleration jerk maximumRate v a dt ≤ a + jerk * dt :=
    clampTo_mem (by linarith)
  exact ⟨max_le hmem.1 hlow, le_min hmem.2 hhigh⟩

theorem window_nonempty (hacceleration : 0 < maximumAcceleration) (hjerk : 0 < jerk)
    (hdt : 0 < dt) (ha : |a| ≤ maximumAcceleration) :
    max (a - jerk * dt) (-maximumAcceleration) ≤ min (a + jerk * dt) maximumAcceleration :=
  (cruiseAcceleration_window 0 0 hacceleration hjerk hdt ha).1.trans
    (cruiseAcceleration_window 0 0 hacceleration hjerk hdt ha).2

theorem plannedStep_rate_ge (hacceleration : 0 < maximumAcceleration) (hjerk : 0 < jerk)
    (hdt : 0 < dt) (ha : |a| ≤ maximumAcceleration) :
    v + max (a - jerk * dt) (-maximumAcceleration) * dt ≤
      (plannedStep maximumAcceleration jerk maximumRate v a remaining dt).rate := by
  unfold plannedStep
  split_ifs
  · exact le_rfl
  · have hleast : max (a - jerk * dt) (-maximumAcceleration) ≤
        cruiseAcceleration maximumAcceleration jerk maximumRate v a dt :=
      (cruiseAcceleration_window _ _ hacceleration hjerk hdt ha).1
    dsimp only
    linarith [mul_le_mul_of_nonneg_right hleast hdt.le]

theorem FollowFits.planned
    (h : FollowFits maximumAcceleration jerk maximumRate v a remaining effective dt)
    (hacceleration : 0 < maximumAcceleration) (hjerk : 0 < jerk) (hdt : 0 < dt)
    (ha : |a| ≤ maximumAcceleration) :
    (effective - maximumAcceleration * dt) * dt ≤
        (plannedStep maximumAcceleration jerk maximumRate v a remaining dt).step ∧
      (plannedStep maximumAcceleration jerk maximumRate v a remaining dt).step ≤
        (effective + maximumAcceleration * dt) * dt := by
  have hscaled : ∀ {x y : ℝ}, x ≤ y → x * dt ≤ y * dt := fun hle =>
    mul_le_mul_of_nonneg_right hle hdt.le
  have hmean : ∀ {next : ℝ}, max (a - jerk * dt) (-maximumAcceleration) ≤ next →
      next ≤ min (a + jerk * dt) maximumAcceleration →
        effective - maximumAcceleration * dt ≤ v + next * dt / 2 ∧
          v + next * dt / 2 ≤ effective + maximumAcceleration * dt := fun hleast hmost =>
    ⟨by linarith [h.falling, hscaled hleast], by linarith [h.rising, hscaled hmost]⟩
  unfold plannedStep
  split_ifs with hbrakes
  · unfold brakingWay brakingAcceleration
    dsimp only
    rcases le_or_gt 0 (v + max (a - jerk * dt) (-maximumAcceleration) * dt) with hgoes | hturns
    · obtain ⟨hlow, hhigh⟩ := hmean le_rfl (window_nonempty hacceleration hjerk hdt ha)
      rw [max_eq_left hgoes]
      exact ⟨hscaled (by linarith), hscaled (by linarith)⟩
    · rw [max_eq_right hturns.le, add_zero]
      exact ⟨hscaled (by linarith [h.falling]), by linarith [h.turning hturns.le fun _ => hbrakes]⟩
  · obtain ⟨hleast, hmost⟩ := cruiseAcceleration_window maximumRate v hacceleration hjerk
      hdt ha
    dsimp only
    rw [cruiseWay_eq]
    exact (hmean hleast hmost).imp hscaled hscaled

theorem FollowFits.landed
    (h : FollowFits maximumAcceleration jerk maximumRate v a remaining effective dt)
    (hacceleration : 0 < maximumAcceleration) (hjerk : 0 < jerk) (hdt : 0 < dt)
    (ha : |a| ≤ maximumAcceleration) :
    |(landedStep (plannedStep maximumAcceleration jerk maximumRate v a remaining dt) v
      remaining).step / dt - effective| ≤ maximumAcceleration * dt := by
  have hway : ∀ {way : ℝ}, (effective - maximumAcceleration * dt) * dt ≤ way →
      way ≤ (effective + maximumAcceleration * dt) * dt →
        |way / dt - effective| ≤ maximumAcceleration * dt := by
    intro way hlow hhigh
    rw [← le_div_iff₀ hdt] at hlow
    rw [← div_le_iff₀ hdt] at hhigh
    exact abs_le.2 ⟨by linarith, by linarith⟩
  obtain ⟨hlow, hhigh⟩ := h.planned hacceleration hjerk hdt ha
  unfold landedStep
  split_ifs with harrives
  · refine hway h.near ?_
    rcases harrives with ⟨hrest, hv, hreached⟩ | hreached
    · have hturns := (plannedStep_rate_ge hacceleration hjerk hdt ha).trans hrest
      have hhalf := plannedStep_le_half hdt hrest
      linarith [h.turning hturns fun hneg => absurd hv (not_le.2 hneg)]
    · exact hreached.trans hhigh
  · exact hway hlow hhigh

theorem jerkLimitedStep_way (hacceleration : 0 < maximumAcceleration) (hjerk : 0 < jerk)
    (hdt : 0 < dt) (rate acceleration delta : ℝ) :
    (jerkLimitedStep maximumAcceleration jerk maximumRate rate acceleration delta dt).step =
      (landedStep (plannedStep maximumAcceleration jerk maximumRate (rate * direction delta)
        (acceleration * direction delta) |delta| dt) (rate * direction delta) |delta|).step *
          direction delta := by
  rw [jerkLimitedStep_eq]
  dsimp only
  split_ifs with hrest
  · obtain ⟨hdelta, hv, ha⟩ := hrest
    have hleast : min 0 ((0 + min 0 (0 + jerk * dt) * dt / 2) * dt) ≤
        (plannedStep maximumAcceleration jerk maximumRate 0 0 0 dt).step :=
      le_plannedStep hacceleration hdt
    rw [min_eq_left (by linarith [mul_pos hjerk hdt] : (0 : ℝ) ≤ 0 + jerk * dt), zero_mul,
      zero_div, add_zero, zero_mul, min_self] at hleast
    rw [hdelta, hv, ha, landedStep, if_pos (.inr hleast), zero_mul]
  · rfl

theorem jerkLimitedStep_near (hacceleration : 0 < maximumAcceleration) (hjerk : 0 < jerk)
    (hdt : 0 < dt) {rate acceleration delta : ℝ} (ha : |acceleration| ≤ maximumAcceleration)
    (h : FollowFits maximumAcceleration jerk maximumRate (rate * direction delta)
      (acceleration * direction delta) |delta| (effective * direction delta) dt) :
    |(jerkLimitedStep maximumAcceleration jerk maximumRate rate acceleration delta dt).step / dt -
      effective| ≤ maximumAcceleration * dt := by
  have hnear := h.landed hacceleration hjerk hdt ((abs_mul_direction acceleration delta).trans_le ha)
  rw [jerkLimitedStep_way hacceleration hjerk hdt]
  generalize (landedStep (plannedStep maximumAcceleration jerk maximumRate (rate * direction delta)
    (acceleration * direction delta) |delta| dt) (rate * direction delta) |delta|).step = way
    at hnear ⊢
  have hturned : way / dt - effective * direction delta =
      (way * direction delta / dt - effective) * direction delta := by
    rw [sub_mul, mul_div_right_comm, mul_assoc, direction_mul_self, mul_one]
  rwa [hturned, abs_mul_direction] at hnear

theorem jerkLimitedStop_near (hacceleration : 0 < maximumAcceleration) (hjerk : 0 < jerk)
    (hdt : 0 < dt) (ha : |a| ≤ maximumAcceleration)
    (h : StopFits maximumAcceleration jerk v a effective dt) :
    |(jerkLimitedStop maximumAcceleration jerk v a dt).step / dt - effective| ≤
      maximumAcceleration * dt := by
  have hscaled : ∀ {x y : ℝ}, x ≤ y → x * dt ≤ y * dt := fun hle =>
    mul_le_mul_of_nonneg_right hle hdt.le
  obtain ⟨hleast, hmost⟩ := stopAcceleration_mem maximumAcceleration hjerk hdt v a
  obtain ⟨hlow, hhigh⟩ := abs_le.1 (abs_stopAcceleration_le (v := v) hacceleration hjerk hdt ha)
  have hpos (hv : 0 < v) := stopAcceleration_of_pos maximumAcceleration a hjerk hdt hv
  have hneg (hv : v < 0) := stopAcceleration_of_neg maximumAcceleration a hjerk hdt hv
  rw [jerkLimitedStop_eq]
  generalize stopAcceleration maximumAcceleration jerk v a dt = next at *
  have hfalls := hscaled (max_le hleast hlow)
  have hrises := hscaled (le_min hmost hhigh)
  have hlowWay := hscaled hlow
  have hhighWay := hscaled hhigh
  dsimp only
  rcases lt_trichotomy v 0 with hback | rfl | hforward
  · have hslows : min (a + jerk * dt) 0 * dt ≤ next * dt := by
      refine hscaled ((hneg hback).elim (fun heq => ?_) fun hnonneg => ?_)
      · exact (min_le_left _ _).trans heq.ge
      · exact (min_le_right _ _).trans hnonneg
    rw [if_neg hback.ne]
    split_ifs with hstops
    · have hbeyond := nonneg_of_mul_nonpos_left hstops hback
      rw [zero_div, zero_sub, abs_neg]
      rcases h.backward hback with heq | ⟨hrising, hfalling⟩
      · exact abs_le.2 ⟨by linarith, by linarith⟩
      · have hback' := mul_nonpos_of_nonpos_of_nonneg (min_le_right (a + jerk * dt) 0) hdt.le
        rw [min_eq_left (by linarith)] at hrising
        exact abs_le.2 ⟨by linarith, by linarith⟩
    · have hmoving := neg_of_mul_pos_left (not_le.1 hstops) hback.le
      rw [mul_div_cancel_right₀ _ hdt.ne']
      rcases h.backward hback with rfl | ⟨hrising, hfalling⟩
      · exact abs_le.2 ⟨by linarith, by linarith⟩
      · have hslowest := (le_min hmoving.le (by linarith)).trans hrising
        exact abs_le.2 ⟨by linarith, by linarith⟩
  · rw [if_pos rfl, zero_div, zero_sub, abs_neg]
    exact h.resting rfl
  · have hslows : next * dt ≤ max (a - jerk * dt) 0 * dt := by
      refine hscaled ((hpos hforward).elim (fun heq => ?_) fun hnonpos => ?_)
      · exact heq.le.trans (le_max_left _ _)
      · exact hnonpos.trans (le_max_right _ _)
    rw [if_neg hforward.ne']
    split_ifs with hstops
    · have hbeyond := nonpos_of_mul_nonpos_left hstops hforward
      rw [zero_div, zero_sub, abs_neg]
      rcases h.forward hforward with heq | ⟨hfalling, hrising⟩
      · exact abs_le.2 ⟨by linarith, by linarith⟩
      · have hforward' := mul_nonneg (le_max_right (a - jerk * dt) 0) hdt.le
        rw [max_eq_left (by linarith)] at hfalling
        exact abs_le.2 ⟨by linarith, by linarith⟩
    · have hmoving := pos_of_mul_pos_left (not_le.1 hstops) hforward.le
      rw [mul_div_cancel_right₀ _ hdt.ne']
      rcases h.forward hforward with rfl | ⟨hfalling, hrising⟩
      · exact abs_le.2 ⟨by linarith, by linarith⟩
      · have hslowest := hfalling.trans (max_le hmoving.le (by linarith))
        exact abs_le.2 ⟨by linarith, by linarith⟩

theorem abs_landedAcceleration_le (hacceleration : 0 < maximumAcceleration) (hjerk : 0 < jerk)
    (hdt : 0 < dt) (ha : |a| ≤ maximumAcceleration) :
    |(landedStep (plannedStep maximumAcceleration jerk maximumRate v a remaining dt) v
      remaining).acceleration| ≤ maximumAcceleration := by
  unfold landedStep
  split_ifs
  · exact abs_zero.trans_le hacceleration.le
  · exact abs_plannedAcceleration_le hacceleration hjerk hdt ha

theorem abs_stepAcceleration_le (hacceleration : 0 < maximumAcceleration) (hjerk : 0 < jerk)
    (hdt : 0 < dt) {acceleration : ℝ} (ha : |acceleration| ≤ maximumAcceleration)
    (rate delta : ℝ) :
    |(jerkLimitedStep maximumAcceleration jerk maximumRate rate acceleration delta
      dt).acceleration| ≤ maximumAcceleration := by
  rw [jerkLimitedStep_eq]
  dsimp only
  split_ifs
  · exact ha
  · rw [abs_mul_direction]
    exact abs_landedAcceleration_le hacceleration hjerk hdt
      ((abs_mul_direction acceleration delta).trans_le ha)

theorem abs_heldAcceleration_le (hacceleration : 0 < maximumAcceleration) (hjerk : 0 < jerk)
    (hdt : 0 < dt) (ha : |a| ≤ maximumAcceleration) :
    |(jerkLimitedStop maximumAcceleration jerk v a dt).acceleration| ≤ maximumAcceleration := by
  rw [jerkLimitedStop_eq]
  dsimp only
  split_ifs
  · exact abs_zero.trans_le hacceleration.le
  · exact abs_zero.trans_le hacceleration.le
  · exact abs_stopAcceleration_le hacceleration hjerk hdt ha

end Jerk

/-- A generator, and the rates at which its last call has moved the targets. -/
structure SteeringDrive where
  generator : SwerveSetpointGenerator
  effective : Module → ℝ := fun _ => 0

namespace SteeringDrive

open SwerveSetpointGenerator

variable (p : SwerveSetpointParameters) (limits : Module → SteeringAngleLimits)

section Condition

variable (d : SteeringDrive) (c : SteeringCall) (index : Module)

def call : SteeringDrive where
  generator := d.generator.call p limits c
  effective index :=
    (((d.generator.call p limits c).previousTargets index).getD 0 -
      d.generator.target limits c index) / c.dt

/-- The effective rate of the module changes within the acceleration limit. -/
def KeepsAcceleration : Prop :=
  ∀ limit ∈ p.maximumSteeringAcceleration,
    |(d.call p limits c).effective index - d.effective index| ≤ limit * c.dt

/-- The way that the code takes for the one to the goal. -/
def targetDelta : ℝ :=
  d.generator.targetDelta p limits c index (d.generator.reversal p limits c)

/-- The goal and the last way fit the rate and the acceleration in flight. -/
structure FitsAcceleration : Prop where
  trapezoid : c.hold index = false → p.maximumSteeringJerk = none →
    ∀ limit ∈ p.maximumSteeringAcceleration, d.targetDelta p limits c index ≠ 0 →
      0 < d.generator.steeringRates index * d.targetDelta p limits c index →
        (|d.generator.steeringRates index| - limit * c.dt) * c.dt ≤
          |d.targetDelta p limits c index|
  followed : c.hold index = false → ∀ jerk ∈ p.maximumSteeringJerk,
    ∀ limit ∈ p.maximumSteeringAcceleration,
      let towards := direction (d.targetDelta p limits c index)
      FollowFits limit jerk p.maximumSteeringSlew (d.generator.steeringRates index * towards)
        (d.generator.steeringAccelerations index * towards) |d.targetDelta p limits c index|
        (d.effective index * towards) c.dt
  held : c.hold index = true → ∀ jerk ∈ p.maximumSteeringJerk,
    ∀ limit ∈ p.maximumSteeringAcceleration,
      StopFits limit jerk (d.generator.steeringRates index)
        (d.generator.steeringAccelerations index) (d.effective index) c.dt

end Condition

variable {p limits} {d : SteeringDrive} {c : SteeringCall}

/-- What every run of calls keeps: without a jerk limit the effective rates are the stored ones,
with one the stored accelerations are within their limit. -/
structure Sound (p : SwerveSetpointParameters) (d : SteeringDrive) : Prop where
  fresh : d.generator.Fresh
  effective : p.maximumSteeringJerk = none → d.effective = d.generator.steeringRates
  acceleration : ∀ jerk ∈ p.maximumSteeringJerk, ∀ limit ∈ p.maximumSteeringAcceleration,
    ∀ index, |d.generator.steeringAccelerations index| ≤ limit

theorem call_module (hvalid : c.Valid limits) (h : d.generator.Fresh) (index : Module) :
    let step := d.generator.moduleStep p limits c index (d.generator.reversal p limits c)
    (d.call p limits c).generator.steeringRates index = step.rate ∧
      (d.call p limits c).generator.steeringAccelerations index = step.acceleration ∧
      (d.call p limits c).effective index = step.step / c.dt := by
  obtain ⟨htarget, hrate, hacceleration⟩ := (call_moved (p := p) hvalid h).2 index
  refine ⟨hrate, hacceleration, ?_⟩
  change ((((d.generator.call p limits c).previousTargets index).getD 0 -
    d.generator.target limits c index) / c.dt = _)
  rw [htarget, Option.getD_some, add_sub_cancel_left]
  rfl

theorem free_step_div (hjerk : p.maximumSteeringJerk = none) (hdt : 0 < c.dt)
    (g : SwerveSetpointGenerator) (index : Module) (reversal : Option Bool) :
    (g.moduleStep p limits c index reversal).step / c.dt =
      (g.moduleStep p limits c index reversal).rate := by
  unfold moduleStep
  split_ifs
  · unfold holdStep
    rw [hjerk]
    exact mul_div_cancel_right₀ _ hdt.ne'
  · unfold followStep
    rw [hjerk]
    dsimp only
    rw [trapezoidalStep_eq]
    split_ifs
    · rfl
    · exact mul_div_cancel_right₀ _ hdt.ne'

theorem abs_moduleStep_acceleration_le (hp : p.Valid) (hvalid : c.Valid limits) {jerk limit : ℝ}
    (hjerk : p.maximumSteeringJerk = some jerk)
    (hlimit : p.maximumSteeringAcceleration = some limit)
    {g : SwerveSetpointGenerator} {index : Module} (h : |g.steeringAccelerations index| ≤ limit)
    (reversal : Option Bool) :
    |(g.moduleStep p limits c index reversal).acceleration| ≤ limit := by
  have hpos := (hp.maximumSteeringJerk jerk hjerk).1
  have hacceleration := hp.maximumSteeringAcceleration limit hlimit
  cases hhold : c.hold index with
  | true =>
    rw [moduleStep_held hjerk hhold, hlimit]
    exact abs_heldAcceleration_le hacceleration hpos hvalid.dt_pos h
  | false =>
    rw [moduleStep_followed hhold, followStep_jerk hjerk, hlimit]
    exact abs_stepAcceleration_le hacceleration hpos hvalid.dt_pos h _ _

theorem Sound.reset (hp : p.Valid) (targets : Module → Option ℝ) :
    Sound p ⟨reset targets, fun _ => 0⟩ := by
  refine ⟨fresh_reset targets, fun _ => rfl, fun jerk _ limit hlimit index => ?_⟩
  exact abs_zero.trans_le (hp.maximumSteeringAcceleration limit hlimit).le

theorem Sound.call (h : d.Sound p) (hp : p.Valid) (hvalid : c.Valid limits) :
    (d.call p limits c).Sound p := by
  refine ⟨(call_moved hvalid h.fresh).1, fun hjerk => ?_, fun jerk hjerk limit hlimit index => ?_⟩
  · funext index
    obtain ⟨hrate, -, heffective⟩ := call_module (p := p) hvalid h.fresh index
    rw [hrate, heffective]
    exact free_step_div hjerk hvalid.dt_pos _ _ _
  · obtain ⟨-, hacceleration, -⟩ := call_module (p := p) hvalid h.fresh index
    rw [hacceleration]
    exact abs_moduleStep_acceleration_le hp hvalid hjerk hlimit
      (h.acceleration jerk hjerk limit hlimit index) _

section Step

variable (hp : p.Valid) (hvalid : c.Valid limits) (h : d.Sound p) {limit : ℝ}
  (hlimit : p.maximumSteeringAcceleration = some limit) {index : Module}

include hp hvalid h hlimit

theorem free_near (hjerk : p.maximumSteeringJerk = none) (hhold : c.hold index = false)
    (hreaches : d.targetDelta p limits c index ≠ 0 →
      0 < d.generator.steeringRates index * d.targetDelta p limits c index →
        (|d.generator.steeringRates index| - limit * c.dt) * c.dt ≤
          |d.targetDelta p limits c index|) :
    |(d.generator.moduleStep p limits c index (d.generator.reversal p limits c)).step / c.dt -
      d.effective index| ≤ limit * c.dt := by
  rw [moduleStep_followed hhold, h.effective hjerk, followStep, hjerk, hlimit]
  exact trapezoidalStep_near (hp.maximumSteeringAcceleration limit hlimit) hvalid.dt_pos hreaches

theorem held_near (hhold : c.hold index = true) (reversal : Option Bool)
    (hfits : ∀ jerk ∈ p.maximumSteeringJerk,
      StopFits limit jerk (d.generator.steeringRates index)
        (d.generator.steeringAccelerations index) (d.effective index) c.dt) :
    |(d.generator.moduleStep p limits c index reversal).step / c.dt - d.effective index| ≤
      limit * c.dt := by
  have hdt := hvalid.dt_pos
  have hacceleration := hp.maximumSteeringAcceleration limit hlimit
  cases hjerk : p.maximumSteeringJerk with
  | none =>
    rw [free_step_div hjerk hdt, h.effective hjerk, moduleStep, if_pos hhold, holdStep, hjerk,
      hlimit]
    exact slowedRate_near (mul_pos hacceleration hdt)
  | some jerk =>
    rw [moduleStep_held hjerk hhold, hlimit]
    exact jerkLimitedStop_near hacceleration (hp.maximumSteeringJerk jerk hjerk).1 hdt
      (h.acceleration jerk hjerk limit hlimit index) (hfits jerk hjerk)

theorem followed_near (hhold : c.hold index = false) {jerk : ℝ}
    (hjerk : p.maximumSteeringJerk = some jerk)
    (hfits : FollowFits limit jerk p.maximumSteeringSlew
      (d.generator.steeringRates index * direction (d.targetDelta p limits c index))
      (d.generator.steeringAccelerations index * direction (d.targetDelta p limits c index))
      |d.targetDelta p limits c index|
      (d.effective index * direction (d.targetDelta p limits c index)) c.dt) :
    |(d.generator.moduleStep p limits c index (d.generator.reversal p limits c)).step / c.dt -
        d.effective index| ≤ limit * c.dt := by
  rw [moduleStep_followed hhold, followStep_jerk hjerk, hlimit]
  exact jerkLimitedStep_near (hp.maximumSteeringAcceleration limit hlimit)
    (hp.maximumSteeringJerk jerk hjerk).1 hvalid.dt_pos
    (h.acceleration jerk hjerk limit hlimit index) hfits

end Step

theorem FitsAcceleration.keepsAcceleration {index : Module}
    (hfits : d.FitsAcceleration p limits c index) (hp : p.Valid) (hvalid : c.Valid limits)
    (h : d.Sound p) : d.KeepsAcceleration p limits c index := by
  intro limit hlimit
  rw [(call_module hvalid h.fresh index).2.2]
  cases hhold : c.hold index with
  | true =>
    exact held_near hp hvalid h hlimit hhold _ fun jerk hjerk =>
      hfits.held hhold jerk hjerk limit hlimit
  | false =>
    cases hjerk : p.maximumSteeringJerk with
    | none =>
      exact free_near hp hvalid h hlimit hjerk hhold (hfits.trapezoid hhold hjerk limit hlimit)
    | some jerk =>
      exact followed_near hp hvalid h hlimit hhold hjerk
        (hfits.followed hhold jerk hjerk limit hlimit)

theorem along_keepsAcceleration (h : d.Sound p) (hp : p.Valid) {calls : List SteeringCall}
    (hvalid : ∀ c ∈ calls, c.Valid limits)
    (hfits : Along (call p limits) (fun d c => ∀ index, d.FitsAcceleration p limits c index) d
      calls) :
    Along (call p limits) (fun d c => ∀ index, d.KeepsAcceleration p limits c index) d calls := by
  induction calls generalizing d with
  | nil => exact along_nil d
  | cons c calls ih =>
    obtain ⟨hc, hcalls⟩ := List.forall_mem_cons.1 hvalid
    exact ⟨fun index => (hfits.1 index).keepsAcceleration hp hc h, ih (h.call hp hc) hcalls hfits.2⟩

end SteeringDrive

namespace Retarget

open SwerveSetpointGenerator hiding call
open Surge hiding parameters parameters_valid
open SteeringDrive

def parameters : SwerveSetpointParameters :=
  { Surge.parameters with
    maximumSteeringSlew := 1
    maximumSteeringAcceleration := some (1 / 4)
    maximumSteeringJerk := none }

/-- One second towards the angle. -/
def towards (angle : ℝ) : SteeringCall where
  desired _ := ⟨0, angle⟩
  measured _ := 0
  dt := 1

/-- The goal may come nearer while the module turns. -/
def calls (last : ℝ) : List SteeringCall := [towards 1, towards 1, towards last]

theorem parameters_valid : parameters.Valid :=
  { Surge.parameters_valid with
    maximumSteeringSlew := one_pos
    maximumSteeringAcceleration := by simp [parameters]
    maximumSteeringJerk := nofun }

theorem towards_valid (angle : ℝ) : (towards angle).Valid limits := ⟨one_pos, within⟩

theorem targetDelta_towards (d : SteeringDrive) (index : Module) {angle : ℝ} (hpos : 0 < angle)
    (hle : angle ≤ 1) : d.targetDelta parameters limits (towards angle) index =
      angle - d.generator.target limits (towards angle) index := by
  unfold SteeringDrive.targetDelta SwerveSetpointGenerator.targetDelta delta
  rw [goal_of_rest rfl _ _ hpos hle rfl rfl, if_neg (not_lt.2 (abs_nonneg _))]

theorem rising {rate way : ℝ} (hwanted : (rate + 1 / 4) ^ 2 ≤ way / 2) (hfast : rate + 1 / 4 ≤ 1)
    (hway : rate + 1 / 4 ≤ way) (hpos : 0 < way) :
    trapezoidalStep (some (1 / 4)) 1 rate way 1 = ⟨rate + 1 / 4, 0, rate + 1 / 4⟩ := by
  have hroot : rate + 1 / 4 ≤ √(2 * (1 / 4) * |way|) := by
    rw [abs_of_pos hpos]
    exact Real.le_sqrt_of_sq_le (by linarith)
  have hasked : rate + 1 / 4 ≤ wantedRate (some (1 / 4)) 1 way := by
    unfold wantedRate
    rw [if_neg hpos.ne', copysign_of_nonneg hpos.le]
    exact (le_min hfast hroot).trans (le_abs_self _)
  have hlimited : limitedRate (some (1 / 4)) 1 rate way 1 = rate + 1 / 4 := by
    unfold limitedRate
    rw [Option.elim_some, mul_one]
    unfold clampTo
    split_ifs
    · linarith
    · rfl
    · linarith
  rw [trapezoidalStep_eq, hlimited, mul_one, if_neg]
  exact fun harrives => absurd ((one_lt_div hpos).1 harrives.2) (not_lt.2 hway)

theorem call_towards {d : SteeringDrive} (h : d.generator.Fresh) {index : Module}
    {rate target angle : ℝ} (hpos : 0 < angle) (hle : angle ≤ 1)
    (hrate : d.generator.steeringRates index = rate)
    (htarget : d.generator.target limits (towards angle) index = target)
    (hstep : trapezoidalStep (some (1 / 4)) 1 rate (angle - target) 1 =
      ⟨rate + 1 / 4, 0, rate + 1 / 4⟩) (next : SteeringCall) :
    (d.call parameters limits (towards angle)).generator.steeringRates index = rate + 1 / 4 ∧
      (d.call parameters limits (towards angle)).generator.target limits next index =
        target + (rate + 1 / 4) := by
  have hmodule : (d.generator.moduleStep parameters limits (towards angle) index
      (d.generator.reversal parameters limits (towards angle))) =
        ⟨rate + 1 / 4, d.generator.steeringAccelerations index, rate + 1 / 4⟩ := by
    have hdelta := targetDelta_towards d index hpos hle
    rw [SteeringDrive.targetDelta, htarget] at hdelta
    rw [moduleStep_followed rfl, hdelta, followStep, hrate]
    change SteeringStep.mk (trapezoidalStep (some (1 / 4)) 1 rate (angle - target) 1).rate _
      (trapezoidalStep (some (1 / 4)) 1 rate (angle - target) 1).step = _
    rw [hstep]
  obtain ⟨hnext, -⟩ := call_module (p := parameters) (towards_valid angle) h index
  obtain ⟨hmoved, -⟩ := (call_moved (p := parameters) (towards_valid angle) h).2 index
  rw [hmodule] at hnext
  refine ⟨hnext, ?_⟩
  change (((d.generator.call parameters limits (towards angle)).previousTargets index).getD _) = _
  rw [hmoved, Option.getD_some, htarget]
  exact congrArg (target + ·) (congrArg SteeringStep.step hmodule)

/-- The rates and the targets before the calls. -/
theorem ramp (index : Module) (next : SteeringCall) :
    let d₀ : SteeringDrive := ⟨reset fun _ => none, fun _ => 0⟩
    let d₁ := d₀.call parameters limits (towards 1)
    let d₂ := d₁.call parameters limits (towards 1)
    (d₀.generator.steeringRates index = 0 ∧ d₀.generator.target limits (towards 1) index = 0) ∧
      (d₁.generator.steeringRates index = 1 / 4 ∧ d₁.generator.target limits next index = 1 / 4) ∧
        d₂.generator.steeringRates index = 1 / 2 ∧ d₂.generator.target limits next index = 3 / 4 := by
  have hrest : Sound parameters ⟨reset fun _ => none, fun _ => 0⟩ := Sound.reset parameters_valid _
  have hfirst := hrest.call parameters_valid (towards_valid 1)
  have htarget₀ : (reset fun _ => none).target limits (towards 1) index = 0 := clamp_zero index
  have hrate₀ : (reset fun _ => none).steeringRates index = 0 := rfl
  have hcall₁ := call_towards hrest.fresh one_pos le_rfl hrate₀ htarget₀
    (rising (by norm_num) (by norm_num) (by norm_num) (by norm_num))
  have hcall₂ := call_towards hfirst.fresh one_pos le_rfl (hcall₁ next).1 (hcall₁ (towards 1)).2
    (rising (by norm_num) (by norm_num) (by norm_num) (by norm_num)) next
  norm_num at hcall₁ hcall₂
  exact ⟨⟨hrate₀, htarget₀⟩, hcall₁ next, hcall₂⟩

theorem fits_towards {d : SteeringDrive} {index : Module} {rate target angle : ℝ}
    (hpos : 0 < angle) (hle : angle ≤ 1) (hrate : d.generator.steeringRates index = rate)
    (htarget : d.generator.target limits (towards angle) index = target)
    (hnear : |rate| - 1 / 4 ≤ |angle - target|) :
    d.FitsAcceleration parameters limits (towards angle) index where
  trapezoid _ _ limit hlimit _ _ := by
    obtain rfl : 1 / 4 = limit := Option.some.inj hlimit
    rw [targetDelta_towards d index hpos hle, htarget, hrate]
    simpa [towards] using hnear
  followed _ := nofun
  held := nofun

end Retarget

end RobotDriver.Swerve

end
