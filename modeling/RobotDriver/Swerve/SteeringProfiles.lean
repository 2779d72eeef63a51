import RobotDriver.Swerve.SteeringCalls

/-!
# The profiles of a steering step

One step of a module under an acceleration limit or a jerk limit: how far it takes the target, and
which rate it leaves.
-/

noncomputable section

open scoped Classical

namespace RobotDriver.Swerve

/-- A step on a way of `delta` ends beyond it. -/
def Passes (delta step : ℝ) : Prop := 0 ≤ delta * step ∧ |delta| < |step|

/-- The way of a step and the rate behind it stay within the limit. -/
structure SteeringStep.Within (step : SteeringStep) (maximumRate dt : ℝ) : Prop where
  way : |step.step| ≤ maximumRate * dt
  rate : |step.rate| ≤ maximumRate

section Trapezoid

variable {maximumRate rate delta dt : ℝ} {maximumAcceleration : Option ℝ}

theorem copysign_of_nonneg {value sign : ℝ} (h : 0 ≤ sign) : copysign value sign = |value| :=
  if_neg (not_lt.2 h)

theorem copysign_of_neg {value sign : ℝ} (h : sign < 0) : copysign value sign = -|value| := if_pos h

theorem abs_clampTo_le {value slack : ℝ} (hslack : 0 ≤ slack) (hvalue : |value| ≤ maximumRate)
    (hrate : |rate| ≤ maximumRate) :
    |clampTo value (rate - slack) (rate + slack)| ≤ maximumRate := by
  obtain ⟨hvalueLow, hvalueHigh⟩ := abs_le.1 hvalue
  obtain ⟨hrateLow, hrateHigh⟩ := abs_le.1 hrate
  unfold clampTo
  split_ifs with hlow hhigh
  · exact abs_le.2 ⟨by linarith, by linarith⟩
  · exact abs_le.2 ⟨by linarith, by linarith⟩
  · exact hvalue

theorem abs_slowedRate (limit rate dt : ℝ) :
    |slowedRate (some limit) rate dt| = max 0 (|rate| - limit * dt) := by
  unfold slowedRate
  rw [abs_copysign]
  exact abs_of_nonneg (le_max_left _ _)

theorem slowedRate_none (rate dt : ℝ) : slowedRate none rate dt = 0 := by
  rw [← abs_eq_zero]
  unfold slowedRate
  rw [abs_copysign]
  exact abs_zero

theorem abs_slowedRate_le (hlimit : ∀ limit ∈ maximumAcceleration, 0 < limit) (hdt : 0 < dt) :
    |slowedRate maximumAcceleration rate dt| ≤ |rate| := by
  cases maximumAcceleration with
  | none =>
    rw [slowedRate_none, abs_zero]
    exact abs_nonneg rate
  | some limit =>
    have hstep := mul_pos (hlimit limit rfl) hdt
    rw [abs_slowedRate]
    exact max_le (abs_nonneg rate) (by linarith)

theorem within_of_rate {next : ℝ} (hdt : 0 < dt) (h : |next| ≤ maximumRate) (acceleration : ℝ) :
    SteeringStep.Within ⟨next, acceleration, next * dt⟩ maximumRate dt := by
  refine ⟨?_, h⟩
  rw [abs_mul, abs_of_pos hdt]
  exact mul_le_mul_of_nonneg_right h hdt.le

theorem clampTo_zero {limit : ℝ} (hlimit : 0 < limit * dt) :
    clampTo 0 (rate - limit * dt) (rate + limit * dt) = slowedRate (some limit) rate dt := by
  change _ = copysign (max 0 (|rate| - limit * dt)) rate
  rcases lt_or_ge rate 0 with hneg | hnonneg
  · rw [copysign_of_neg hneg, abs_of_neg hneg, abs_of_nonneg (le_max_left _ _)]
    unfold clampTo
    rw [if_neg (by linarith)]
    split_ifs with hhigh
    · rw [max_eq_right (by linarith)]
      ring
    · rw [max_eq_left (by linarith), neg_zero]
  · rw [copysign_of_nonneg hnonneg, abs_of_nonneg hnonneg, abs_of_nonneg (le_max_left _ _)]
    unfold clampTo
    split_ifs with hlow hhigh
    · rw [max_eq_right hlow.le]
    · linarith
    · rw [max_eq_left (by linarith)]

theorem trapezoidalStep_zero (hlimit : ∀ limit ∈ maximumAcceleration, 0 < limit) (hdt : 0 < dt) :
    trapezoidalStep maximumAcceleration maximumRate rate 0 dt =
      ⟨slowedRate maximumAcceleration rate dt, 0,
        slowedRate maximumAcceleration rate dt * dt⟩ := by
  unfold trapezoidalStep
  simp only [if_true, ne_eq, not_true, false_and, if_false]
  cases maximumAcceleration with
  | none =>
    rw [slowedRate_none]
    rfl
  | some limit =>
    rw [← clampTo_zero (mul_pos (hlimit limit rfl) hdt)]
    rfl

theorem nonneg_of_mul_copysign {value : ℝ} (hvalue : 0 < value)
    (h : 0 ≤ delta * copysign value rate) : 0 ≤ rate * delta := by
  rcases lt_or_ge rate 0 with hneg | hnonneg
  · rw [copysign_of_neg hneg, abs_of_pos hvalue, mul_neg, ← neg_mul,
      mul_nonneg_iff_of_pos_right hvalue] at h
    exact mul_nonneg_of_nonpos_of_nonpos hneg.le (neg_nonneg.1 h)
  · rw [copysign_of_nonneg hnonneg, abs_of_pos hvalue, mul_nonneg_iff_of_pos_right hvalue] at h
    exact mul_nonneg hnonneg h

theorem not_passes_slowedRate (hdt : 0 < dt)
    (hreaches : ∀ limit ∈ maximumAcceleration, 0 ≤ rate * delta →
      (|rate| - limit * dt) * dt ≤ |delta|) :
    ¬Passes delta (slowedRate maximumAcceleration rate dt * dt) := by
  rintro ⟨hsame, hbeyond⟩
  rw [abs_mul, abs_of_pos hdt] at hbeyond
  rw [← mul_assoc, mul_nonneg_iff_of_pos_right hdt] at hsame
  cases maximumAcceleration with
  | none =>
    rw [slowedRate_none, abs_zero, zero_mul] at hbeyond
    exact absurd hbeyond (not_lt.2 (abs_nonneg delta))
  | some limit =>
    rw [abs_slowedRate] at hbeyond
    rcases le_or_gt (|rate| - limit * dt) 0 with hstops | hmoves
    · rw [max_eq_left hstops, zero_mul] at hbeyond
      exact absurd hbeyond (not_lt.2 (abs_nonneg delta))
    · rw [max_eq_right hmoves.le] at hbeyond
      change 0 ≤ delta * copysign (max 0 (|rate| - limit * dt)) rate at hsame
      rw [max_eq_right hmoves.le] at hsame
      exact absurd hbeyond (not_lt.2 (hreaches limit rfl (nonneg_of_mul_copysign hmoves hsame)))

theorem abs_lt_of_one_lt_div {step : ℝ} (h : 1 < step / delta) : |delta| < |step| := by
  have hdelta : delta ≠ 0 := by
    rintro rfl
    rw [div_zero] at h
    linarith
  have habs : 1 < |step / delta| := h.trans_le (le_abs_self _)
  rwa [abs_div, one_lt_div (abs_pos.2 hdelta)] at habs

theorem not_passes_of_div_le {step : ℝ} (hdelta : delta ≠ 0) (h : ¬1 < step / delta) :
    ¬Passes delta step := by
  rintro ⟨hsame, hbeyond⟩
  have hquotient : step / delta = |step| / |delta| := by
    rw [← abs_div, abs_of_nonneg]
    rw [← mul_div_mul_left step delta hdelta]
    exact div_nonneg hsame (mul_self_nonneg delta)
  rw [hquotient, one_lt_div (abs_pos.2 hdelta)] at h
  exact h hbeyond

/-- The rate that a step of the trapezoid asks for. -/
def wantedRate (maximumAcceleration : Option ℝ) (maximumRate delta : ℝ) : ℝ :=
  if delta = 0 then 0
  else copysign (maximumAcceleration.elim maximumRate fun limit =>
    min maximumRate (√(2 * limit * |delta|))) delta

def limitedRate (maximumAcceleration : Option ℝ) (maximumRate rate delta dt : ℝ) : ℝ :=
  maximumAcceleration.elim (wantedRate maximumAcceleration maximumRate delta) fun limit =>
    clampTo (wantedRate maximumAcceleration maximumRate delta) (rate - limit * dt)
      (rate + limit * dt)

theorem trapezoidalStep_eq (maximumAcceleration : Option ℝ) (maximumRate rate delta dt : ℝ) :
    trapezoidalStep maximumAcceleration maximumRate rate delta dt =
      if delta ≠ 0 ∧
          1 < limitedRate maximumAcceleration maximumRate rate delta dt * dt / delta then
        ⟨delta / dt, 0, delta⟩
      else
        ⟨limitedRate maximumAcceleration maximumRate rate delta dt, 0,
          limitedRate maximumAcceleration maximumRate rate delta dt * dt⟩ := rfl

theorem abs_wantedRate_le (hmaximum : 0 < maximumRate) :
    |wantedRate maximumAcceleration maximumRate delta| ≤ maximumRate := by
  unfold wantedRate
  split_ifs
  · rw [abs_zero]
    exact hmaximum.le
  · rw [abs_copysign]
    cases maximumAcceleration with
    | none => exact (abs_of_pos hmaximum).le
    | some limit =>
      exact (abs_of_nonneg (le_min hmaximum.le (Real.sqrt_nonneg _))).trans_le (min_le_left _ _)

theorem abs_limitedRate_le (hmaximum : 0 < maximumRate)
    (hlimit : ∀ limit ∈ maximumAcceleration, 0 < limit) (hdt : 0 < dt)
    (hrate : |rate| ≤ maximumRate) :
    |limitedRate maximumAcceleration maximumRate rate delta dt| ≤ maximumRate := by
  have hwanted : |wantedRate maximumAcceleration maximumRate delta| ≤ maximumRate :=
    abs_wantedRate_le hmaximum
  cases maximumAcceleration with
  | none => exact hwanted
  | some limit => exact abs_clampTo_le (mul_pos (hlimit limit rfl) hdt).le hwanted hrate

theorem trapezoidalStep_within (hmaximum : 0 < maximumRate)
    (hlimit : ∀ limit ∈ maximumAcceleration, 0 < limit) (hdt : 0 < dt)
    (hrate : |rate| ≤ maximumRate) :
    (trapezoidalStep maximumAcceleration maximumRate rate delta dt).Within maximumRate dt := by
  have hlimited : |limitedRate maximumAcceleration maximumRate rate delta dt| ≤ maximumRate :=
    abs_limitedRate_le hmaximum hlimit hdt hrate
  have hwithin := within_of_rate hdt hlimited 0
  rw [trapezoidalStep_eq]
  split_ifs with harrives
  · have hway : |delta| ≤ maximumRate * dt := (abs_lt_of_one_lt_div harrives.2).le.trans hwithin.way
    refine ⟨hway, ?_⟩
    rw [abs_div, abs_of_pos hdt, div_le_iff₀ hdt]
    exact hway
  · exact hwithin

theorem trapezoidalStep_not_passes (hdelta : delta ≠ 0) :
    ¬Passes delta (trapezoidalStep maximumAcceleration maximumRate rate delta dt).step := by
  rw [trapezoidalStep_eq]
  split_ifs with harrives
  · exact fun h => lt_irrefl _ h.2
  · exact not_passes_of_div_le hdelta fun hpasses => harrives ⟨hdelta, hpasses⟩

end Trapezoid

section Jerk

variable (maximumAcceleration jerk maximumRate v a remaining dt : ℝ)

/-- The acceleration of a step that does not brake. -/
def cruiseAcceleration : ℝ :=
  clampTo (min maximumAcceleration (√(2 * jerk * max (maximumRate - v) 0))) (a - jerk * dt)
    (a + jerk * dt)

/-- The way of a step that does not brake. -/
def cruiseWay : ℝ :=
  (v + (v + cruiseAcceleration maximumAcceleration jerk maximumRate v a dt * dt)) / 2 * dt

/-- The stop behind the step would not fit in the way that remains. -/
def Brakes : Prop :=
  remaining - cruiseWay maximumAcceleration jerk maximumRate v a dt <
    stoppingDistance (v + cruiseAcceleration maximumAcceleration jerk maximumRate v a dt * dt)
      (cruiseAcceleration maximumAcceleration jerk maximumRate v a dt) maximumAcceleration jerk

def brakingAcceleration : ℝ := max (a - jerk * dt) (-maximumAcceleration)

def brakingWay : ℝ :=
  (v + max (v + brakingAcceleration maximumAcceleration jerk a dt * dt) 0) / 2 * dt

/-- The step before the goal is looked at. -/
def plannedStep : SteeringStep :=
  if Brakes maximumAcceleration jerk maximumRate v a remaining dt then
    ⟨v + brakingAcceleration maximumAcceleration jerk a dt * dt,
      brakingAcceleration maximumAcceleration jerk a dt,
      brakingWay maximumAcceleration jerk v a dt⟩
  else
    ⟨v + cruiseAcceleration maximumAcceleration jerk maximumRate v a dt * dt,
      cruiseAcceleration maximumAcceleration jerk maximumRate v a dt,
      cruiseWay maximumAcceleration jerk maximumRate v a dt⟩

/-- Arrived at rest, or about to pass the goal. -/
def Arrives (planned : SteeringStep) (v remaining : ℝ) : Prop :=
  planned.rate ≤ 0 ∧ 0 ≤ v ∧ remaining ≤ planned.step + 1 / 10 ^ 12 ∨ remaining ≤ planned.step

def landedStep (planned : SteeringStep) (v remaining : ℝ) : SteeringStep :=
  if Arrives planned v remaining then ⟨0, 0, remaining⟩ else planned

def direction (delta : ℝ) : ℝ := if 0 ≤ delta then 1 else -1

theorem jerkLimitedStep_eq (rate acceleration delta : ℝ) :
    jerkLimitedStep maximumAcceleration jerk maximumRate rate acceleration delta dt =
      let v := rate * direction delta
      let a := acceleration * direction delta
      if |delta| = 0 ∧ v = 0 ∧ a = 0 then ⟨rate, acceleration, 0⟩
      else
        let next := landedStep (plannedStep maximumAcceleration jerk maximumRate v a |delta| dt) v
          |delta|
        ⟨clampTo next.rate (-maximumRate) maximumRate * direction delta,
          next.acceleration * direction delta, next.step * direction delta⟩ := by
  have hland : ∀ (planned : SteeringStep) (v remaining : ℝ), landedStep planned v remaining =
      if planned.rate ≤ 0 ∧ 0 ≤ v ∧ remaining ≤ planned.step + 1 / 10 ^ 12 then ⟨0, 0, remaining⟩
      else if remaining ≤ planned.step then ⟨0, 0, remaining⟩ else planned := by
    intro planned v remaining
    unfold landedStep Arrives
    split_ifs with harrives hrest hreached hrest hreached
    · rfl
    · rfl
    · exact absurd harrives (not_or.2 ⟨hrest, hreached⟩)
    · exact absurd (.inl hrest) harrives
    · exact absurd (.inr hreached) harrives
    · rfl
  simp only [hland]
  rfl

/-- What keeps a jerk-limited step within the rate limit. Turned back at once, the acceleration in
flight takes the module away from the goal no faster than the limit; and the goal is near, or no
acceleration that is allowed next takes the mean rate beyond the limit. -/
structure RateFits : Prop where
  resolved : 2 / 10 ^ 12 ≤ maximumRate * dt
  lower : -maximumRate ≤ v + (a + jerk * dt) * dt / 2
  upper : maximumRate * dt < remaining →
    v + (a - jerk * dt) * dt / 2 ≤ maximumRate ∧
      (v = maximumRate ∨ v + jerk * dt ^ 2 / 2 ≤ maximumRate ∨
        v + maximumAcceleration * dt / 2 ≤ maximumRate ∨
        v + (a + jerk * dt) * dt / 2 ≤ maximumRate)

/-- What keeps a step from a goal that the code takes for reached on this side of the real one: the
rate in flight turns no further away from it than it is. -/
def GoalFits (jerk v a dt delta : ℝ) : Prop :=
  delta ≤ 0 → 0 ≤ v + min 0 (a + jerk * dt) * dt / 2 ∨
    delta ≤ (v + min 0 (a + jerk * dt) * dt / 2) * dt

variable {maximumAcceleration jerk maximumRate v a remaining dt}

theorem min_zero_le_cruiseAcceleration (hacceleration : 0 < maximumAcceleration) :
    min 0 (a + jerk * dt) ≤ cruiseAcceleration maximumAcceleration jerk maximumRate v a dt := by
  have hnonneg : 0 ≤ min maximumAcceleration (√(2 * jerk * max (maximumRate - v) 0)) :=
    le_min hacceleration.le (Real.sqrt_nonneg _)
  unfold cruiseAcceleration clampTo
  split_ifs with hlow hhigh
  · exact (min_le_left _ _).trans (hnonneg.trans hlow.le)
  · exact min_le_right _ _
  · exact (min_le_left _ _).trans hnonneg

theorem cruiseWay_eq : cruiseWay maximumAcceleration jerk maximumRate v a dt =
    (v + cruiseAcceleration maximumAcceleration jerk maximumRate v a dt * dt / 2) * dt := by
  unfold cruiseWay
  ring

theorem brakingWay_ge (hdt : 0 < dt) : v / 2 * dt ≤ brakingWay maximumAcceleration jerk v a dt := by
  unfold brakingWay
  refine mul_le_mul_of_nonneg_right (div_le_div_of_nonneg_right ?_ two_pos.le) hdt.le
  linarith [le_max_right (v + brakingAcceleration maximumAcceleration jerk a dt * dt) 0]

theorem le_plannedStep (hacceleration : 0 < maximumAcceleration) (hdt : 0 < dt) :
    min 0 ((v + min 0 (a + jerk * dt) * dt / 2) * dt) ≤
      (plannedStep maximumAcceleration jerk maximumRate v a remaining dt).step := by
  have hturn : min 0 (a + jerk * dt) * dt ≤ 0 :=
    mul_nonpos_of_nonpos_of_nonneg (min_le_left _ _) hdt.le
  unfold plannedStep
  split_ifs
  · refine le_trans ?_ (brakingWay_ge hdt)
    rcases le_or_gt 0 v with hforward | hback
    · exact (min_le_left _ _).trans (by positivity)
    · exact (min_le_right _ _).trans (mul_le_mul_of_nonneg_right (by linarith) hdt.le)
  · refine (min_le_right _ _).trans ?_
    dsimp only
    rw [cruiseWay_eq]
    have hleast : min 0 (a + jerk * dt) ≤
        cruiseAcceleration maximumAcceleration jerk maximumRate v a dt :=
      min_zero_le_cruiseAcceleration hacceleration
    have hway := mul_le_mul_of_nonneg_right hleast hdt.le
    exact mul_le_mul_of_nonneg_right (by linarith) hdt.le

/-- A step that ends its rate takes at most the way of half of it. -/
theorem plannedStep_le_half (hdt : 0 < dt)
    (h : (plannedStep maximumAcceleration jerk maximumRate v a remaining dt).rate ≤ 0) :
    (plannedStep maximumAcceleration jerk maximumRate v a remaining dt).step ≤ v / 2 * dt := by
  revert h
  unfold plannedStep
  split_ifs
  · intro h
    unfold brakingWay
    dsimp only at h ⊢
    rw [max_eq_right h, add_zero]
  · intro h
    unfold cruiseWay
    dsimp only at h ⊢
    exact mul_le_mul_of_nonneg_right (by linarith) hdt.le

theorem sqrt_mul_le (hdt : 0 < dt) {gap : ℝ} (hjerk : 0 < jerk)
    (hgap : gap = 0 ∨ jerk * dt ^ 2 / 2 ≤ gap) : √(2 * jerk * max gap 0) * dt / 2 ≤ gap := by
  rcases hgap with rfl | hwide
  · simp
  · have hpos : 0 < gap := (by positivity : 0 < jerk * dt ^ 2 / 2).trans_le hwide
    rw [max_eq_left hpos.le, div_le_iff₀ two_pos, ← le_div_iff₀ hdt]
    refine Real.sqrt_le_iff.2 ⟨by positivity, ?_⟩
    rw [div_pow, le_div_iff₀ (by positivity)]
    nlinarith

theorem plannedStep_le (hmaximum : 0 < maximumRate) (hacceleration : 0 < maximumAcceleration)
    (hjerk : 0 < jerk) (hdt : 0 < dt) (hv : v ≤ maximumRate)
    (hturned : v + (a - jerk * dt) * dt / 2 ≤ maximumRate)
    (hnext : v = maximumRate ∨ v + jerk * dt ^ 2 / 2 ≤ maximumRate ∨
      v + maximumAcceleration * dt / 2 ≤ maximumRate ∨
      v + (a + jerk * dt) * dt / 2 ≤ maximumRate) :
    (plannedStep maximumAcceleration jerk maximumRate v a remaining dt).step ≤
      maximumRate * dt := by
  have hbrake := mul_pos hacceleration hdt
  unfold plannedStep
  split_ifs
  · refine mul_le_mul_of_nonneg_right ?_ hdt.le
    have hmax : max (v + brakingAcceleration maximumAcceleration jerk a dt * dt) 0 ≤
        2 * maximumRate - v := by
      refine max_le ?_ (by linarith)
      unfold brakingAcceleration
      rcases max_choice (a - jerk * dt) (-maximumAcceleration) with heq | heq
      · rw [heq]
        linarith
      · rw [heq]
        linarith
    linarith
  · dsimp only
    rw [cruiseWay_eq]
    refine mul_le_mul_of_nonneg_right ?_ hdt.le
    have hroot : v = maximumRate ∨ v + jerk * dt ^ 2 / 2 ≤ maximumRate →
        v + √(2 * jerk * max (maximumRate - v) 0) * dt / 2 ≤ maximumRate := by
      intro h
      have hgap := sqrt_mul_le hdt hjerk (h.imp (fun heq => sub_eq_zero.2 heq.symm)
        (fun hle => le_sub_iff_add_le'.2 hle))
      linarith
    generalize hroot' : √(2 * jerk * max (maximumRate - v) 0) = root at hroot
    have hscaled : ∀ {x y : ℝ}, x ≤ y → x * dt ≤ y * dt := fun h =>
      mul_le_mul_of_nonneg_right h hdt.le
    have hsmaller : min maximumAcceleration root ≤ root := min_le_right _ _
    have hlimited : min maximumAcceleration root ≤ maximumAcceleration := min_le_left _ _
    unfold cruiseAcceleration clampTo
    rw [hroot']
    split_ifs with hlow hhigh
    · exact hturned
    · rcases hnext with heq | hwide | hslow | hfree
      · linarith [hroot (.inl heq), hscaled (hhigh.le.trans hsmaller)]
      · linarith [hroot (.inr hwide), hscaled (hhigh.le.trans hsmaller)]
      · linarith [hscaled (hhigh.le.trans hlimited)]
      · exact hfree
    · rcases hnext with heq | hwide | hslow | hfree
      · linarith [hroot (.inl heq), hscaled hsmaller]
      · linarith [hroot (.inr hwide), hscaled hsmaller]
      · linarith [hscaled hlimited]
      · linarith [hscaled (not_lt.1 hhigh)]

theorem abs_landedStep_le (hmaximum : 0 < maximumRate) (hacceleration : 0 < maximumAcceleration)
    (hjerk : 0 < jerk) (hdt : 0 < dt) (hv : |v| ≤ maximumRate) (hremaining : 0 ≤ remaining)
    (h : RateFits maximumAcceleration jerk maximumRate v a remaining dt) :
    |(landedStep (plannedStep maximumAcceleration jerk maximumRate v a remaining dt) v
        remaining).step| ≤ maximumRate * dt := by
  obtain ⟨hlow, hhigh⟩ := abs_le.1 hv
  have hresolved := h.resolved
  have hfar : maximumRate * dt < remaining →
      (plannedStep maximumAcceleration jerk maximumRate v a remaining dt).step ≤
        maximumRate * dt := fun hfar =>
    plannedStep_le hmaximum hacceleration hjerk hdt hhigh (h.upper hfar).1 (h.upper hfar).2
  have hleast : min 0 ((v + min 0 (a + jerk * dt) * dt / 2) * dt) ≤
      (plannedStep maximumAcceleration jerk maximumRate v a remaining dt).step :=
    le_plannedStep hacceleration hdt
  unfold landedStep
  split_ifs with harrives
  · rw [abs_of_nonneg hremaining]
    by_contra hbeyond
    have hway := hfar (not_le.1 hbeyond)
    rcases harrives with ⟨hrest, -, hreached⟩ | hreached
    · have hhalf := plannedStep_le_half hdt hrest
      linarith [mul_le_mul_of_nonneg_right hhigh hdt.le]
    · linarith
  · have hbefore := not_le.1 fun hle => harrives (.inr hle)
    refine abs_le.2 ⟨le_trans (le_min ?_ ?_) hleast, ?_⟩
    · linarith [mul_pos hmaximum hdt]
    · rw [← neg_mul]
      refine mul_le_mul_of_nonneg_right ?_ hdt.le
      rcases min_choice 0 (a + jerk * dt) with heq | heq
      · rw [heq]
        linarith
      · rw [heq]
        exact h.lower
    · rcases lt_or_ge (maximumRate * dt) remaining with hlong | hshort
      · exact hfar hlong
      · linarith

theorem direction_mul_self (delta : ℝ) : direction delta * direction delta = 1 := by
  unfold direction
  split_ifs <;> norm_num

theorem abs_mul_direction (value delta : ℝ) : |value * direction delta| = |value| := by
  have hone : |direction delta| = 1 := by
    unfold direction
    split_ifs <;> simp
  rw [abs_mul, hone, mul_one]

theorem abs_mul_direction_self (delta : ℝ) : |delta| * direction delta = delta := by
  unfold direction
  split_ifs with hnonneg
  · rw [abs_of_nonneg hnonneg, mul_one]
  · rw [abs_of_neg (not_le.1 hnonneg), neg_mul_neg, mul_one]

theorem jerkLimitedStep_within (hmaximum : 0 < maximumRate)
    (hacceleration : 0 < maximumAcceleration) (hjerk : 0 < jerk) (hdt : 0 < dt)
    {rate acceleration delta : ℝ} (hrate : |rate| ≤ maximumRate)
    (h : RateFits maximumAcceleration jerk maximumRate (rate * direction delta)
      (acceleration * direction delta) |delta| dt) :
    (jerkLimitedStep maximumAcceleration jerk maximumRate rate acceleration delta dt).Within
      maximumRate dt := by
  have hway := mul_pos hmaximum hdt
  rw [jerkLimitedStep_eq]
  dsimp only
  split_ifs with hrest
  · exact ⟨abs_zero.trans_le hway.le, hrate⟩
  · have hstep := abs_landedStep_le hmaximum hacceleration hjerk hdt
      ((abs_mul_direction rate delta).trans_le hrate) (abs_nonneg delta) h
    refine ⟨(abs_mul_direction _ delta).trans_le hstep, (abs_mul_direction _ delta).trans_le ?_⟩
    exact abs_le.2 (clampTo_mem (by linarith))

theorem landedStep_le (planned : SteeringStep) (v remaining : ℝ) :
    (landedStep planned v remaining).step ≤ remaining := by
  unfold landedStep
  split_ifs with harrives
  · exact le_rfl
  · exact (not_le.1 fun hle => harrives (.inr hle)).le

theorem jerkLimitedStep_not_passes {rate acceleration delta : ℝ} (hdelta : delta ≠ 0) :
    ¬Passes delta (jerkLimitedStep maximumAcceleration jerk maximumRate rate acceleration delta
      dt).step := by
  rw [jerkLimitedStep_eq]
  dsimp only
  rw [if_neg fun hrest => hdelta (abs_eq_zero.1 hrest.1)]
  rintro ⟨hsame, hbeyond⟩
  have hle := landedStep_le (plannedStep maximumAcceleration jerk maximumRate
    (rate * direction delta) (acceleration * direction delta) |delta| dt) (rate * direction delta)
    |delta|
  rw [abs_mul_direction] at hbeyond
  nth_rewrite 1 [← abs_mul_direction_self delta] at hsame
  rw [mul_mul_mul_comm, direction_mul_self, mul_one,
    mul_nonneg_iff_of_pos_left (abs_pos.2 hdelta)] at hsame
  rw [abs_of_nonneg hsame] at hbeyond
  exact absurd hle (not_le.2 hbeyond)

theorem not_passes_zero (delta : ℝ) : ¬Passes delta 0 := by
  rintro ⟨-, hbeyond⟩
  rw [abs_zero] at hbeyond
  exact absurd hbeyond (not_lt.2 (abs_nonneg _))

theorem jerkLimitedStep_zero_not_passes (hacceleration : 0 < maximumAcceleration)
    (hdt : 0 < dt) {rate acceleration delta : ℝ}
    (h : GoalFits jerk rate acceleration dt delta) :
    ¬Passes delta (jerkLimitedStep maximumAcceleration jerk maximumRate rate acceleration 0
        dt).step := by
  have hdirection : direction 0 = 1 := if_pos le_rfl
  have hleast : min 0 ((rate + min 0 (acceleration + jerk * dt) * dt / 2) * dt) ≤
      (plannedStep maximumAcceleration jerk maximumRate rate acceleration 0 dt).step :=
    le_plannedStep hacceleration hdt
  rw [jerkLimitedStep_eq]
  dsimp only
  rw [hdirection, mul_one, mul_one, abs_zero]
  split_ifs with hrest
  · exact not_passes_zero delta
  change ¬Passes delta ((landedStep _ rate 0).step * 1)
  rw [mul_one]
  unfold landedStep
  split_ifs with harrives
  · exact not_passes_zero delta
  · have hback := not_le.1 fun hle => harrives (.inr hle)
    rintro ⟨hsame, hbeyond⟩
    have hdelta : delta ≤ 0 := nonpos_of_mul_nonneg_left hsame hback
    rw [abs_of_nonpos hdelta, abs_of_neg hback, neg_lt_neg_iff] at hbeyond
    rcases h hdelta with hforward | hnear
    · rw [min_eq_left (mul_nonneg hforward hdt.le)] at hleast
      linarith
    · exact absurd hleast (not_le.2 (lt_min hback (hbeyond.trans_le hnear)))

/-- What keeps a held module within the rate limit. -/
structure HoldFits (jerk maximumRate rate acceleration dt : ℝ) : Prop where
  forward : 0 < rate → rate + (acceleration - jerk * dt) * dt ≤ maximumRate
  backward : rate < 0 → -maximumRate ≤ rate + (acceleration + jerk * dt) * dt

/-- The acceleration that ends a rate. -/
def stopAcceleration (maximumAcceleration jerk rate acceleration dt : ℝ) : ℝ :=
  clampTo (copysign (min maximumAcceleration (√(2 * jerk * |rate|))) (-rate))
    (acceleration - jerk * dt) (acceleration + jerk * dt)

theorem jerkLimitedStop_eq (maximumAcceleration jerk rate acceleration dt : ℝ) :
    jerkLimitedStop maximumAcceleration jerk rate acceleration dt =
      let next := stopAcceleration maximumAcceleration jerk rate acceleration dt
      if rate = 0 then ⟨0, 0, 0⟩
      else if (rate + next * dt) * rate ≤ 0 then ⟨0, 0, 0⟩
      else ⟨rate + next * dt, next, (rate + next * dt) * dt⟩ := rfl

theorem stopAcceleration_mem (maximumAcceleration : ℝ) (hjerk : 0 < jerk) (hdt : 0 < dt)
    (rate acceleration : ℝ) :
    acceleration - jerk * dt ≤
        stopAcceleration maximumAcceleration jerk rate acceleration dt ∧
      stopAcceleration maximumAcceleration jerk rate acceleration dt ≤
        acceleration + jerk * dt := by
  have hslack := mul_pos hjerk hdt
  exact clampTo_mem (by linarith)

theorem stopAcceleration_of_pos (maximumAcceleration acceleration : ℝ) (hjerk : 0 < jerk)
    (hdt : 0 < dt) {rate : ℝ} (hrate : 0 < rate) :
    stopAcceleration maximumAcceleration jerk rate acceleration dt = acceleration - jerk * dt ∨
      stopAcceleration maximumAcceleration jerk rate acceleration dt ≤ 0 := by
  have hslack := mul_pos hjerk hdt
  have hnonneg : 0 ≤ |min maximumAcceleration (√(2 * jerk * |rate|))| := abs_nonneg _
  unfold stopAcceleration clampTo
  rw [copysign_of_neg (neg_neg_of_pos hrate)]
  split_ifs with hlow hhigh
  · exact .inl rfl
  · right
    linarith
  · right
    linarith

theorem stopAcceleration_of_neg (maximumAcceleration acceleration : ℝ) (hjerk : 0 < jerk)
    (hdt : 0 < dt) {rate : ℝ} (hrate : rate < 0) :
    stopAcceleration maximumAcceleration jerk rate acceleration dt = acceleration + jerk * dt ∨
      0 ≤ stopAcceleration maximumAcceleration jerk rate acceleration dt := by
  have hslack := mul_pos hjerk hdt
  have hnonneg : 0 ≤ |min maximumAcceleration (√(2 * jerk * |rate|))| := abs_nonneg _
  unfold stopAcceleration clampTo
  rw [copysign_of_nonneg (neg_pos.2 hrate).le]
  split_ifs with hlow hhigh
  · right
    linarith
  · exact .inl rfl
  · right
    linarith

theorem within_stopped (hmaximum : 0 < maximumRate) (hdt : 0 < dt) :
    SteeringStep.Within ⟨0, 0, 0⟩ maximumRate dt := by
  refine ⟨?_, ?_⟩
  · rw [abs_zero]
    exact (mul_pos hmaximum hdt).le
  · rw [abs_zero]
    exact hmaximum.le

theorem jerkLimitedStop_within (hmaximum : 0 < maximumRate) (hjerk : 0 < jerk) (hdt : 0 < dt)
    {rate acceleration : ℝ} (hrate : |rate| ≤ maximumRate)
    (hfits : HoldFits jerk maximumRate rate acceleration dt) :
    (jerkLimitedStop maximumAcceleration jerk rate acceleration dt).Within maximumRate dt := by
  obtain ⟨hlow, hhigh⟩ := abs_le.1 hrate
  rw [jerkLimitedStop_eq]
  dsimp only
  rcases lt_trichotomy rate 0 with hneg | rfl | hpos
  · rw [if_neg hneg.ne]
    split_ifs with hstops
    · exact within_stopped hmaximum hdt
    · refine within_of_rate hdt ?_ _
      rw [abs_of_neg (neg_of_mul_pos_left (not_le.1 hstops) hneg.le)]
      rcases stopAcceleration_of_neg maximumAcceleration acceleration hjerk hdt hneg with
        heq | hslows
      · rw [heq]
        linarith [hfits.backward hneg]
      · linarith [mul_nonneg hslows hdt.le]
  · rw [if_pos rfl]
    exact within_stopped hmaximum hdt
  · rw [if_neg hpos.ne']
    split_ifs with hstops
    · exact within_stopped hmaximum hdt
    · refine within_of_rate hdt ?_ _
      rw [abs_of_pos (pos_of_mul_pos_left (not_le.1 hstops) hpos.le)]
      rcases stopAcceleration_of_pos maximumAcceleration acceleration hjerk hdt hpos with
        heq | hslows
      · rw [heq]
        exact hfits.forward hpos
      · linarith [mul_nonpos_of_nonpos_of_nonneg hslows hdt.le]

end Jerk

end RobotDriver.Swerve

end
