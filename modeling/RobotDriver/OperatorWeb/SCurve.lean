import RobotDriver.Lib.RestToRest
import RobotDriver.OperatorWeb.Trajectory

/-!
# The phases of an S-curve

Whichever limits are reached, the phases of `scurve` cover the distance exactly, stay within the
limits and leave nothing of them unused.
-/

namespace RobotDriver.OperatorWeb.Trajectory

open JerkMotion

/-- The velocity between the two accelerations. -/
def Phases.peak {K : Type*} [Field K] (p : Phases K) (jerk : K) : K :=
  jerk * p.ramp * (p.ramp + p.hold)

/-- What the phases over a distance have to be. -/
structure Phases.Valid (p : Phases ℝ) (limits : Limits ℝ) (distance : ℝ) : Prop where
  ramp_nonneg : 0 ≤ p.ramp
  hold_nonneg : 0 ≤ p.hold
  cruise_nonneg : 0 ≤ p.cruise
  acceleration_le : limits.jerk * p.ramp ≤ limits.acceleration
  acceleration_full : limits.jerk * p.ramp = limits.acceleration ∨ p.hold = 0
  peak_le : p.peak limits.jerk ≤ limits.velocity
  peak_full : p.peak limits.jerk = limits.velocity ∨ p.cruise = 0
  distance_eq : p.peak limits.jerk * (2 * p.ramp + p.hold + p.cruise) = distance

section Cases

variable {limits : Limits ℝ} {distance : ℝ}

theorem valid_of_both (hfull : limits.acceleration * limits.acceleration ≤
      limits.velocity * limits.jerk)
    (hcruise : 0 ≤ distance / limits.velocity -
      (limits.acceleration / limits.jerk + limits.velocity / limits.acceleration)) :
    Phases.Valid ⟨limits.acceleration / limits.jerk,
      max (limits.acceleration / limits.jerk + limits.velocity / limits.acceleration -
        2 * (limits.acceleration / limits.jerk)) 0,
      distance / limits.velocity -
        (limits.acceleration / limits.jerk + limits.velocity / limits.acceleration)⟩
      limits distance := by
  obtain ⟨v, a, j, hv, ha, hj⟩ := limits
  dsimp only at hfull hcruise ⊢
  have hhold : 0 ≤ v / a - a / j := by
    rw [sub_nonneg, div_le_div_iff₀ hj ha]
    exact hfull
  have hmax : max (a / j + v / a - 2 * (a / j)) 0 = v / a - a / j := by
    rw [max_eq_left (by linarith)]
    ring
  rw [hmax]
  have hpeak : Phases.peak ⟨a / j, v / a - a / j, distance / v - (a / j + v / a)⟩ j = v := by
    simp only [Phases.peak]
    field_simp
    ring
  refine ⟨by positivity, hhold, hcruise, ?_, .inl ?_, hpeak.le, .inl hpeak, ?_⟩
  · exact (mul_div_cancel₀ a hj.ne').le
  · exact mul_div_cancel₀ a hj.ne'
  · rw [hpeak]
    field_simp
    ring

theorem valid_of_ramp {ramp cruise : ℝ} (hramp : 0 ≤ ramp) (hcruise : 0 ≤ cruise)
    (hacceleration : ramp ≤ limits.acceleration / limits.jerk)
    (hpeak : limits.jerk * ramp ^ 2 ≤ limits.velocity)
    (hfull : limits.jerk * ramp ^ 2 = limits.velocity ∨ cruise = 0)
    (hdistance : limits.jerk * ramp ^ 2 * (2 * ramp + cruise) = distance) :
    Phases.Valid ⟨ramp, max (2 * ramp - 2 * ramp) 0, cruise⟩ limits distance := by
  have hsquare : limits.jerk * ramp * (ramp + 0) = limits.jerk * ramp ^ 2 := by ring
  rw [sub_self, max_self]
  refine ⟨hramp, le_rfl, hcruise, (le_div_iff₀' limits.jerk_pos).1 hacceleration, .inr rfl, ?_, ?_,
    ?_⟩
  · exact hsquare.trans_le hpeak
  · exact hfull.imp hsquare.trans id
  · rw [← hdistance, Phases.peak, hsquare, add_zero]

theorem jerk_mul_sq_sqrt (limits : Limits ℝ) :
    limits.jerk * √(limits.velocity / limits.jerk) ^ 2 = limits.velocity := by
  rw [Real.sq_sqrt (div_nonneg limits.velocity_pos.le limits.jerk_pos.le),
    mul_div_cancel₀ _ limits.jerk_pos.ne']

theorem sqrt_le_ramp (hfull : limits.velocity * limits.jerk <
      limits.acceleration * limits.acceleration) :
    √(limits.velocity / limits.jerk) < limits.acceleration / limits.jerk := by
  have hj := limits.jerk_pos
  have hramp : 0 ≤ limits.acceleration / limits.jerk := div_nonneg limits.acceleration_pos.le hj.le
  rw [Real.sqrt_lt' (div_pos limits.acceleration_pos hj), div_pow,
    div_lt_div_iff₀ hj (by positivity)]
  nlinarith

theorem valid_of_velocity (hfull : limits.velocity * limits.jerk <
      limits.acceleration * limits.acceleration)
    (hcruise : 0 ≤ distance / limits.velocity - 2 * √(limits.velocity / limits.jerk)) :
    Phases.Valid ⟨√(limits.velocity / limits.jerk),
      max (2 * √(limits.velocity / limits.jerk) - 2 * √(limits.velocity / limits.jerk)) 0,
      distance / limits.velocity - 2 * √(limits.velocity / limits.jerk)⟩ limits distance := by
  have hpeak := jerk_mul_sq_sqrt limits
  refine valid_of_ramp (Real.sqrt_nonneg _) hcruise (sqrt_le_ramp hfull).le hpeak.le (.inl hpeak) ?_
  rw [hpeak, add_sub_cancel, mul_div_cancel₀ _ limits.velocity_pos.ne']

/-- The distance is covered before the velocity limit is reached. -/
def Short (limits : Limits ℝ) (distance : ℝ) : Prop :=
  limits.acceleration * limits.acceleration ≤ limits.velocity * limits.jerk ∧
      distance < limits.velocity *
        (limits.acceleration / limits.jerk + limits.velocity / limits.acceleration) ∨
    limits.velocity * limits.jerk < limits.acceleration * limits.acceleration ∧
      distance < limits.velocity * (2 * √(limits.velocity / limits.jerk))

/-- The acceleration time of `scurve` when the velocity limit is not reached. -/
noncomputable def shortTime (limits : Limits ℝ) (distance : ℝ) : ℝ :=
  (limits.acceleration * limits.acceleration / limits.jerk +
    √(limits.acceleration ^ 4 / limits.jerk ^ 2 + 4 * limits.acceleration * distance)) /
    (2 * limits.acceleration)

variable (limits) in
theorem shortTime_spec (hdistance : 0 ≤ distance) :
    limits.acceleration / limits.jerk ≤ shortTime limits distance ∧
      limits.acceleration * (shortTime limits distance - limits.acceleration / limits.jerk) *
        shortTime limits distance = distance := by
  obtain ⟨v, a, j, hv, ha, hj⟩ := limits
  rw [shortTime]
  dsimp only
  have hroot : √(a ^ 4 / j ^ 2 + 4 * a * distance) ^ 2 = a ^ 4 / j ^ 2 + 4 * a * distance :=
    Real.sq_sqrt (by positivity)
  have hlarge : a * a / j ≤ √(a ^ 4 / j ^ 2 + 4 * a * distance) := by
    refine Real.le_sqrt_of_sq_le ?_
    have hsame : (a * a / j) ^ 2 = a ^ 4 / j ^ 2 := by ring
    rw [hsame]
    exact le_add_of_nonneg_right (by positivity)
  generalize √(a ^ 4 / j ^ 2 + 4 * a * distance) = w at hroot hlarge
  constructor
  · rw [le_div_iff₀ (by positivity)]
    have hdouble : a / j * (2 * a) = a * a / j + a * a / j := by ring
    linarith
  · field_simp at hroot ⊢
    linarith

theorem valid_of_acceleration (hdistance : 0 ≤ distance) (hshort : Short limits distance)
    (hfull : 2 * (limits.acceleration / limits.jerk) ≤ shortTime limits distance) :
    Phases.Valid ⟨limits.acceleration / limits.jerk,
      max (shortTime limits distance - 2 * (limits.acceleration / limits.jerk)) 0, 0⟩
      limits distance := by
  obtain ⟨-, htime⟩ := shortTime_spec limits hdistance
  have hsqrt := jerk_mul_sq_sqrt limits
  have hroot := Real.sqrt_nonneg (limits.velocity / limits.jerk)
  have hless : limits.velocity * limits.jerk < limits.acceleration * limits.acceleration →
      √(limits.velocity / limits.jerk) < limits.acceleration / limits.jerk := sqrt_le_ramp
  have hv := limits.velocity_pos
  have ha := limits.acceleration_pos
  have hj := limits.jerk_pos
  have hramp : limits.jerk * (limits.acceleration / limits.jerk) = limits.acceleration :=
    mul_div_cancel₀ _ hj.ne'
  have hramp0 : 0 < limits.acceleration / limits.jerk := div_pos ha hj
  rw [max_eq_left (sub_nonneg.2 hfull)]
  unfold Short at hshort
  generalize shortTime limits distance = time at htime hfull ⊢
  generalize √(limits.velocity / limits.jerk) = root at hsqrt hroot hless hshort
  generalize limits.acceleration / limits.jerk = ramp at *
  have hpeak : limits.jerk * ramp * (ramp + (time - 2 * ramp)) =
      limits.acceleration * (time - ramp) := by
    rw [hramp]
    ring
  refine ⟨hramp0.le, sub_nonneg.2 hfull, le_rfl, hramp.le, .inl hramp, ?_, .inr rfl, ?_⟩
  · refine hpeak.trans_le ?_
    by_contra hfast
    rw [not_le] at hfast
    rcases hshort with ⟨-, hshort⟩ | ⟨hslow, hshort⟩
    · have hlonger : ramp + limits.velocity / limits.acceleration < time := by
        rw [← lt_sub_iff_add_lt', div_lt_iff₀' ha]
        exact hfast
      have hfar := mul_lt_mul'' hfast hlonger hv.le (by positivity)
      linarith
    · have hcube : root ^ 3 < ramp ^ 3 := pow_lt_pow_left₀ (hless hslow) hroot three_ne_zero
      have hfar : limits.acceleration * ramp * (2 * ramp) ≤
          limits.acceleration * (time - ramp) * time :=
        mul_le_mul (mul_le_mul_of_nonneg_left (by linarith) ha.le) hfull (by positivity)
          (mul_nonneg ha.le (by linarith))
      have hsame : limits.acceleration * ramp * (2 * ramp) = 2 * limits.jerk * ramp ^ 3 := by
        rw [← hramp]
        ring
      have hnear : limits.velocity * (2 * root) = 2 * limits.jerk * root ^ 3 := by
        rw [← hsqrt]
        ring
      nlinarith
  · simp only [Phases.peak]
    rw [hpeak, ← htime]
    ring

theorem valid_of_jerk (hdistance : 0 ≤ distance) (hshort : Short limits distance)
    (hfull : shortTime limits distance < 2 * (limits.acceleration / limits.jerk)) {ramp : ℝ}
    (hramp : 0 ≤ ramp) (hcube : 2 * limits.jerk * ramp ^ 3 = distance) :
    Phases.Valid ⟨ramp, max (2 * ramp - 2 * ramp) 0, 0⟩ limits distance := by
  obtain ⟨hlarge, htime⟩ := shortTime_spec limits hdistance
  have hsqrt := jerk_mul_sq_sqrt limits
  have hroot := Real.sqrt_nonneg (limits.velocity / limits.jerk)
  have hv := limits.velocity_pos
  have ha := limits.acceleration_pos
  have hj := limits.jerk_pos
  have hpeak : limits.jerk * (limits.acceleration / limits.jerk) = limits.acceleration :=
    mul_div_cancel₀ _ hj.ne'
  have hlimit0 : 0 < limits.acceleration / limits.jerk := div_pos ha hj
  have hlimit : ramp < limits.acceleration / limits.jerk := by
    generalize limits.acceleration / limits.jerk = limit at hlarge htime hfull hpeak hlimit0 ⊢
    generalize shortTime limits distance = time at hlarge htime hfull
    refine lt_of_pow_lt_pow_left₀ 3 hlimit0.le ?_
    have hnear : limits.acceleration * (time - limit) * time <
        limits.acceleration * limit * (2 * limit) :=
      mul_lt_mul'' (mul_lt_mul_of_pos_left (by linarith) ha) hfull
        (mul_nonneg ha.le (sub_nonneg.2 hlarge)) (hlimit0.le.trans hlarge)
    have hsame : limits.acceleration * limit * (2 * limit) = 2 * limits.jerk * limit ^ 3 := by
      rw [← hpeak]
      ring
    rw [htime, hsame, ← hcube] at hnear
    exact lt_of_mul_lt_mul_left hnear (by positivity)
  refine valid_of_ramp hramp le_rfl hlimit.le ?_ (.inr rfl) ?_
  · rcases hshort with ⟨hslow, -⟩ | ⟨-, hshort⟩
    · have hsquare : limits.jerk * ramp ^ 2 ≤
          limits.jerk * (limits.acceleration / limits.jerk) ^ 2 :=
        mul_le_mul_of_nonneg_left (pow_le_pow_left₀ hramp hlimit.le 2) hj.le
      have hsame : limits.jerk * (limits.acceleration / limits.jerk) ^ 2 =
          limits.acceleration * limits.acceleration / limits.jerk := by
        field_simp
      rw [hsame] at hsquare
      exact hsquare.trans ((div_le_iff₀ hj).2 hslow)
    · have hless : ramp < √(limits.velocity / limits.jerk) := by
        refine lt_of_pow_lt_pow_left₀ 3 hroot ?_
        have hsame : limits.velocity * (2 * √(limits.velocity / limits.jerk)) =
            2 * limits.jerk * √(limits.velocity / limits.jerk) ^ 3 := by
          nth_rewrite 1 [← hsqrt]
          ring
        rw [hsame, ← hcube] at hshort
        exact lt_of_mul_lt_mul_left hshort (by positivity)
      rw [← hsqrt]
      exact mul_le_mul_of_nonneg_left (pow_le_pow_left₀ hramp hless.le 2) hj.le
  · rw [← hcube]
    ring

end Cases

theorem cbrt_nonneg {x : ℝ} (hx : 0 ≤ x) : 0 ≤ RootMath.cbrt x := Real.rpow_nonneg hx _

theorem cbrt_pow {x : ℝ} (hx : 0 ≤ x) : RootMath.cbrt x ^ 3 = x := by
  have hpow : (x ^ (1 / 3 : ℝ)) ^ (3 : ℕ) = x := by
    rw [← Real.rpow_natCast, ← Real.rpow_mul hx]
    norm_num
  exact hpow

theorem short_valid (limits : Limits ℝ) {distance : ℝ} (hdistance : 0 ≤ distance)
    (hshort : Short limits distance) :
    (let p := if shortTime limits distance < 2 * (limits.acceleration / limits.jerk) then
        (RootMath.cbrt (distance / (2 * limits.jerk)),
          2 * RootMath.cbrt (distance / (2 * limits.jerk)), 0)
      else (limits.acceleration / limits.jerk, shortTime limits distance, 0)
    (⟨p.1, max (p.2.1 - 2 * p.1) 0, p.2.2⟩ : Phases ℝ)).Valid limits distance := by
  have hj := limits.jerk_pos
  by_cases hfull : shortTime limits distance < 2 * (limits.acceleration / limits.jerk)
  · rw [if_pos hfull]
    have hshare : 0 ≤ distance / (2 * limits.jerk) := by positivity
    refine valid_of_jerk hdistance hshort hfull (cbrt_nonneg hshare) ?_
    rw [cbrt_pow hshare, mul_div_cancel₀ _ (by positivity)]
  · rw [if_neg hfull]
    exact valid_of_acceleration hdistance hshort (not_lt.1 hfull)

theorem sub_neg_iff_short {limits : Limits ℝ} {distance time : ℝ} :
    distance / limits.velocity - time < 0 ↔ distance < limits.velocity * time := by
  rw [sub_neg, div_lt_iff₀' limits.velocity_pos]

theorem phases_valid (limits : Limits ℝ) {distance : ℝ} (hdistance : 0 ≤ distance) :
    (phases distance limits).Valid limits distance := by
  have hmath : ∀ x : ℝ, RootMath.sqrt x = √x := fun _ => rfl
  unfold phases
  simp only [hmath]
  by_cases hfull : limits.acceleration * limits.acceleration ≤ limits.velocity * limits.jerk
  · rw [if_pos hfull]
    dsimp only
    by_cases hcruise : distance / limits.velocity -
        (limits.acceleration / limits.jerk + limits.velocity / limits.acceleration) < 0
    · rw [if_pos hcruise]
      exact short_valid limits hdistance (.inl ⟨hfull, sub_neg_iff_short.1 hcruise⟩)
    · rw [if_neg hcruise]
      exact valid_of_both hfull (not_lt.1 hcruise)
  · rw [if_neg hfull]
    rw [not_le] at hfull
    dsimp only
    by_cases hcruise : distance / limits.velocity - 2 * √(limits.velocity / limits.jerk) < 0
    · rw [if_pos hcruise]
      exact short_valid limits hdistance (.inr ⟨hfull, sub_neg_iff_short.1 hcruise⟩)
    · rw [if_neg hcruise]
      exact valid_of_velocity hfull (not_lt.1 hcruise)

end RobotDriver.OperatorWeb.Trajectory
