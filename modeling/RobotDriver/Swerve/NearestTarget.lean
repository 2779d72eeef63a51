import RobotDriver.Swerve.Exceptions

/-!
# The nearest equivalent steering target

A steering target is a whole number of half turns away from the desired angle, with the speed
negated on the odd ones. Of those in the safe range the nearest is taken, up to the hysteresis
that keeps the direction of before.
-/

noncomputable section

open scoped Classical

namespace RobotDriver.Swerve

section Rounding

theorem abs_clampTo_sub_le {x : ℝ} {nearest first last : ℤ} (hnearest : |(nearest : ℝ) - x| ≤ 1 / 2)
    {turn : ℤ} (hfirst : first ≤ turn) (hlast : turn ≤ last) :
    |((clampTo nearest first last : ℤ) : ℝ) - x| ≤ |(turn : ℝ) - x| := by
  obtain ⟨hlower, hupper⟩ := abs_le.1 hnearest
  unfold clampTo
  split_ifs with hlow hhigh
  · have hstep : (nearest : ℝ) + 1 ≤ first := by exact_mod_cast hlow
    have hturn : (first : ℝ) ≤ turn := by exact_mod_cast hfirst
    rw [abs_of_nonneg (by linarith), abs_of_nonneg (by linarith)]
    linarith
  · have hstep : (last : ℝ) + 1 ≤ nearest := by exact_mod_cast hhigh
    have hturn : (turn : ℝ) ≤ last := by exact_mod_cast hlast
    rw [abs_of_nonpos (by linarith), abs_of_nonpos (by linarith)]
    linarith
  · rcases lt_trichotomy turn nearest with hless | rfl | hmore
    · have hstep : (turn : ℝ) + 1 ≤ nearest := by exact_mod_cast hless
      rw [abs_of_nonpos (show (turn : ℝ) - x ≤ 0 by linarith)]
      exact hnearest.trans (by linarith)
    · exact le_rfl
    · have hstep : (nearest : ℝ) + 1 ≤ turn := by exact_mod_cast hmore
      rw [abs_of_nonneg (show 0 ≤ (turn : ℝ) - x by linarith)]
      exact hnearest.trans (by linarith)

end Rounding

section Wrapping

theorem cos_add_half_turn (angle : ℝ) (turn : ℤ) :
    Real.cos (angle + Real.pi + turn * (2 * Real.pi)) = -Real.cos angle := by
  rw [Real.cos_add_int_mul_two_pi, Real.cos_add_pi]

theorem sin_add_half_turn (angle : ℝ) (turn : ℤ) :
    Real.sin (angle + Real.pi + turn * (2 * Real.pi)) = -Real.sin angle := by
  rw [Real.sin_add_int_mul_two_pi, Real.sin_add_pi]

theorem exists_wrapPi_eq (angle : ℝ) :
    ∃ turn : ℤ, wrapPi angle = angle + turn * (2 * Real.pi) := by
  have hpoint : (⟨Real.cos angle, Real.sin angle⟩ : ℂ) =
      Complex.exp (angle * Complex.I) := by
    rw [Complex.exp_mul_I]
    apply Complex.ext <;> simp [← Complex.ofReal_cos, ← Complex.ofReal_sin]
  refine ⟨-toIocDiv Real.two_pi_pos (-Real.pi) angle, ?_⟩
  rw [wrapPi, atan2, hpoint, Complex.arg_exp_mul_I, toIocMod, zsmul_eq_mul]
  push_cast
  ring

end Wrapping

section Targets

variable {limits : SteeringAngleLimits}

theorem within_iff (h : validSteeringAngleLimits limits) {angle : ℝ} :
    steeringAngleWithinLimits angle limits ↔
      safeMinimum limits ≤ angle ∧ angle ≤ safeMaximum limits :=
  and_iff_right h

theorem nearest_eq_some {angle currentAngle target : ℝ}
    (h : nearestEquivalentSteeringTarget limits angle currentAngle = some target) :
    steeringAngleWithinLimits target limits ∧
      (∃ turn : ℤ, target = angle + turn * (2 * Real.pi)) ∧
      ∀ turn : ℤ, steeringAngleWithinLimits (angle + turn * (2 * Real.pi)) limits →
        |target - currentAngle| ≤ |angle + turn * (2 * Real.pi) - currentAngle| := by
  have hturn : 0 < 2 * Real.pi := by positivity
  unfold nearestEquivalentSteeringTarget at h
  split at h
  · cases h
  rename_i hcurrent
  rw [not_not] at hcurrent
  dsimp only at h
  split at h
  · cases h
  rename_i hturns
  rw [not_lt] at hturns
  cases h
  let first := ⌈(safeMinimum limits - angle) / (2 * Real.pi)⌉
  let last := ⌊(safeMaximum limits - angle) / (2 * Real.pi)⌋
  have hsafe : ∀ turn : ℤ, steeringAngleWithinLimits (angle + turn * (2 * Real.pi)) limits ↔
      first ≤ turn ∧ turn ≤ last := by
    intro turn
    rw [within_iff hcurrent.1, Int.ceil_le, Int.le_floor, div_le_iff₀ hturn, le_div_iff₀ hturn,
      sub_le_iff_le_add', le_sub_iff_add_le']
  have hdistance : ∀ turn : ℤ, |angle + turn * (2 * Real.pi) - currentAngle| =
      |(turn : ℝ) - (currentAngle - angle) / (2 * Real.pi)| * (2 * Real.pi) := by
    intro turn
    rw [← abs_of_pos hturn, ← abs_mul, abs_of_pos hturn, sub_mul,
      div_mul_cancel₀ _ hturn.ne']
    ring_nf
  refine ⟨(hsafe _).2 (clampTo_mem hturns), ⟨_, rfl⟩, fun turn hcandidate => ?_⟩
  obtain ⟨hfirst, hlast⟩ := (hsafe turn).1 hcandidate
  rw [hdistance, hdistance]
  exact mul_le_mul_of_nonneg_right
    (abs_clampTo_sub_le (Double.abs_llround_sub_le _) hfirst hlast) hturn.le

/-- A target of the desired direction, or of the opposite one when the speed is negated. -/
def Equivalent (desired : SwerveModuleState) (reversed : Bool) (target : ℝ) : Prop :=
  ∃ turn : ℤ, target = desired.angle + (if reversed then Real.pi else 0) + turn * (2 * Real.pi)

theorem Equivalent.velocity {desired : SwerveModuleState} {reversed : Bool} {target : ℝ}
    (h : Equivalent desired reversed target) :
    (if reversed then -desired.speed else desired.speed) * Real.cos target =
        desired.speed * Real.cos desired.angle ∧
      (if reversed then -desired.speed else desired.speed) * Real.sin target =
        desired.speed * Real.sin desired.angle := by
  obtain ⟨turn, rfl⟩ := h
  cases reversed with
  | false =>
    simp only [Bool.false_eq_true, if_false, add_zero, Real.cos_add_int_mul_two_pi,
      Real.sin_add_int_mul_two_pi, and_self]
  | true =>
    simp only [if_true, cos_add_half_turn, sin_add_half_turn, neg_mul_neg, and_self]

/-- The nearest target of one direction. -/
def directionTarget (limits : SteeringAngleLimits) (desired : SwerveModuleState)
    (planningAngle : ℝ) (reversed : Bool) : Option ℝ :=
  nearestEquivalentSteeringTarget limits
    (wrapPi desired.angle + if reversed then Real.pi else 0) planningAngle

theorem directionTarget_eq_some {desired : SwerveModuleState} {planningAngle target : ℝ}
    {reversed : Bool} (h : directionTarget limits desired planningAngle reversed = some target) :
    steeringAngleWithinLimits target limits ∧ Equivalent desired reversed target ∧
      ∀ candidate, Equivalent desired reversed candidate →
        steeringAngleWithinLimits candidate limits →
        |target - planningAngle| ≤ |candidate - planningAngle| := by
  obtain ⟨wraps, hwrap⟩ := exists_wrapPi_eq desired.angle
  obtain ⟨hwithin, ⟨turn, hturn⟩, hnearest⟩ := nearest_eq_some h
  refine ⟨hwithin, ⟨wraps + turn, ?_⟩, ?_⟩
  · rw [hturn, hwrap]
    push_cast
    ring
  · rintro candidate ⟨turns, rfl⟩ hcandidate
    have heq : desired.angle + (if reversed = true then Real.pi else 0) + turns * (2 * Real.pi) =
        wrapPi desired.angle + (if reversed = true then Real.pi else 0) +
          ((turns - wraps : ℤ) : ℝ) * (2 * Real.pi) := by
      rw [hwrap]
      push_cast
      ring
    rw [heq] at hcandidate ⊢
    exact hnearest _ hcandidate

theorem directionTarget_isSome {desired : SwerveModuleState} {planningAngle candidate : ℝ}
    (hplanning : steeringAngleWithinLimits planningAngle limits) {reversed : Bool}
    (hcandidate : Equivalent desired reversed candidate)
    (hwithin : steeringAngleWithinLimits candidate limits) :
    (directionTarget limits desired planningAngle reversed).isSome = true := by
  obtain ⟨wraps, hwrap⟩ := exists_wrapPi_eq desired.angle
  obtain ⟨turns, rfl⟩ := hcandidate
  refine (nearest_isSome_iff hplanning).2 ⟨turns - wraps, ?_⟩
  have heq : wrapPi desired.angle + (if reversed = true then Real.pi else 0) +
      ((turns - wraps : ℤ) : ℝ) * (2 * Real.pi) =
        desired.angle + (if reversed = true then Real.pi else 0) + turns * (2 * Real.pi) := by
    rw [hwrap]
    push_cast
    ring
  rw [heq]
  exact (within_iff hplanning.1).1 hwithin

end Targets

section Optimization

variable {limits : SteeringAngleLimits} {measured hysteresis : ℝ}

theorem clamp_of_within (h : steeringAngleWithinLimits measured limits) :
    clampSteeringMeasurementToSafeRange measured limits = measured := by
  unfold clampSteeringMeasurementToSafeRange
  rw [max_eq_left h.2.1, min_eq_left h.2.2]

theorem optimizeModule_chooses (h : steeringAngleWithinLimits measured limits)
    (desired : SwerveModuleState) (previousReversed : Bool) (hnonneg : 0 ≤ hysteresis) :
    ∃ reversed target,
      optimizeModule limits desired measured previousReversed hysteresis = some
        { speed := if reversed then -desired.speed else desired.speed
          targetAngle := target
          error := target - measured
          reversed := reversed } ∧
      directionTarget limits desired measured reversed = some target ∧
      ∀ other, directionTarget limits desired measured (!reversed) = some other →
        |target - measured| ≤ |other - measured| + hysteresis := by
  have hforward : nearestEquivalentSteeringTarget limits (wrapPi desired.angle) measured =
      directionTarget limits desired measured false := by
    simp [directionTarget]
  have hreverse : nearestEquivalentSteeringTarget limits (wrapPi desired.angle + Real.pi) measured =
      directionTarget limits desired measured true := by
    simp [directionTarget]
  have hexists := nearest_forward_or_reverse h (wrapPi desired.angle)
  rw [hforward, hreverse] at hexists
  have heq : ∀ reversed : Bool, (if reversed then directionTarget limits desired measured true
      else directionTarget limits desired measured false) =
        directionTarget limits desired measured reversed := by
    intro reversed
    cases reversed <;> rfl
  have hother : ∀ reversed : Bool, (if reversed then directionTarget limits desired measured false
      else directionTarget limits desired measured true) =
        directionTarget limits desired measured (!reversed) := by
    intro reversed
    cases reversed <;> rfl
  unfold optimizeModule
  rw [if_neg (not_not.2 (tolerance_of_within h)), clamp_of_within h]
  dsimp only
  rw [hforward, hreverse, heq, hother, heq]
  cases hcurrent : directionTarget limits desired measured previousReversed with
  | none =>
    have hsome : (directionTarget limits desired measured (!previousReversed)).isSome = true := by
      cases previousReversed <;> simp_all
    obtain ⟨target, htarget⟩ := Option.isSome_iff_exists.1 hsome
    refine ⟨!previousReversed, target, ?_, htarget, fun other hnone => ?_⟩
    · simp only [htarget, Option.map_some]
    · rw [Bool.not_not, hcurrent] at hnone
      cases hnone
  | some current =>
    cases halternative : directionTarget limits desired measured (!previousReversed) with
    | none =>
      refine ⟨previousReversed, current, ?_, hcurrent, fun other hnone => ?_⟩
      · simp only [hcurrent, Option.map_some]
      · rw [halternative] at hnone
        cases hnone
    | some alternative =>
      dsimp only
      by_cases hnearer : |alternative - measured| + hysteresis < |current - measured|
      · simp only [hnearer, if_true]
        refine ⟨!previousReversed, alternative, ?_, halternative, fun other hsome => ?_⟩
        · simp only [halternative, Option.map_some]
        · rw [Bool.not_not, hcurrent] at hsome
          cases hsome
          linarith
      · simp only [hnearer, if_false]
        refine ⟨previousReversed, current, ?_, hcurrent, fun other hsome => ?_⟩
        · simp only [hcurrent, Option.map_some]
        · rw [halternative] at hsome
          cases hsome
          linarith

/-- A module is always turned to a target in the safe range that leaves its velocity as desired,
and that is the nearest one up to the hysteresis. -/
theorem module_optimized (hmeasured : steeringAngleWithinLimits measured limits)
    (desired : SwerveModuleState) (previousReversed : Bool) (hnonneg : 0 ≤ hysteresis)
    (hlt : hysteresis < Real.pi / 2) :
    ∃ result, Throwing.optimizeModule desired.raw (some measured) previousReversed hysteresis
        limits = .ok result ∧
      steeringAngleWithinLimits result.targetAngle limits ∧
      ((result.speed = desired.speed ∧
          ∃ turn : ℤ, result.targetAngle = desired.angle + turn * (2 * Real.pi)) ∨
        (result.speed = -desired.speed ∧
          ∃ turn : ℤ, result.targetAngle = desired.angle + Real.pi + turn * (2 * Real.pi))) ∧
      result.speed * Real.cos result.targetAngle = desired.speed * Real.cos desired.angle ∧
      result.speed * Real.sin result.targetAngle = desired.speed * Real.sin desired.angle ∧
      (∀ candidate, steeringAngleWithinLimits candidate limits →
        (∃ turn : ℤ, candidate = desired.angle + turn * (2 * Real.pi) ∨
          candidate = desired.angle + Real.pi + turn * (2 * Real.pi)) →
        |result.targetAngle - measured| ≤ |candidate - measured| + hysteresis ∧
          (hysteresis = 0 → |result.targetAngle - measured| ≤ |candidate - measured|)) := by
  obtain ⟨optimized, hresult, hoptimized⟩ := Throwing.optimizeModule_eq
    (tolerance_of_within hmeasured) hnonneg hlt desired previousReversed
  rw [clamp_of_within hmeasured] at hoptimized
  obtain ⟨reversed, target, hchosen, htarget, hother⟩ :=
    optimizeModule_chooses hmeasured desired previousReversed hnonneg
  rw [hchosen] at hoptimized
  cases hoptimized
  obtain ⟨hwithin, hequivalent, hnearest⟩ := directionTarget_eq_some htarget
  have hvelocity := hequivalent.velocity
  have hcandidates : ∀ candidate, steeringAngleWithinLimits candidate limits →
      (∃ turn : ℤ, candidate = desired.angle + turn * (2 * Real.pi) ∨
        candidate = desired.angle + Real.pi + turn * (2 * Real.pi)) →
      |target - measured| ≤ |candidate - measured| + hysteresis := by
    rintro candidate hcandidate ⟨turn, hturn⟩
    have hdirection : ∃ direction, Equivalent desired direction candidate := by
      rcases hturn with rfl | rfl
      · exact ⟨false, turn, by simp⟩
      · exact ⟨true, turn, by simp⟩
    obtain ⟨direction, hdirection⟩ := hdirection
    by_cases hsame : direction = reversed
    · subst hsame
      exact (hnearest candidate hdirection hcandidate).trans (by linarith)
    · rw [Bool.eq_not_of_ne hsame] at hdirection
      obtain ⟨other, hsome⟩ := Option.isSome_iff_exists.1
        (directionTarget_isSome hmeasured hdirection hcandidate)
      exact (hother other hsome).trans
        (add_le_add_left ((directionTarget_eq_some hsome).2.2 candidate hdirection hcandidate) _)
  refine ⟨_, hresult, hwithin, ?_, hvelocity.1, hvelocity.2, fun candidate hcandidate hturn => ?_⟩
  · obtain ⟨turn, hturn⟩ := hequivalent
    cases reversed with
    | false => exact .inl ⟨rfl, turn, by simpa using hturn⟩
    | true => exact .inr ⟨rfl, turn, by simpa using hturn⟩
  · have hdistance := hcandidates candidate hcandidate hturn
    refine ⟨hdistance, fun hzero => ?_⟩
    rwa [hzero, add_zero] at hdistance

/-- The default limits, a module that looks ahead and a wish to the left. -/
theorem module_optimized_left :
    ∃ result, Throwing.optimizeModule ⟨some 1, some (Real.pi / 2)⟩ (some 0) false 0
        ⟨-Real.pi, Real.pi, 0, 0⟩ = .ok result ∧
      steeringAngleWithinLimits result.targetAngle ⟨-Real.pi, Real.pi, 0, 0⟩ ∧
      result.speed * Real.sin result.targetAngle = 1 := by
  have hpi := Real.pi_pos
  have hmeasured : steeringAngleWithinLimits 0 ⟨-Real.pi, Real.pi, 0, 0⟩ := by
    refine ⟨⟨le_rfl, le_rfl, ?_, ?_⟩, ?_, ?_⟩ <;> dsimp only <;> linarith
  obtain ⟨result, hresult, hwithin, -, -, hsin, -⟩ :=
    module_optimized hmeasured ⟨1, Real.pi / 2⟩ false le_rfl (by linarith)
  refine ⟨result, hresult, hwithin, hsin.trans ?_⟩
  rw [Real.sin_pi_div_two, one_mul]

end Optimization

end RobotDriver.Swerve

end
