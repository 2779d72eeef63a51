import RobotDriver.Lib.RadialApproach
import RobotDriver.OperatorWeb.ChassisEnvelope

/-!
# Every chassis stop reaches zero

With the target zero a follower is pulled towards it in equal steps, so that it arrives; the
command of the arbiter is zero from then on. Without a lease the zeros that follow are counted.
-/

namespace RobotDriver.OperatorWeb.Teleop

open LabelledRun StickMath RadialClip RadialApproach
open scoped RealInnerProductSpace

namespace JerkLimitedFollower

variable {d : ℕ}

/-- Peak and jerk on the way to a zero target. -/
noncomputable def braking (limits : AxisLimits ℝ) (stopping : Bool) : ℝ × ℝ :=
  if stopping then (limits.stopDecel, limits.jerk * limits.stopDecel / limits.decel)
  else (limits.decel, limits.jerk)

theorem peakAndJerk_zero (f : JerkLimitedFollower d ℝ) (limits : AxisLimits ℝ) (stopping : Bool) :
    f.peakAndJerk 0 limits stopping = braking limits stopping := by
  have hslower : ¬norm f.value + epsilon < norm (0 : Fin d → ℝ) := by
    rw [norm_eq, norm_eq, toSpace_zero, norm_zero, not_lt, epsilon]
    positivity
  unfold peakAndJerk braking
  rw [if_neg hslower]

variable {limits : AxisLimits ℝ} {stopping : Bool} {f : JerkLimitedFollower d ℝ} {dt : ℝ}

variable (stopping) in
theorem braking_pos (h : limits.Valid) :
    0 < (braking limits stopping).1 ∧ 0 < (braking limits stopping).2 := by
  have hreset := peakAndJerk_zero (reset : JerkLimitedFollower 1 ℝ) limits stopping
  rw [← hreset]
  exact ⟨peak_pos _ _ _ h, jerk_pos _ _ _ h⟩

/-- The share of the way to the desired acceleration that a step goes at least. -/
noncomputable def share (limits : AxisLimits ℝ) (stopping : Bool) (dt : ℝ) : ℝ :=
  min 1 ((braking limits stopping).2 * dt / (2 * (braking limits stopping).1))

/-- The acceleration that a slow follower desires at least. -/
noncomputable def pull (limits : AxisLimits ℝ) (stopping : Bool) : ℝ :=
  min (braking limits stopping).1 (sqrt ((braking limits stopping).2 * snapError))

theorem exists_share (h : limits.Valid) (hdt : 0 < dt) {v w : EuclideanSpace ℝ (Fin d)}
    (hv : ‖v‖ ≤ (braking limits stopping).1) (hw : ‖w‖ ≤ (braking limits stopping).1) :
    ∃ θ, share limits stopping dt ≤ θ ∧ θ ≤ 1 ∧
      v + clip ((braking limits stopping).2 * dt) (w - v) = (1 - θ) • v + θ • w := by
  obtain ⟨hpeak, hjerk⟩ := braking_pos stopping h
  have hmix : ∀ θ : ℝ, v + θ • (w - v) = (1 - θ) • v + θ • w := by
    intro θ
    rw [smul_sub, sub_smul, one_smul]
    abel
  rcases le_or_gt ‖w - v‖ ((braking limits stopping).2 * dt) with hshort | hlong
  · refine ⟨1, min_le_left _ _, le_rfl, ?_⟩
    rw [clip_of_le hshort, ← hmix, one_smul]
  · have hlength : ‖w - v‖ ≤ 2 * (braking limits stopping).1 :=
      (norm_sub_le w v).trans (by linarith)
    have hturn : 0 < (braking limits stopping).2 * dt := mul_pos hjerk hdt
    refine ⟨(braking limits stopping).2 * dt / ‖w - v‖, ?_, ?_, ?_⟩
    · exact (min_le_right _ _).trans
        (div_le_div_of_nonneg_left hturn.le (hturn.trans hlong) hlength)
    · exact div_le_one_of_le₀ hlong.le (norm_nonneg _)
    · rw [clip_of_lt hlong, hmix]

theorem pulled_of_step (h : limits.Valid) (hdt : 0 < dt)
    (haccel : ‖toSpace f.accel‖ ≤ (braking limits stopping).1)
    (hfirst : f.step 0 dt limits stopping ≠ ⟨0, 0⟩)
    (hfar' : snapError ≤ ‖toSpace (f.step 0 dt limits stopping).value‖) :
    Pulled dt snapError (braking limits stopping).1 (share limits stopping dt)
      (pull limits stopping) (toSpace f.value) (toSpace f.accel)
      (toSpace (f.step 0 dt limits stopping).value)
      (toSpace (f.step 0 dt limits stopping).accel) := by
  obtain ⟨hpeak, hjerk⟩ := braking_pos stopping h
  obtain ⟨hfar, hnew, hmove, hahead⟩ := (f.step_cases 0 dt limits stopping).resolve_left hfirst
  rw [toSpace_zero, zero_sub, norm_neg] at hfar
  rw [toSpace_zero, zero_sub, zero_sub, inner_neg_neg] at hahead
  have hdesired := f.norm_desired_le 0 dt stopping h
  rw [peakAndJerk_zero] at hdesired
  have hnorm : norm (0 - f.value) = ‖toSpace f.value‖ := by
    rw [norm_eq, toSpace_sub, toSpace_zero, zero_sub, norm_neg]
  have hheading : toSpace (f.desired 0 dt limits stopping) =
      -((f.desiredNorm 0 dt limits stopping / ‖toSpace f.value‖) • toSpace f.value) := by
    rw [desired, hnorm, toSpace_smul, toSpace_sub, toSpace_zero, zero_sub, smul_neg]
  obtain ⟨θ, hlow, hhigh, hshare⟩ := exists_share h hdt haccel hdesired
  have hθ : 0 ≤ θ := le_trans (le_min zero_le_one (by positivity)) hlow
  have hinside : ‖(1 - θ) • toSpace f.accel + θ • toSpace (f.desired 0 dt limits stopping)‖ ≤
      (braking limits stopping).1 := by
    refine (norm_add_le _ _).trans ?_
    rw [norm_smul, norm_smul, Real.norm_of_nonneg (sub_nonneg.2 hhigh), Real.norm_of_nonneg hθ]
    have hfirst := mul_le_mul_of_nonneg_left haccel (sub_nonneg.2 hhigh)
    have hsecond := mul_le_mul_of_nonneg_left hdesired hθ
    linarith
  have hadvanced : f.advanced 0 dt limits stopping =
      (1 - θ) • toSpace f.accel + θ • toSpace (f.desired 0 dt limits stopping) := by
    rw [advanced, peakAndJerk_zero, hshare, clip_of_le hinside]
  refine ⟨hfar, hfar', hahead, ?_, ?_, θ, f.desiredNorm 0 dt limits stopping, hlow, hhigh,
    f.desiredNorm_nonneg 0 dt stopping h, fun hslow => ?_, ?_⟩
  · rw [hnew]
    exact hmove
  · rw [hnew, hadvanced]
    exact hinside
  · rw [desiredNorm, peakAndJerk_zero, hnorm, norm_eq, pull]
    refine min_le_min le_rfl (Real.sqrt_le_sqrt ?_)
    have hleft : snapError / 2 ≤ max (‖toSpace f.value‖ - ‖toSpace f.accel‖ * dt) 0 :=
      le_max_of_le_left (by linarith)
    have hscaled := mul_le_mul_of_nonneg_left hleft
      (by positivity : 0 ≤ 2 * (braking limits stopping).2)
    linarith
  · rw [hnew, hadvanced, hheading, smul_neg, smul_smul, ← sub_eq_add_neg, mul_div_assoc]

variable (stopping) in
theorem share_mem (h : limits.Valid) (hdt : 0 < dt) :
    0 < share limits stopping dt ∧ share limits stopping dt ≤ 1 := by
  obtain ⟨hpeak, hjerk⟩ := braking_pos stopping h
  exact ⟨lt_min one_pos (by positivity), min_le_left _ _⟩

variable (stopping) in
theorem pull_pos (h : limits.Valid) : 0 < pull limits stopping := by
  obtain ⟨hpeak, hjerk⟩ := braking_pos stopping h
  refine lt_min hpeak (Real.sqrt_pos.2 (mul_pos hjerk ?_))
  norm_num [snapError]

theorem exists_arrived (h : limits.Valid) (hdt : 0 < dt) {run : ℕ → JerkLimitedFollower d ℝ}
    (hrun : ∀ n, run (n + 1) = (run n).step 0 dt limits stopping) : ∃ n, (run n).value = 0 := by
  by_contra hnever
  push Not at hnever
  obtain ⟨hshare, hshare'⟩ := share_mem stopping h hdt
  have hsnap : (0 : ℝ) < snapError := by norm_num [snapError]
  have hmoving : ∀ n, (run n).step 0 dt limits stopping ≠ ⟨0, 0⟩ := by
    intro n harrived
    refine hnever (n + 1) ?_
    rw [hrun, harrived]
  have hfar : ∀ n, snapError ≤ ‖toSpace (run n).value‖ := by
    intro n
    obtain ⟨hfar, -⟩ := ((run n).step_cases 0 dt limits stopping).resolve_left (hmoving n)
    rwa [toSpace_zero, zero_sub, norm_neg] at hfar
  have haccel : ∀ n, ‖toSpace (run (n + 1)).accel‖ ≤ (braking limits stopping).1 := by
    intro n
    obtain ⟨-, hnew, -⟩ := ((run n).step_cases 0 dt limits stopping).resolve_left (hmoving n)
    rw [hrun, hnew, ← peakAndJerk_zero (run n)]
    exact norm_advanced_le _ _ _ _ h
  refine no_endless_pull hdt hsnap (braking_pos stopping h).1.le hshare hshare'
    (pull_pos stopping h) (fun n => toSpace (run (n + 1)).value)
    (fun n => toSpace (run (n + 1)).accel) fun n => ?_
  have hfar' := hfar (n + 1 + 1)
  rw [hrun (n + 1)] at hfar' ⊢
  exact pulled_of_step h hdt (haccel n) (hmoving (n + 1)) hfar'

theorem step_of_value_zero (limits : AxisLimits ℝ) (dt : ℝ) (stopping : Bool)
    (hzero : f.value = 0) : f.step 0 dt limits stopping = ⟨0, 0⟩ := by
  have hnear : norm (0 - f.value) < snapError := by
    rw [hzero, sub_zero, norm_eq, toSpace_zero, norm_zero]
    norm_num [snapError]
  rw [step_eq, if_pos hnear]

end JerkLimitedFollower

namespace DriveArbiter

open JerkLimitedFollower

variable {C : Type*} [DecidableEq C] (config : TeleopConfig ℝ)

/-- Neither a tick nor an accepted input. -/
def Undriven (a : DriveArbiter C ℝ) : ArbiterEvent C → Prop
  | .drive session x y yaw now => (a.drive config session x y yaw now).2 ≠ none
  | .tick _ => False
  | _ => True

/-- The arbiter before each tick: the ticks come every `h`, other operations between them. -/
noncomputable def ticking (t₀ h : ℝ) (between : ℕ → List (ArbiterEvent C))
    (a : DriveArbiter C ℝ) : ℕ → DriveArbiter C ℝ
  | 0 => a
  | n + 1 =>
    run (perform config) ((ticking t₀ h between a n).tick config (t₀ + n * h)).1 (between n)

/-- What the tick with number `n` leaves and publishes. -/
noncomputable def tickAt (t₀ h : ℝ) (between : ℕ → List (ArbiterEvent C)) (a : DriveArbiter C ℝ)
    (n : ℕ) : DriveArbiter C ℝ × Option (Command ℝ) :=
  (ticking config t₀ h between a n).tick config (t₀ + n * h)

variable {config} {a a' : DriveArbiter C ℝ}

section Effects

/-- What operations other than ticks and accepted inputs leave alone. -/
structure Coasts (a a' : DriveArbiter C ℝ) : Prop where
  target : a'.target = 0
  lastTick : a'.lastTick = a.lastTick
  motion : a'.linear = .reset ∧ a'.angular = .reset ∨
    a'.linear = a.linear ∧ a'.angular = a.angular ∧ (a.stoppingFast = true → a'.stoppingFast = true)

omit [DecidableEq C] in
theorem coasts_refl (h : a.target = 0) : a.Coasts a := ⟨h, rfl, .inr ⟨rfl, rfl, id⟩⟩

omit [DecidableEq C] in
theorem Coasts.trans {b : DriveArbiter C ℝ} (h : a.Coasts a') (h' : a'.Coasts b) : a.Coasts b := by
  refine ⟨h'.target, h'.lastTick.trans h.lastTick, ?_⟩
  rcases h'.motion with hreset | ⟨hlinear, hangular, hfast⟩
  · exact .inl hreset
  · rw [hlinear, hangular]
    exact h.motion.imp id fun hkept => ⟨hkept.1, hkept.2.1, hfast ∘ hkept.2.2⟩

omit [DecidableEq C] in
theorem coasts_zeroTarget (reason : String) : a.Coasts (a.zeroTarget reason) :=
  ⟨rfl, rfl, .inr ⟨rfl, rfl, id⟩⟩

omit [DecidableEq C] in
theorem coasts_endLease (reason : String) (fast : Bool) : a.Coasts (a.endLease reason fast) :=
  ⟨rfl, rfl, .inr ⟨rfl, rfl, fun h => by simp [endLease, zeroTarget, h]⟩⟩

theorem coasts_drive (h : a.target = 0) {session : C} {x y : Double ℝ} {yaw : ℤ} {now : ℝ}
    (hrejected : (a.drive config session x y yaw now).2 ≠ none) :
    a.Coasts (a.drive config session x y yaw now).1 := by
  unfold drive at hrejected ⊢
  by_cases hother : a.holder ≠ some session
  · rw [if_pos hother]
    exact coasts_refl h
  rw [if_neg hother] at hrejected ⊢
  split at hrejected
  · dsimp only at hrejected ⊢
    split_ifs at hrejected ⊢
    · exact coasts_zeroTarget _
    · exact coasts_zeroTarget _
    · split at hrejected <;> exact absurd rfl hrejected
    · exact coasts_zeroTarget _
  · exact coasts_zeroTarget _

theorem coasts_perform (h : a.target = 0) {event : ArbiterEvent C}
    (hundriven : a.Undriven config event) : a.Coasts (a.perform config event) := by
  cases event with
  | acquire session =>
    simp only [perform, acquire]
    split
    · split_ifs <;> exact coasts_refl h
    · exact ⟨rfl, rfl, .inr ⟨rfl, rfl, id⟩⟩
  | release session =>
    simp only [perform, release]
    split_ifs
    · exact coasts_endLease _ _
    · exact coasts_refl h
  | disconnect session =>
    simp only [perform, disconnect]
    split_ifs
    · exact coasts_endLease _ _
    · exact coasts_refl h
  | softStop reason => exact ⟨rfl, rfl, .inr ⟨rfl, rfl, fun _ => rfl⟩⟩
  | drive session x y yaw now => exact coasts_drive h hundriven
  | halt session =>
    simp only [perform, halt]
    split_ifs
    · exact coasts_zeroTarget _
    · exact coasts_refl h
  | setGear session gear =>
    simp only [perform, setGear]
    split_ifs <;> exact ⟨h, rfl, .inr ⟨rfl, rfl, id⟩⟩
  | resetMotion reason => exact ⟨rfl, rfl, .inl ⟨rfl, rfl⟩⟩
  | tick now => exact absurd hundriven id

theorem coasts_run (h : a.target = 0) {events : List (ArbiterEvent C)}
    (hundriven : Along (perform config) (Undriven config) a events) :
    a.Coasts (run (perform config) a events) :=
  invariant_run (P := a.Coasts) (fun _ _ hs hevent => hs.trans (coasts_perform hs.target hevent))
    (coasts_refl h) hundriven

/-- What a tick of the watched arbiter `w` publishes, and the arbiter it leaves. -/
structure Ticked (w a' : DriveArbiter C ℝ) (published : Option (Command ℝ)) : Prop where
  holder : a'.holder = w.holder
  lastTick : a'.lastTick = w.lastTick
  settled : a'.command = 0 → a'.stoppingFast = false
  moving : a'.command ≠ 0 → a'.stoppingFast = w.stoppingFast ∧ published = some a'.command
  moving_free : a'.command ≠ 0 → w.holder = none → a'.trailingZeros = trailingZeroCount
  still_held : a'.command = 0 → w.holder ≠ none → published = some 0
  still_free : a'.command = 0 → w.holder = none → a'.trailingZeros = w.trailingZeros - 1 ∧
    published = if 0 < w.trailingZeros then some 0 else none

omit [DecidableEq C] in
theorem ticked_publish (b : DriveArbiter C ℝ) : b.Ticked b.settle.publish.1 b.settle.publish.2 := by
  by_cases hstill : b.command = 0
  · have hsettle : b.settle = { b with stoppingFast := false } := if_pos hstill
    have hsettled : b.settle.command = 0 := by rwa [hsettle]
    have hholder : b.settle.holder = b.holder := by rw [hsettle]
    have hcount : b.settle.trailingZeros = b.trailingZeros := by rw [hsettle]
    have hmoving : ∀ {p : Prop}, ¬b.command = 0 → p := fun h => absurd hstill h
    by_cases hfree : b.holder = none
    · by_cases hzeros : 0 < b.trailingZeros
      · have hpublish : b.settle.publish =
            ({ b.settle with trailingZeros := b.trailingZeros - 1 }, some 0) := by
          simp [publish, hsettled, hholder, hcount, hfree, hzeros]
        rw [hpublish, hsettle]
        exact ⟨rfl, rfl, fun _ => rfl, hmoving, hmoving, fun _ hheld => absurd hfree hheld,
          fun _ _ => ⟨rfl, (if_pos hzeros).symm⟩⟩
      · have hpublish : b.settle.publish = (b.settle, none) := by
          simp [publish, hsettled, hholder, hcount, hfree, hzeros]
        rw [hpublish, hsettle]
        exact ⟨rfl, rfl, fun _ => rfl, hmoving, hmoving, fun _ hheld => absurd hfree hheld,
          fun _ _ => ⟨by dsimp only; omega, (if_neg hzeros).symm⟩⟩
    · have hpublish : b.settle.publish = (b.settle, some 0) := by
        simp [publish, hsettled, hholder, hfree]
      rw [hpublish, hsettle]
      exact ⟨rfl, rfl, fun _ => rfl, hmoving, hmoving, fun _ _ => rfl,
        fun _ hnone => absurd hnone hfree⟩
  · have hsettle : b.settle = b := if_neg hstill
    have hrest : ∀ {p : Prop}, b.command = 0 → p := fun h => absurd h hstill
    by_cases hfree : b.holder = none
    · have hpublish : b.settle.publish =
          ({ b with trailingZeros := trailingZeroCount }, some b.command) := by
        simp [publish, hsettle, hstill, hfree]
      rw [hpublish]
      exact ⟨rfl, rfl, hrest, fun _ => ⟨rfl, rfl⟩, fun _ _ => rfl, hrest, hrest⟩
    · have hpublish : b.settle.publish = (b, some b.command) := by
        simp [publish, hsettle, hstill, hfree]
      rw [hpublish]
      exact ⟨rfl, rfl, hrest, fun _ => ⟨rfl, rfl⟩, fun _ hnone => absurd hnone hfree, hrest, hrest⟩

variable (config) in
omit [DecidableEq C] in
theorem ticked (a : DriveArbiter C ℝ) (now : ℝ) :
    (a.watched config now).Ticked (a.tick config now).1 (a.tick config now).2 := by
  have hpublish := ticked_publish ((a.watched config now).follow config (a.tickDt now))
  have hfollow : ((a.watched config now).follow config (a.tickDt now)).holder =
        (a.watched config now).holder ∧
      ((a.watched config now).follow config (a.tickDt now)).lastTick =
        (a.watched config now).lastTick ∧
      ((a.watched config now).follow config (a.tickDt now)).stoppingFast =
        (a.watched config now).stoppingFast ∧
      ((a.watched config now).follow config (a.tickDt now)).trailingZeros =
        (a.watched config now).trailingZeros := by
    unfold follow
    split_ifs <;> exact ⟨rfl, rfl, rfl, rfl⟩
  obtain ⟨hholder, hlast, hfast, hzeros⟩ := hfollow
  obtain ⟨h1, h2, h3, h4, h5, h6, h7⟩ := hpublish
  rw [hholder] at h1 h5 h6 h7
  rw [hlast] at h2
  rw [hfast] at h4
  rw [hzeros] at h7
  exact ⟨h1, h2, h3, h4, h5, h6, h7⟩

omit [DecidableEq C] in
theorem watched_of_target (h : a.target = 0) (now : ℝ) :
    a.watched config now = { a with lastTick := some now } := by
  unfold watched watchdog
  refine if_neg ?_
  simp [h]

omit [DecidableEq C] in
theorem watched_lastTick (a : DriveArbiter C ℝ) (now : ℝ) :
    (a.watched config now).lastTick = some now := by
  unfold watched watchdog
  split_ifs <;> rfl

omit [DecidableEq C] in
theorem command_of_values (hlinear : a.linear.value = 0) (hangular : a.angular.value = 0) :
    a.command = 0 := by
  unfold command
  rw [hlinear, hangular]
  rfl

variable (config) in
omit [DecidableEq C] in
theorem tick_followers {now h : ℝ} (htarget : a.target = 0) (hdt : a.tickDt now = h)
    (hpos : 0 < h) :
    (a.tick config now).1.linear = a.linear.step 0 h config.limits.linear a.stoppingFast ∧
    (a.tick config now).1.angular = a.angular.step 0 h config.limits.angular a.stoppingFast := by
  obtain ⟨-, -, hlinear, hangular⟩ := tick_motion config a now
  rw [hdt, if_pos hpos, watched_of_target htarget] at hlinear hangular
  obtain ⟨hzero, hzero'⟩ := targets_of_zero (a := { a with lastTick := some now }) htarget
  rw [hzero] at hlinear
  rw [hzero'] at hangular
  exact ⟨hlinear, hangular⟩

omit [DecidableEq C] in
theorem tick_still (now : ℝ) (htarget : a.target = 0) (hlinear : a.linear.value = 0)
    (hangular : a.angular.value = 0) : (a.tick config now).1.command = 0 := by
  by_cases hpos : 0 < a.tickDt now
  · obtain ⟨hlinear', hangular'⟩ := tick_followers config htarget rfl hpos
    refine command_of_values ?_ ?_
    · rw [hlinear', step_of_value_zero _ _ _ hlinear]
    · rw [hangular', step_of_value_zero _ _ _ hangular]
  · obtain ⟨-, -, hlinear', hangular'⟩ := tick_motion config a now
    rw [if_neg hpos] at hlinear' hangular'
    refine command_of_values ?_ ?_
    · rw [hlinear', hlinear]
    · rw [hangular', hangular]

end Effects

section Stop

variable {t₀ h : ℝ} {between : ℕ → List (ArbiterEvent C)}
  (hstart : (a.watched config t₀).target = 0)
  (hcalls : ∀ n, Along (perform config) (Undriven config) (tickAt config t₀ h between a n).1
    (between n))
include hstart hcalls

theorem target_and_coasts (n : ℕ) : (tickAt config t₀ h between a n).1.target = 0 ∧
    (tickAt config t₀ h between a n).1.Coasts (ticking config t₀ h between a (n + 1)) := by
  have hcoasts : ∀ n, (tickAt config t₀ h between a n).1.target = 0 →
      (tickAt config t₀ h between a n).1.Coasts (ticking config t₀ h between a (n + 1)) :=
    fun n htarget => coasts_run htarget (hcalls n)
  induction n with
  | zero =>
    have htarget : (tickAt config t₀ h between a 0).1.target = 0 := by
      unfold tickAt ticking
      rw [(tick_motion config _ _).2.1, Nat.cast_zero, zero_mul, add_zero]
      exact hstart
    exact ⟨htarget, hcoasts 0 htarget⟩
  | succ n ih =>
    have htarget : (tickAt config t₀ h between a (n + 1)).1.target = 0 := by
      unfold tickAt
      rw [(tick_motion config _ _).2.1, watched_of_target ih.2.target]
      exact ih.2.target
    exact ⟨htarget, hcoasts (n + 1) htarget⟩

theorem still_succ {n : ℕ} (hstill : (tickAt config t₀ h between a n).1.command = 0) :
    (tickAt config t₀ h between a (n + 1)).1.command = 0 := by
  obtain ⟨-, hcoasts⟩ := target_and_coasts hstart hcalls n
  obtain ⟨hlinear, hangular⟩ := values_of_command_zero hstill
  rcases hcoasts.motion with ⟨hlinear', hangular'⟩ | ⟨hlinear', hangular', -⟩
  · exact tick_still _ hcoasts.target (by rw [hlinear']; rfl) (by rw [hangular']; rfl)
  · exact tick_still _ hcoasts.target (by rw [hlinear', hlinear]) (by rw [hangular', hangular])

theorem still_of_le {n m : ℕ} (hle : n ≤ m)
    (hstill : (tickAt config t₀ h between a n).1.command = 0) :
    (tickAt config t₀ h between a m).1.command = 0 := by
  induction m, hle using Nat.le_induction with
  | base => exact hstill
  | succ m hle ih => exact still_succ hstart hcalls ih

theorem moving_succ {n : ℕ} (hpos : 0 < h) (hmax : h ≤ maxTickDtS)
    (hmoving : (tickAt config t₀ h between a (n + 1)).1.command ≠ 0) :
    (tickAt config t₀ h between a (n + 1)).1.linear = (tickAt config t₀ h between a n).1.linear.step
      0 h config.limits.linear (ticking config t₀ h between a (n + 1)).stoppingFast ∧
    (tickAt config t₀ h between a (n + 1)).1.angular =
      (tickAt config t₀ h between a n).1.angular.step 0 h config.limits.angular
        (ticking config t₀ h between a (n + 1)).stoppingFast ∧
    ((tickAt config t₀ h between a n).1.stoppingFast = true →
      (ticking config t₀ h between a (n + 1)).stoppingFast = true) ∧
    (tickAt config t₀ h between a (n + 1)).1.stoppingFast =
      (ticking config t₀ h between a (n + 1)).stoppingFast := by
  obtain ⟨-, hcoasts⟩ := target_and_coasts hstart hcalls n
  rcases hcoasts.motion with ⟨hlinear, hangular⟩ | ⟨hlinear, hangular, hfast⟩
  · refine absurd ?_ hmoving
    exact tick_still _ hcoasts.target (by rw [hlinear]; rfl) (by rw [hangular]; rfl)
  · have hlast : (ticking config t₀ h between a (n + 1)).lastTick = some (t₀ + n * h) := by
      rw [hcoasts.lastTick]
      exact (ticked config _ _).lastTick.trans (watched_lastTick _ _)
    have hdt : (ticking config t₀ h between a (n + 1)).tickDt (t₀ + (n + 1 : ℕ) * h) = h := by
      have hgap : t₀ + (n + 1 : ℕ) * h - (t₀ + n * h) = h := by
        push_cast
        ring
      simp only [tickDt, hlast]
      rw [hgap, max_eq_left hpos.le, min_eq_left hmax]
    obtain ⟨hlinear', hangular'⟩ := tick_followers config hcoasts.target hdt hpos
    rw [hlinear] at hlinear'
    rw [hangular] at hangular'
    have hticked := ((ticked config _ _).moving hmoving).1
    rw [watched_of_target hcoasts.target] at hticked
    exact ⟨hlinear', hangular', hfast, hticked⟩

theorem exists_still (hpos : 0 < h) (hmax : h ≤ maxTickDtS) :
    ∃ n, (tickAt config t₀ h between a n).1.command = 0 := by
  by_contra hnever
  push Not at hnever
  have hsteps := fun n => moving_succ hstart hcalls hpos hmax (hnever (n + 1))
  have hlatched : ∀ n, (ticking config t₀ h between a (n + 1)).stoppingFast = true →
      (ticking config t₀ h between a (n + 1 + 1)).stoppingFast = true := by
    intro n hfast
    refine (hsteps (n + 1)).2.2.1 ?_
    rw [(hsteps n).2.2.2]
    exact hfast
  obtain ⟨N, fast, hconstant⟩ : ∃ N fast, ∀ k,
      (ticking config t₀ h between a (N + k + 1)).stoppingFast = fast := by
    by_cases hfast : ∃ N, (ticking config t₀ h between a (N + 1)).stoppingFast = true
    · obtain ⟨N, hN⟩ := hfast
      refine ⟨N, true, fun k => ?_⟩
      induction k with
      | zero => exact hN
      | succ k ih => exact hlatched (N + k) ih
    · push Not at hfast
      exact ⟨0, false, fun k => by simpa using hfast (0 + k)⟩
  have hlinear : ∀ k, (tickAt config t₀ h between a (N + (k + 1))).1.linear =
      (tickAt config t₀ h between a (N + k)).1.linear.step 0 h config.limits.linear fast := by
    intro k
    rw [← hconstant k]
    exact (hsteps (N + k)).1
  have hangular : ∀ k, (tickAt config t₀ h between a (N + (k + 1))).1.angular =
      (tickAt config t₀ h between a (N + k)).1.angular.step 0 h config.limits.angular fast := by
    intro k
    rw [← hconstant k]
    exact (hsteps (N + k)).2.1
  obtain ⟨i, hi⟩ : ∃ k, (tickAt config t₀ h between a (N + k)).1.linear.value = 0 :=
    exists_arrived (valid_linear config) hpos hlinear
  obtain ⟨j, hj⟩ : ∃ k, (tickAt config t₀ h between a (N + k)).1.angular.value = 0 :=
    exists_arrived (valid_angular config) hpos hangular
  have hlinear' : ∀ k, i ≤ k → (tickAt config t₀ h between a (N + k)).1.linear.value = 0 := by
    intro k hle
    induction k, hle using Nat.le_induction with
    | base => exact hi
    | succ k hle ih => rw [hlinear, step_of_value_zero _ _ _ ih]
  have hangular' : ∀ k, j ≤ k → (tickAt config t₀ h between a (N + k)).1.angular.value = 0 := by
    intro k hle
    induction k, hle using Nat.le_induction with
    | base => exact hj
    | succ k hle ih => rw [hangular, step_of_value_zero _ _ _ ih]
  exact hnever (N + (i + j)) (command_of_values (hlinear' _ (by omega)) (hangular' _ (by omega)))

end Stop

section Zeros

/-- No new lease and no new stop. -/
def Undisturbed : ArbiterEvent C → Prop
  | .acquire _ => False
  | .softStop _ => False
  | .resetMotion _ => False
  | _ => True

/-- The ways in which an arbiter without a lease comes to be stopped before the tick at `t₀`, or
by its watchdog. -/
inductive StopOf (config : TeleopConfig ℝ) (t₀ : ℝ) : DriveArbiter C ℝ → Prop
  | release {a : DriveArbiter C ℝ} {session : C} (held : a.holder = some session) :
    StopOf config t₀ (a.release session)
  | disconnect {a : DriveArbiter C ℝ} {session : C} (held : a.holder = some session) :
    StopOf config t₀ (a.disconnect session)
  | softStop (a : DriveArbiter C ℝ) (reason : String) : StopOf config t₀ (a.softStop reason)
  | watchdog {a : DriveArbiter C ℝ} (held : a.holder.isSome = true) (moving : a.target ≠ 0)
    (expired : a.inputExpired config t₀ = true) : StopOf config t₀ a

/-- How the ticks of a stopped arbiter go on: it moves until tick `n` and is still from then on. -/
structure StoppedAt (config : TeleopConfig ℝ) (t₀ h : ℝ) (between : ℕ → List (ArbiterEvent C))
    (a : DriveArbiter C ℝ) (n : ℕ) : Prop where
  moving : ∀ k < n, ∃ command, command ≠ 0 ∧ (tickAt config t₀ h between a k).2 = some command
  still : ∀ k, n ≤ k → (tickAt config t₀ h between a k).1.command = 0 ∧
    (tickAt config t₀ h between a k).1.stoppingFast = false
  held : ∀ k, n ≤ k → (tickAt config t₀ h between a k).1.holder ≠ none →
    (tickAt config t₀ h between a k).2 = some 0
  free : (tickAt config t₀ h between a 0).1.holder = none →
    (∀ k, ∀ event ∈ between k, Undisturbed event) → StopOf config t₀ a ∨ n ≠ 0 →
    ∀ k, n ≤ k → (tickAt config t₀ h between a k).2 =
      if k < n + trailingZeroCount then some 0 else none
  idle : (tickAt config t₀ h between a 0).1.holder = none →
    (∀ k, ∀ event ∈ between k, Undisturbed event) → a.target = 0 → n = 0 →
    ∀ k, (tickAt config t₀ h between a k).2 = if k < a.trailingZeros then some 0 else none

omit [DecidableEq C] in
theorem endLease_held (h : a.holder.isSome = true) (reason : String) (fast : Bool) :
    (a.endLease reason fast).trailingZeros = trailingZeroCount := by
  simp [endLease, h]

theorem StopOf.watched {t₀ : ℝ} (h : StopOf config t₀ a) :
    (a.watched config t₀).target = 0 ∧
      (a.watched config t₀).trailingZeros = trailingZeroCount := by
  cases h with
  | @release a session held =>
    have hrelease : a.release session = a.endLease "lease_released" false := if_pos held
    rw [hrelease, watched_of_target (by rfl)]
    exact ⟨rfl, endLease_held (by rw [held]; rfl) "lease_released" false⟩
  | @disconnect a session held =>
    have hdisconnect : a.disconnect session = a.endLease "client_disconnected" false := if_pos held
    rw [hdisconnect, watched_of_target (by rfl)]
    exact ⟨rfl, endLease_held (by rw [held]; rfl) "client_disconnected" false⟩
  | softStop a reason =>
    rw [watched_of_target rfl]
    exact ⟨rfl, rfl⟩
  | watchdog held moving expired =>
    have hexpired : DriveArbiter.watched config a t₀ =
        { a with lastTick := some t₀ }.endLease "command_timeout" false := by
      refine if_pos ?_
      have hlate : { a with lastTick := some t₀ }.inputExpired config t₀ = true := expired
      simp [held, moving, hlate]
    rw [hexpired]
    exact ⟨rfl, endLease_held held "command_timeout" false⟩

theorem undisturbed_perform (h : a.target = 0) (hfree : a.holder = none) {event : ArbiterEvent C}
    (hundriven : a.Undriven config event) (hundisturbed : Undisturbed event) :
    (a.perform config event).target = 0 ∧ (a.perform config event).holder = none ∧
      (a.perform config event).trailingZeros = a.trailingZeros := by
  have hother : ∀ session : C, a.holder ≠ some session := by
    intro session
    rw [hfree]
    exact Option.some_ne_none session |>.symm
  have hsame : a.perform config event = a := by
    cases event with
    | acquire session | softStop reason | resetMotion reason => exact absurd hundisturbed id
    | release session | disconnect session | halt session => exact if_neg (hother session)
    | drive session x y yaw now =>
      have hrejected : a.drive config session x y yaw now = (a, some leaseRequired) :=
        if_pos (hother session)
      exact congrArg Prod.fst hrejected
    | setGear session gear =>
      have hrejected : a.setGear config session gear = (a, some leaseRequired) :=
        if_pos (hother session)
      exact congrArg Prod.fst hrejected
    | tick now => exact absurd hundriven id
  rw [hsame]
  exact ⟨h, hfree, rfl⟩

theorem undisturbed_run (h : a.target = 0) (hfree : a.holder = none)
    {events : List (ArbiterEvent C)} (hundriven : Along (perform config) (Undriven config) a events)
    (hundisturbed : ∀ event ∈ events, Undisturbed event) :
    (run (perform config) a events).holder = none ∧
      (run (perform config) a events).trailingZeros = a.trailingZeros := by
  induction events generalizing a with
  | nil => exact ⟨hfree, rfl⟩
  | cons event rest ih =>
    obtain ⟨hevent, hrest⟩ := hundriven
    obtain ⟨hfirst, hothers⟩ := List.forall_mem_cons.1 hundisturbed
    obtain ⟨htarget, hholder, hcount⟩ := undisturbed_perform h hfree hevent hfirst
    obtain ⟨hholder', hcount'⟩ := ih htarget hholder hrest hothers
    exact ⟨hholder', hcount'.trans hcount⟩

variable {t₀ h : ℝ} {between : ℕ → List (ArbiterEvent C)}

section Free

variable (hstart : (a.watched config t₀).target = 0)
  (hcalls : ∀ n, Along (perform config) (Undriven config) (tickAt config t₀ h between a n).1
    (between n))
  (hfree : (tickAt config t₀ h between a 0).1.holder = none)
  (hundisturbed : ∀ k, ∀ event ∈ between k, Undisturbed event)
include hstart hcalls hfree hundisturbed

theorem free_kept (k : ℕ) : (tickAt config t₀ h between a k).1.holder = none ∧
    (ticking config t₀ h between a (k + 1)).trailingZeros =
      (tickAt config t₀ h between a k).1.trailingZeros := by
  have hsteps := target_and_coasts hstart hcalls
  have hkept := fun k (hnone : (tickAt config t₀ h between a k).1.holder = none) =>
    undisturbed_run (hsteps k).1 hnone (hcalls k) (hundisturbed k)
  induction k with
  | zero => exact ⟨hfree, (hkept 0 hfree).2⟩
  | succ k ih =>
    have hticked := (ticked config (ticking config t₀ h between a (k + 1))
      (t₀ + (k + 1 : ℕ) * h)).holder
    rw [watched_of_target (hsteps k).2.target] at hticked
    have hnone := hticked.trans (hkept k ih.1).1
    exact ⟨hnone, (hkept (k + 1) hnone).2⟩

theorem free_zeros {n count : ℕ}
    (hstill : ∀ k, n ≤ k → (tickAt config t₀ h between a k).1.command = 0)
    (hcount : ((ticking config t₀ h between a n).watched config (t₀ + n * h)).trailingZeros = count)
    (k : ℕ) (hk : n ≤ k) :
    (tickAt config t₀ h between a k).2 = if k < n + count then some 0 else none := by
  have hsteps := target_and_coasts hstart hcalls
  have hkept := free_kept hstart hcalls hfree hundisturbed
  have hpublished : ∀ k, n ≤ k →
      (tickAt config t₀ h between a k).1.trailingZeros =
        ((ticking config t₀ h between a k).watched config (t₀ + k * h)).trailingZeros - 1 ∧
      (tickAt config t₀ h between a k).2 =
        if 0 < ((ticking config t₀ h between a k).watched config (t₀ + k * h)).trailingZeros
        then some 0 else none := by
    intro k hk
    have hticked := ticked config (ticking config t₀ h between a k) (t₀ + k * h)
    exact hticked.still_free (hstill k hk) (hticked.holder.symm.trans (hkept k).1)
  have hleft : ((ticking config t₀ h between a k).watched config (t₀ + k * h)).trailingZeros =
      count - (k - n) := by
    induction k, hk using Nat.le_induction with
    | base => rw [hcount, Nat.sub_self, Nat.sub_zero]
    | succ k hk ih =>
      rw [watched_of_target (hsteps k).2.target]
      dsimp only
      rw [(hkept k).2, (hpublished k hk).1, ih]
      omega
  rw [(hpublished k hk).2, hleft]
  congr 1
  exact propext (by omega)

end Free

variable (config) in
/-- Every chassis stop reaches zero, and its zeros are counted. -/
theorem chassis_stop_ends (hpos : 0 < h) (hmax : h ≤ maxTickDtS)
    (hstop : StopOf config t₀ a ∨ a.target = 0)
    (hcalls : ∀ n, Along (perform config) (Undriven config) (tickAt config t₀ h between a n).1
      (between n)) : ∃ n, StoppedAt config t₀ h between a n := by
  classical
  have hstart : (a.watched config t₀).target = 0 := by
    rcases hstop with hstop | htarget
    · exact hstop.watched.1
    · rw [watched_of_target htarget]
      exact htarget
  have hexists := exists_still hstart hcalls hpos hmax
  have hticked := fun k => ticked config (ticking config t₀ h between a k) (t₀ + k * h)
  have hfirst : (ticking config t₀ h between a 0).watched config (t₀ + (0 : ℕ) * h) =
      a.watched config t₀ := by
    rw [Nat.cast_zero, zero_mul, add_zero]
    rfl
  have hstill : ∀ k, Nat.find hexists ≤ k → (tickAt config t₀ h between a k).1.command = 0 :=
    fun k hk => still_of_le hstart hcalls hk (Nat.find_spec hexists)
  refine ⟨Nat.find hexists, ?_, ?_, ?_, ?_, ?_⟩
  · intro k hk
    have hmoving := Nat.find_min hexists hk
    exact ⟨_, hmoving, ((hticked k).moving hmoving).2⟩
  · exact fun k hk => ⟨hstill k hk, (hticked k).settled (hstill k hk)⟩
  · intro k hk hheld
    refine (hticked k).still_held (hstill k hk) ?_
    rwa [← (hticked k).holder]
  · intro hfree hundisturbed hcase
    refine free_zeros hstart hcalls hfree hundisturbed hstill ?_
    rcases hn : Nat.find hexists with _ | m
    · rw [hfirst]
      exact (hcase.resolve_right (absurd hn)).watched.2
    · have hmoving : (tickAt config t₀ h between a m).1.command ≠ 0 :=
        Nat.find_min hexists (by omega)
      obtain ⟨hnone, hkept⟩ := free_kept hstart hcalls hfree hundisturbed m
      rw [watched_of_target (target_and_coasts hstart hcalls m).2.target]
      exact hkept.trans ((hticked m).moving_free hmoving ((hticked m).holder.symm.trans hnone))
  · intro hfree hundisturbed htarget hzero k
    have hcount : ((ticking config t₀ h between a 0).watched config
        (t₀ + (0 : ℕ) * h)).trailingZeros = a.trailingZeros := by
      rw [hfirst, watched_of_target htarget]
    rw [hzero] at hstill
    rw [free_zeros hstart hcalls hfree hundisturbed hstill hcount k (Nat.zero_le k), zero_add]

theorem soft_stop_ends : ∃ n, StoppedAt corneringConfig 1 (1 / 20) (fun _ => [])
    ((run (perform corneringConfig) (initial corneringConfig) corneringEvents).softStop
      "soft_stop") n :=
  chassis_stop_ends corneringConfig (by norm_num) (by norm_num [maxTickDtS])
    (.inl (.softStop _ _)) fun _ => along_nil _

end Zeros

end DriveArbiter

end RobotDriver.OperatorWeb.Teleop
