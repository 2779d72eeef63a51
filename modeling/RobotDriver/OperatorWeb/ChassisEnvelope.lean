import RobotDriver.Lib.LabelledRun
import RobotDriver.OperatorWeb.FollowerEnvelope

/-!
# The envelope of the chassis commands

The gear changes only at a standstill, so all targets of a motion lie in the ball of one gear. The
commands stay in it as long as the motion is straight; a change of the target while the chassis
accelerates can carry them past it, by no more than the overshoot of the limits.
-/

namespace RobotDriver.OperatorWeb.Teleop

open LabelledRun StickMath JerkLimitedFollower

variable {C : Type*} [DecidableEq C]

/-- The operations of the arbiter; `now` is what the clock shows to those that read it. -/
inductive ArbiterEvent (C : Type*)
  | acquire (session : C)
  | release (session : C)
  | disconnect (session : C)
  | softStop (reason : String)
  | drive (session : C) (x y : Double ℝ) (yaw : ℤ) (now : ℝ)
  | halt (session : C)
  | setGear (session : C) (gear : String)
  | resetMotion (reason : String)
  | tick (now : ℝ)

namespace DriveArbiter

variable (config : TeleopConfig ℝ)

noncomputable def perform (a : DriveArbiter C ℝ) : ArbiterEvent C → DriveArbiter C ℝ
  | .acquire session => (a.acquire session).1
  | .release session => a.release session
  | .disconnect session => a.disconnect session
  | .softStop reason => a.softStop reason
  | .drive session x y yaw now => (a.drive config session x y yaw now).1
  | .halt session => a.halt session
  | .setGear session gear => (a.setGear config session gear).1
  | .resetMotion reason => a.resetMotion reason
  | .tick now => (a.tick config now).1

noncomputable def published (a : DriveArbiter C ℝ) : ArbiterEvent C → Option (Command ℝ)
  | .tick now => (a.tick config now).2
  | _ => none

variable (a : DriveArbiter C ℝ)

def linearTarget : Fin 2 → ℝ := ![a.target.1, a.target.2.1]

def angularTarget : Fin 1 → ℝ := ![a.target.2.2]

/-- A tick after its watchdog, just before the profile advances. -/
noncomputable def watched (now : ℝ) : DriveArbiter C ℝ :=
  { a with lastTick := some now }.watchdog config now

/-- Two vectors differ by at most `peak * dt`, or by less than the snap error. -/
def Near {d : ℕ} (v w : Fin d → ℝ) (peak dt : ℝ) : Prop :=
  JerkLimitedFollower.norm (w - v) ≤ peak * dt ∨ JerkLimitedFollower.norm (w - v) < snapError

/-- How an event may change the command. -/
def Changes : ArbiterEvent C → Prop
  | .tick now =>
    Near a.linear.value (a.tick config now).1.linear.value
      ((a.watched config now).linear.peakAndJerk (a.watched config now).linearTarget
        config.limits.linear (a.watched config now).stoppingFast).1 (a.tickDt now) ∧
    Near a.angular.value (a.tick config now).1.angular.value
      ((a.watched config now).angular.peakAndJerk (a.watched config now).angularTarget
        config.limits.angular (a.watched config now).stoppingFast).1 (a.tickDt now)
  | .resetMotion reason => (a.resetMotion reason).command = 0
  | event => (a.perform config event).command = a.command

/-- The speeds are within those of the gear, but for the overshoot; a straight motion has none. -/
structure WithinGear (gear : Gear ℝ) : Prop where
  linear : hypot a.command.1 a.command.2.1 ≤ gear.linear + config.limits.linear.overshoot
  angular : |a.command.2.2| ≤ gear.angular + config.limits.angular.overshoot
  straight_linear : a.linear.Straight a.linearTarget →
    hypot a.command.1 a.command.2.1 ≤ gear.linear
  straight_angular : a.angular.Straight a.angularTarget → |a.command.2.2| ≤ gear.angular

/-- What holds of an event and of the command it leaves. -/
structure Envelope (event : ArbiterEvent C) : Prop where
  published : ∀ command, a.published config event = some command →
    command = (a.perform config event).command
  gear_kept : (a.perform config event).gear ≠ a.gear → a.target = 0 ∧ a.command = 0
  speed : ∃ gear, gearNamed config (a.perform config event).gear = some gear ∧
    (a.perform config event).WithinGear config gear
  straight_linear : (a.perform config event).target = a.target ∧ a.linear.Straight a.linearTarget ∨
      a.linear = .reset →
    (a.perform config event).linear.Straight (a.perform config event).linearTarget
  straight_angular :
    (a.perform config event).target = a.target ∧ a.angular.Straight a.angularTarget ∨
      a.angular = .reset →
    (a.perform config event).angular.Straight (a.perform config event).angularTarget
  changes : a.Changes config event

section Effects

variable {config a}

/-- The target of an accepted input. -/
def Accepted (config : TeleopConfig ℝ) (a : DriveArbiter C ℝ) (target : Command ℝ) : Prop :=
  ∃ gear x y, ∃ yaw : ℤ, gearNamed config a.gear = some gear ∧ yaw ∈ ([-1, 0, 1] : List ℤ) ∧
    target = ((shapeStick x y).1 * gear.linear, (shapeStick x y).2 * gear.linear,
      yaw * gear.angular)

/-- All that an operation other than a tick or a reset does to the motion. -/
inductive Effect (config : TeleopConfig ℝ) (a : DriveArbiter C ℝ) : DriveArbiter C ℝ → Prop
  | target {a' : DriveArbiter C ℝ} (gear : a'.gear = a.gear) (linear : a'.linear = a.linear)
      (angular : a'.angular = a.angular)
      (target : a'.target = a.target ∨ a'.target = 0 ∨ Accepted config a a'.target) :
      Effect config a a'
  | gear {name : String} {gear : Gear ℝ} (known : gearNamed config name = some gear)
      (target : a.target = 0) (command : a.command = 0) : Effect config a { a with gear := name }

omit [DecidableEq C] in
theorem effect_endLease (reason : String) (fast : Bool) :
    Effect config a (a.endLease reason fast) :=
  .target rfl rfl rfl (.inr (.inl rfl))

omit [DecidableEq C] in
theorem effect_refl : Effect config a a := .target rfl rfl rfl (.inl rfl)

omit [DecidableEq C] in
theorem effect_zeroTarget (reason : String) : Effect config a (a.zeroTarget reason) :=
  .target rfl rfl rfl (.inr (.inl rfl))

theorem effect_drive (session : C) (x y : Double ℝ) (yaw : ℤ) (now : ℝ) :
    Effect config a (a.drive config session x y yaw now).1 := by
  unfold drive
  split
  · exact effect_refl
  split
  · split
    · exact effect_zeroTarget _
    split
    · exact effect_zeroTarget _
    rename_i hyaw
    dsimp only
    split
    · exact effect_zeroTarget _
    split
    · exact effect_refl
    · rename_i x y _ _ _ gear hgear
      exact .target rfl rfl rfl (.inr (.inr ⟨gear, x, y, yaw, hgear, not_not.1 hyaw, rfl⟩))
  · exact effect_zeroTarget _

theorem effect_setGear (session : C) (gear : String) :
    Effect config a (a.setGear config session gear).1 := by
  unfold setGear
  split_ifs with hheld hunknown hmoving
  · exact effect_refl
  · exact effect_refl
  · exact effect_refl
  · obtain ⟨known, hknown⟩ := Option.ne_none_iff_exists'.1 (by simpa using hunknown)
    have hrest : a.target = 0 ∧ a.command = 0 := by simpa [moving] using hmoving
    exact .gear hknown hrest.1 hrest.2

theorem effect_perform (config : TeleopConfig ℝ) (a : DriveArbiter C ℝ)
    (event : ArbiterEvent C) (htick : ∀ now, event ≠ .tick now)
    (hreset : ∀ reason, event ≠ .resetMotion reason) :
    Effect config a (a.perform config event) := by
  cases event with
  | acquire session =>
    simp only [perform, acquire]
    split
    · split_ifs <;> exact effect_refl
    · exact .target rfl rfl rfl (.inr (.inl rfl))
  | release session =>
    simp only [perform, release]
    split_ifs
    · exact effect_endLease _ _
    · exact effect_refl
  | disconnect session =>
    simp only [perform, disconnect]
    split_ifs
    · exact effect_endLease _ _
    · exact effect_refl
  | softStop reason => exact .target rfl rfl rfl (.inr (.inl rfl))
  | drive session x y yaw now => exact effect_drive session x y yaw now
  | halt session =>
    simp only [perform, halt]
    split_ifs
    · exact effect_zeroTarget _
    · exact effect_refl
  | setGear session gear => exact effect_setGear session gear
  | resetMotion reason => exact absurd rfl (hreset reason)
  | tick now => exact absurd rfl (htick now)

omit [DecidableEq C] in
theorem Effect.followers {a' : DriveArbiter C ℝ} (h : Effect config a a') :
    a'.linear = a.linear ∧ a'.angular = a.angular := by
  cases h with
  | target gear linear angular target => exact ⟨linear, angular⟩
  | gear known target command => exact ⟨rfl, rfl⟩

omit [DecidableEq C] in
theorem Effect.gear_kept {a' : DriveArbiter C ℝ} (h : Effect config a a')
    (hgear : a'.gear ≠ a.gear) : a.target = 0 ∧ a.command = 0 := by
  cases h with
  | target gear linear angular target => exact absurd gear hgear
  | gear known target command => exact ⟨target, command⟩

theorem shapeStick_sq_le (x y : ℝ) : (shapeStick x y).1 ^ 2 + (shapeStick x y).2 ^ 2 ≤ 1 := by
  by_cases hdead : hypot x y ≤ stickDeadzone
  · simp [shapeStick, hdead]
  simp only [shapeStick, if_neg hdead]
  set magnitude : ℝ := min (hypot x y) 1 with hmag
  set scaled : ℝ := ((magnitude - stickDeadzone) / (1 - stickDeadzone)) ^ 2 with hscaled
  set angle : ℝ := (snapAxes.find? fun axis =>
    |atan2 y x - axis| ≤ stickSnapDeg * pi / 180).getD (atan2 y x)
  have hcut : ∀ z : ℝ, (if |z| < epsilon then 0 else z) ^ 2 ≤ z ^ 2 := by
    intro z
    split_ifs
    · rw [zero_pow two_ne_zero]
      exact sq_nonneg z
    · exact le_rfl
  have hmag1 : magnitude ≤ 1 := min_le_right _ _
  have hmag0 : stickDeadzone ≤ magnitude := le_min (not_le.1 hdead).le (by norm_num [stickDeadzone])
  have hshare0 : 0 ≤ (magnitude - stickDeadzone) / (1 - stickDeadzone) :=
    div_nonneg (sub_nonneg.2 hmag0) (by norm_num [stickDeadzone])
  have hshare1 : (magnitude - stickDeadzone) / (1 - stickDeadzone) ≤ 1 :=
    div_le_one_of_le₀ (by linarith) (by norm_num [stickDeadzone])
  have hscaled0 : 0 ≤ scaled := sq_nonneg _
  have hscaled1 : scaled ≤ 1 := pow_le_one₀ hshare0 hshare1
  calc (if |scaled * cos angle| < epsilon then 0 else scaled * cos angle) ^ 2 +
        (if |scaled * sin angle| < epsilon then 0 else scaled * sin angle) ^ 2
      ≤ (scaled * cos angle) ^ 2 + (scaled * sin angle) ^ 2 := add_le_add (hcut _) (hcut _)
    _ = scaled ^ 2 * (Real.cos angle ^ 2 + Real.sin angle ^ 2) := by
        rw [mul_pow, mul_pow, mul_add]
        rfl
    _ ≤ 1 := by
        rw [Real.cos_sq_add_sin_sq, mul_one]
        exact pow_le_one₀ hscaled0 hscaled1

end Effects

section Invariant

variable {config a} {gear : Gear ℝ}

theorem valid_linear (config : TeleopConfig ℝ) : config.limits.linear.Valid := by
  obtain ⟨haccel, hdecel, hstop, hjerk⟩ := config.limits_pos _ List.mem_cons_self
  exact ⟨haccel, hdecel, hdecel.trans_le hstop, hjerk, hstop⟩

theorem valid_angular (config : TeleopConfig ℝ) : config.limits.angular.Valid := by
  obtain ⟨haccel, hdecel, hstop, hjerk⟩ :=
    config.limits_pos _ (List.mem_cons_of_mem _ List.mem_cons_self)
  exact ⟨haccel, hdecel, hdecel.trans_le hstop, hjerk, hstop⟩

theorem gearNamed_pos {name : String} (h : gearNamed config name = some gear) :
    0 < gear.linear ∧ 0 < gear.angular := by
  obtain ⟨first, last, heq, -⟩ := List.lookup_eq_some_iff.1 h
  exact config.gears_pos (name, gear) (by simp [heq])

/-- The targets lie in the ball of the selected gear and the followers are contained in it. -/
structure Enveloped (config : TeleopConfig ℝ) (a : DriveArbiter C ℝ) (gear : Gear ℝ) : Prop where
  selected : gearNamed config a.gear = some gear
  linear_le : ‖toSpace a.linearTarget‖ ≤ gear.linear
  angular_le : ‖toSpace a.angularTarget‖ ≤ gear.angular
  linear : a.linear.Contained config.limits.linear gear.linear
  angular : a.angular.Contained config.limits.angular gear.angular

omit [DecidableEq C] in
theorem targets_of_zero (h : a.target = 0) : a.linearTarget = 0 ∧ a.angularTarget = 0 := by
  rw [linearTarget, angularTarget, h]
  refine ⟨?_, ?_⟩
  · funext i
    fin_cases i <;> rfl
  · funext i
    fin_cases i
    rfl

omit [DecidableEq C] in
theorem values_of_command_zero (h : a.command = 0) : a.linear.value = 0 ∧ a.angular.value = 0 := by
  rw [command, Prod.mk_eq_zero, Prod.mk_eq_zero] at h
  refine ⟨?_, ?_⟩
  · funext i
    fin_cases i
    · exact h.1
    · exact h.2.1
  · funext i
    fin_cases i
    exact h.2.2

omit [DecidableEq C] in
theorem Accepted.norm_le {target : Command ℝ} (h : Accepted config a target)
    (hgear : gearNamed config a.gear = some gear) :
    ‖toSpace ![target.1, target.2.1]‖ ≤ gear.linear ∧ ‖toSpace ![target.2.2]‖ ≤ gear.angular := by
  obtain ⟨other, x, y, yaw, hother, hyaw, rfl⟩ := h
  obtain rfl : other = gear := Option.some.inj (hother.symm.trans hgear)
  obtain ⟨hlinear, hangular⟩ := gearNamed_pos hgear
  have hstick := shapeStick_sq_le x y
  constructor
  · rw [← norm_eq, norm_fin_two]
    refine Real.sqrt_le_iff.2 ⟨hlinear.le, ?_⟩
    have hscaled := mul_le_mul_of_nonneg_left hstick (sq_nonneg other.linear)
    simp only [Matrix.cons_val_zero, Matrix.cons_val_one]
    nlinarith
  · rw [← norm_eq, norm_fin_one]
    have hturn : |(yaw : ℝ)| ≤ 1 := by
      simp only [List.mem_cons, List.not_mem_nil, or_false] at hyaw
      rcases hyaw with rfl | rfl | rfl <;> norm_num
    simp only [Matrix.cons_val_zero]
    rw [abs_mul, abs_of_pos hangular]
    exact mul_le_of_le_one_left hangular.le hturn

omit [DecidableEq C] in
theorem Enveloped.of_target (h : a.Enveloped config gear) {a' : DriveArbiter C ℝ}
    (hgear : a'.gear = a.gear) (hlinear : a'.linear = a.linear) (hangular : a'.angular = a.angular)
    (htarget : a'.target = a.target ∨ a'.target = 0 ∨ Accepted config a a'.target) :
    a'.Enveloped config gear := by
  obtain ⟨hpos, hpos'⟩ := gearNamed_pos h.selected
  have htargets : ‖toSpace a'.linearTarget‖ ≤ gear.linear ∧
      ‖toSpace a'.angularTarget‖ ≤ gear.angular := by
    rcases htarget with hsame | hzero | haccepted
    · rw [linearTarget, angularTarget, hsame]
      exact ⟨h.linear_le, h.angular_le⟩
    · rw [(targets_of_zero hzero).1, (targets_of_zero hzero).2, toSpace_zero, toSpace_zero,
        norm_zero, norm_zero]
      exact ⟨hpos.le, hpos'.le⟩
    · exact haccepted.norm_le h.selected
  exact ⟨hgear ▸ h.selected, htargets.1, htargets.2, hlinear ▸ h.linear, hangular ▸ h.angular⟩

omit [DecidableEq C] in
theorem enveloped_of_rest (hselected : gearNamed config a.gear = some gear)
    (htarget : a.target = 0) (hcommand : a.command = 0)
    (hlinear : ‖toSpace a.linear.accel‖ ≤ config.limits.linear.peak)
    (hangular : ‖toSpace a.angular.accel‖ ≤ config.limits.angular.peak) :
    a.Enveloped config gear := by
  obtain ⟨hpos, hpos'⟩ := gearNamed_pos hselected
  obtain ⟨hlinear0, hangular0⟩ := targets_of_zero htarget
  obtain ⟨hvalue, hvalue'⟩ := values_of_command_zero hcommand
  refine ⟨hselected, ?_, ?_, contained_of_value_zero (valid_linear config) hpos.le hlinear hvalue,
    contained_of_value_zero (valid_angular config) hpos'.le hangular hvalue'⟩
  · rw [hlinear0, toSpace_zero, norm_zero]
    exact hpos.le
  · rw [hangular0, toSpace_zero, norm_zero]
    exact hpos'.le

omit [DecidableEq C] in
theorem enveloped_initial :
    ∃ gear, (initial config : DriveArbiter C ℝ).Enveloped config gear := by
  have hknown : (gearNamed config (config.gears.head config.gears_ne).1).isSome := by
    rw [gearNamed, List.lookup_isSome_iff]
    exact ⟨_, List.head_mem config.gears_ne, beq_self_eq_true _⟩
  obtain ⟨gear, hgear⟩ := Option.isSome_iff_exists.1 hknown
  refine ⟨gear, enveloped_of_rest hgear rfl rfl ?_ ?_⟩
  · exact (norm_zero).trans_le (limits_peak_pos (valid_linear config)).le
  · exact (norm_zero).trans_le (limits_peak_pos (valid_angular config)).le

omit [DecidableEq C] in
theorem Enveloped.effect (h : a.Enveloped config gear) {a' : DriveArbiter C ℝ}
    (heffect : Effect config a a') : ∃ gear', a'.Enveloped config gear' := by
  cases heffect with
  | target hgear hlinear hangular htarget =>
    exact ⟨gear, h.of_target hgear hlinear hangular htarget⟩
  | gear known target command =>
    exact ⟨_, enveloped_of_rest known target command h.linear.accel h.angular.accel⟩

omit [DecidableEq C] in
theorem Enveloped.resetMotion (h : a.Enveloped config gear) (reason : String) :
    (a.resetMotion reason).Enveloped config gear :=
  enveloped_of_rest h.selected rfl rfl
    (norm_zero.trans_le (limits_peak_pos (valid_linear config)).le)
    (norm_zero.trans_le (limits_peak_pos (valid_angular config)).le)

section Tick

variable (config a) (now : ℝ)

omit [DecidableEq C] in
theorem tickDt_mem : 0 ≤ a.tickDt now ∧ a.tickDt now ≤ maxTickDtS := by
  have hmax : (0 : ℝ) ≤ maxTickDtS := by norm_num [maxTickDtS]
  unfold tickDt
  split
  · exact ⟨le_rfl, hmax⟩
  · exact ⟨le_min (le_max_right _ _) hmax, min_le_right _ _⟩

omit [DecidableEq C] in
theorem watched_cases : (a.watched config now).gear = a.gear ∧
    (a.watched config now).linear = a.linear ∧ (a.watched config now).angular = a.angular ∧
    ((a.watched config now).target = a.target ∨ (a.watched config now).target = 0) := by
  unfold watched watchdog
  split_ifs
  · exact ⟨rfl, rfl, rfl, .inr rfl⟩
  · exact ⟨rfl, rfl, rfl, .inl rfl⟩

omit [DecidableEq C] in
theorem settle_publish (b : DriveArbiter C ℝ) : b.settle.publish.1.gear = b.gear ∧
    b.settle.publish.1.target = b.target ∧ b.settle.publish.1.linear = b.linear ∧
    b.settle.publish.1.angular = b.angular := by
  have hsettle : b.settle.gear = b.gear ∧ b.settle.target = b.target ∧
      b.settle.linear = b.linear ∧ b.settle.angular = b.angular := by
    unfold settle
    split_ifs <;> exact ⟨rfl, rfl, rfl, rfl⟩
  have hpublish : b.settle.publish.1.gear = b.settle.gear ∧
      b.settle.publish.1.target = b.settle.target ∧ b.settle.publish.1.linear = b.settle.linear ∧
      b.settle.publish.1.angular = b.settle.angular := by
    unfold publish
    split_ifs <;> exact ⟨rfl, rfl, rfl, rfl⟩
  exact ⟨hpublish.1.trans hsettle.1, hpublish.2.1.trans hsettle.2.1,
    hpublish.2.2.1.trans hsettle.2.2.1, hpublish.2.2.2.trans hsettle.2.2.2⟩

omit [DecidableEq C] in
theorem follow_settle_publish (b : DriveArbiter C ℝ) (dt : ℝ) :
    (b.follow config dt).settle.publish.1.holder = b.holder ∧
    (b.follow config dt).settle.publish.1.lastInput = b.lastInput ∧
    (b.follow config dt).settle.publish.1.lastTick = b.lastTick ∧
    (b.stoppingFast = false → (b.follow config dt).settle.publish.1.stoppingFast = false) := by
  have hfollow : (b.follow config dt).holder = b.holder ∧
      (b.follow config dt).lastInput = b.lastInput ∧ (b.follow config dt).lastTick = b.lastTick ∧
      (b.follow config dt).stoppingFast = b.stoppingFast := by
    unfold follow
    split_ifs <;> exact ⟨rfl, rfl, rfl, rfl⟩
  obtain ⟨hholder, hinput, hticked, hslow⟩ := hfollow
  rw [← hholder, ← hinput, ← hticked, ← hslow]
  unfold settle publish
  split_ifs <;> exact ⟨rfl, rfl, rfl, fun h => by first | exact h | rfl⟩

omit [DecidableEq C] in
theorem tick_motion : (a.tick config now).1.gear = a.gear ∧
    (a.tick config now).1.target = (a.watched config now).target ∧
    (a.tick config now).1.linear =
      (if 0 < a.tickDt now then a.linear.step (a.watched config now).linearTarget (a.tickDt now)
        config.limits.linear (a.watched config now).stoppingFast else a.linear) ∧
    (a.tick config now).1.angular =
      (if 0 < a.tickDt now then a.angular.step (a.watched config now).angularTarget (a.tickDt now)
        config.limits.angular (a.watched config now).stoppingFast else a.angular) := by
  obtain ⟨hgear, hlinear, hangular, -⟩ := watched_cases config a now
  obtain ⟨hgear', htarget', hlinear', hangular'⟩ :=
    settle_publish ((a.watched config now).follow config (a.tickDt now))
  rw [← hgear]
  refine ⟨hgear'.trans ?_, htarget'.trans ?_, hlinear'.trans ?_, hangular'.trans ?_⟩
  · unfold follow
    split_ifs <;> rfl
  · unfold follow
    split_ifs <;> rfl
  · rw [← hlinear]
    unfold follow
    split_ifs <;> rfl
  · rw [← hangular]
    unfold follow
    split_ifs <;> rfl

omit [DecidableEq C] in
theorem publish_command (b : DriveArbiter C ℝ) (command : Command ℝ)
    (h : b.publish.2 = some command) : command = b.publish.1.command := by
  unfold publish at h ⊢
  split_ifs at h ⊢ with hpublished hfree hzeros
  · exact (Option.some.inj h).symm
  · exact (Option.some.inj h).symm
  · have hstill : b.command = 0 := by
      simp only [Bool.or_eq_true, not_or, decide_eq_true_eq, ne_eq, not_not] at hpublished
      exact hpublished.2
    exact (Option.some.inj h).symm.trans hstill.symm

omit [DecidableEq C] in
theorem tick_published (command : Command ℝ) (h : (a.tick config now).2 = some command) :
    command = (a.tick config now).1.command :=
  publish_command _ command h

omit [DecidableEq C] in
theorem Enveloped.tick (h : a.Enveloped config gear) :
    (a.tick config now).1.Enveloped config gear := by
  obtain ⟨hgear, hlinear, hangular, htarget⟩ := watched_cases config a now
  have hwatched : (a.watched config now).Enveloped config gear :=
    h.of_target hgear hlinear hangular (htarget.imp_right .inl)
  obtain ⟨hgear', htarget', hlinear', hangular'⟩ := tick_motion config a now
  obtain ⟨hdt, hdt'⟩ := tickDt_mem a now
  refine ⟨hgear' ▸ h.selected, ?_, ?_, ?_, ?_⟩
  · rw [linearTarget, htarget']
    exact hwatched.linear_le
  · rw [angularTarget, htarget']
    exact hwatched.angular_le
  · rw [hlinear']
    split_ifs
    · exact h.linear.step (valid_linear config) hdt hdt' hwatched.linear_le
    · exact h.linear
  · rw [hangular']
    split_ifs
    · exact h.angular.step (valid_angular config) hdt hdt' hwatched.angular_le
    · exact h.angular

theorem changes_tick : a.Changes config (.tick now) := by
  obtain ⟨-, hlinear, hangular, -⟩ := watched_cases config a now
  obtain ⟨-, -, hlinear', hangular'⟩ := tick_motion config a now
  obtain ⟨hdt, -⟩ := tickDt_mem a now
  have hsnap : (0 : ℝ) < snapError := by norm_num [snapError]
  constructor
  · rw [hlinear', hlinear, Near, norm_eq, toSpace_sub]
    split_ifs
    · exact norm_step_value_sub_le (valid_linear config) hdt
    · right
      rwa [sub_self, norm_zero]
  · rw [hangular', hangular, Near, norm_eq, toSpace_sub]
    split_ifs
    · exact norm_step_value_sub_le (valid_angular config) hdt
    · right
      rwa [sub_self, norm_zero]

end Tick

omit [DecidableEq C] in
theorem Enveloped.withinGear (h : a.Enveloped config gear) : a.WithinGear config gear := by
  obtain ⟨hpos, hpos'⟩ := gearNamed_pos h.selected
  have hlinear : hypot a.command.1 a.command.2.1 = ‖toSpace a.linear.value‖ := by
    rw [← norm_eq, norm_fin_two]
    rfl
  have hangular : |a.command.2.2| = ‖toSpace a.angular.value‖ := by
    rw [← norm_eq, norm_fin_one]
    rfl
  refine ⟨?_, ?_, fun hstraight => ?_, fun hstraight => ?_⟩
  · rw [hlinear]
    exact h.linear.norm_value_le (valid_linear config) hpos.le
  · rw [hangular]
    exact h.angular.norm_value_le (valid_angular config) hpos'.le
  · rw [hlinear]
    exact hstraight.norm_value_le.trans h.linear_le
  · rw [hangular]
    exact hstraight.norm_value_le.trans h.angular_le

theorem straight_before (config : TeleopConfig ℝ) (a : DriveArbiter C ℝ)
    (event : ArbiterEvent C) :
    ((a.perform config event).target = a.target ∧ a.linear.Straight a.linearTarget ∨
        a.linear = .reset → a.linear.Straight (a.perform config event).linearTarget) ∧
      ((a.perform config event).target = a.target ∧ a.angular.Straight a.angularTarget ∨
        a.angular = .reset → a.angular.Straight (a.perform config event).angularTarget) := by
  constructor
  · rintro (⟨htarget, hstraight⟩ | hreset)
    · rwa [linearTarget, htarget]
    · rw [hreset]
      exact straight_reset _
  · rintro (⟨htarget, hstraight⟩ | hreset)
    · rwa [angularTarget, htarget]
    · rw [hreset]
      exact straight_reset _

theorem envelope_tick (h : a.Enveloped config gear) (now : ℝ) : a.Envelope config (.tick now) := by
  obtain ⟨hgear, htarget, hlinear, hangular⟩ := tick_motion config a now
  obtain ⟨hdt, -⟩ := tickDt_mem a now
  obtain ⟨hbefore, hbefore'⟩ := straight_before config a (.tick now)
  refine ⟨tick_published config a now, absurd hgear, ?_, fun hstraight => ?_,
    fun hstraight => ?_, changes_tick config a now⟩
  · have hticked := h.tick config a now
    exact ⟨gear, hticked.selected, hticked.withinGear⟩
  · have hstep := hbefore hstraight
    simp only [perform, linearTarget, htarget] at hstep ⊢
    rw [hlinear]
    split_ifs
    · exact hstep.step (valid_linear config) hdt
    · exact hstep
  · have hstep := hbefore' hstraight
    simp only [perform, angularTarget, htarget] at hstep ⊢
    rw [hangular]
    split_ifs
    · exact hstep.step (valid_angular config) hdt
    · exact hstep

theorem envelope_resetMotion (h : a.Enveloped config gear) (reason : String) :
    a.Envelope config (.resetMotion reason) := by
  have hreset := h.resetMotion reason
  exact {
    published := fun command hcommand => by cases hcommand
    gear_kept := absurd rfl
    speed := ⟨gear, hreset.selected, hreset.withinGear⟩
    straight_linear := fun _ => straight_reset _
    straight_angular := fun _ => straight_reset _
    changes := rfl }

theorem envelope_effect (h : a.Enveloped config gear) {event : ArbiterEvent C}
    (htick : ∀ now, event ≠ .tick now) (hreset : ∀ reason, event ≠ .resetMotion reason) :
    a.Envelope config event := by
  have heffect := effect_perform config a event htick hreset
  obtain ⟨gear', hgear'⟩ := h.effect heffect
  obtain ⟨hlinear, hangular⟩ := heffect.followers
  obtain ⟨hbefore, hbefore'⟩ := straight_before config a event
  refine ⟨?_, heffect.gear_kept, ⟨gear', hgear'.selected, hgear'.withinGear⟩, ?_, ?_, ?_⟩
  · intro command hcommand
    cases event with
    | tick now => exact absurd rfl (htick now)
    | _ => cases hcommand
  · rwa [hlinear]
  · rwa [hangular]
  · have hcommand : (a.perform config event).command = a.command := by
      rw [command, hlinear, hangular, command]
    cases event with
    | tick now => exact absurd rfl (htick now)
    | resetMotion reason => exact absurd rfl (hreset reason)
    | _ => exact hcommand

theorem Enveloped.perform (h : a.Enveloped config gear) (event : ArbiterEvent C) :
    ∃ gear', (a.perform config event).Enveloped config gear' := by
  by_cases htick : ∃ now, event = .tick now
  · obtain ⟨now, rfl⟩ := htick
    exact ⟨gear, h.tick config a now⟩
  by_cases hreset : ∃ reason, event = .resetMotion reason
  · obtain ⟨reason, rfl⟩ := hreset
    exact ⟨gear, h.resetMotion reason⟩
  · exact h.effect (effect_perform config a event (not_exists.1 htick) (not_exists.1 hreset))

theorem Enveloped.envelope (h : a.Enveloped config gear) (event : ArbiterEvent C) :
    a.Envelope config event := by
  by_cases htick : ∃ now, event = .tick now
  · obtain ⟨now, rfl⟩ := htick
    exact envelope_tick h now
  by_cases hreset : ∃ reason, event = .resetMotion reason
  · obtain ⟨reason, rfl⟩ := hreset
    exact envelope_resetMotion h reason
  · exact envelope_effect h (not_exists.1 htick) (not_exists.1 hreset)

end Invariant

/-- Every command of every run is within the envelope. -/
theorem chassis_envelope (events : List (ArbiterEvent C)) :
    Along (perform config) (Envelope config) (initial config : DriveArbiter C ℝ) events := by
  refine along_of_invariant (P := fun a => ∃ gear, a.Enveloped config gear) ?_ ?_
    enveloped_initial events
  · rintro b event ⟨gear, h⟩
    exact h.perform event
  · rintro b event ⟨gear, h⟩
    exact h.envelope event

section Cornering

/-- One gear, and limits that let the first tick reach its speed almost. -/
noncomputable def corneringConfig : TeleopConfig ℝ where
  gears := [("walk", ⟨11 / 960, 1⟩)]
  limits := ⟨⟨1 / 10, 1 / 10, 1 / 10, 1⟩, ⟨1 / 10, 1 / 10, 1 / 10, 1⟩⟩
  commandTimeout := 1 / 5
  gears_ne := List.cons_ne_nil _ _
  gears_pos := by
    intro entry hentry
    rw [List.mem_singleton] at hentry
    rw [hentry]
    norm_num
  limits_pos := by
    intro axis haxis
    simp only [List.mem_cons, List.not_mem_nil, or_false, or_self] at haxis
    rw [haxis]
    norm_num
  commandTimeout_pos := by norm_num

/-- Forward, and after the first tick that moves, to the left. -/
noncomputable def corneringEvents : List (ArbiterEvent String) :=
  [.acquire "a", .drive "a" (.finite 1) (.finite 0) 0 0, .tick 0, .tick (1 / 10),
    .drive "a" (.finite 0) (.finite 1) 0 (1 / 10)]

theorem shapeStick_unit {x y : ℝ} (axis : ℝ) (hunit : hypot x y = 1)
    (hsnap : (snapAxes.find? fun axis => |atan2 y x - axis| ≤ stickSnapDeg * pi / 180) = some axis)
    (hcos : cos axis = x) (hsin : sin axis = y) (hx : x = 0 ∨ x = 1) (hy : y = 0 ∨ y = 1) :
    shapeStick x y = (x, y) := by
  have hscaled : ((1 - stickDeadzone) / (1 - stickDeadzone) : ℝ) ^ 2 = 1 := by
    norm_num [stickDeadzone]
  have hkeep : ∀ z : ℝ, z = 0 ∨ z = 1 → (if |z| < epsilon then 0 else z) = z := by
    rintro z (rfl | rfl)
    · split_ifs <;> rfl
    · rw [if_neg (by norm_num [epsilon])]
  rw [shapeStick, if_neg (by rw [hunit]; norm_num [stickDeadzone])]
  simp only [hunit, min_self, hsnap, Option.getD_some, hscaled, one_mul, hcos, hsin, hkeep x hx,
    hkeep y hy]

theorem shapeStick_forward : shapeStick (1 : ℝ) 0 = (1, 0) := by
  refine shapeStick_unit 0 ?_ ?_ Real.cos_zero Real.sin_zero (.inr rfl) (.inl rfl)
  · change Real.sqrt _ = 1
    norm_num
  · have hangle : atan2 (0 : ℝ) 1 = 0 := Complex.arg_one
    have hpi : (0 : ℝ) ≤ stickSnapDeg * pi / 180 := by
      have := Real.pi_pos
      change 0 ≤ stickSnapDeg * Real.pi / 180
      norm_num [stickSnapDeg]
      positivity
    simp [snapAxes, hangle, hpi]

theorem shapeStick_left : shapeStick (0 : ℝ) 1 = (0, 1) := by
  refine shapeStick_unit (Real.pi / 2) ?_ ?_ Real.cos_pi_div_two Real.sin_pi_div_two
    (.inl rfl) (.inr rfl)
  · change Real.sqrt _ = 1
    norm_num
  · have hangle : atan2 (1 : ℝ) 0 = Real.pi / 2 := Complex.arg_I
    have hpi := Real.pi_pos
    have hfar : ¬|Real.pi / 2 - 0| ≤ stickSnapDeg * Real.pi / 180 := by
      rw [sub_zero, abs_of_pos (by positivity), stickSnapDeg]
      linarith
    have hnear : |Real.pi / 2 - Real.pi / 2| ≤ stickSnapDeg * Real.pi / 180 := by
      rw [sub_self, abs_zero, stickSnapDeg]
      positivity
    rw [snapAxes, hangle]
    change [0, Real.pi / 2, Real.pi, -Real.pi / 2, -Real.pi].find?
      (fun axis => |Real.pi / 2 - axis| ≤ stickSnapDeg * Real.pi / 180) = some (Real.pi / 2)
    rw [List.find?_cons_of_neg (by rwa [decide_eq_true_iff]),
      List.find?_cons_of_pos (by rwa [decide_eq_true_iff])]

/-- What a run of the cornering arbiter depends on. -/
structure Held (s : DriveArbiter String ℝ) (target : Command ℝ) (input : ℝ) (ticked : Option ℝ)
    (linear : JerkLimitedFollower 2 ℝ) : Prop where
  holder : s.holder = some "a"
  gear : s.gear = "walk"
  target : s.target = target
  lastInput : s.lastInput = some input
  lastTick : s.lastTick = ticked
  linear : s.linear = linear
  stoppingFast : s.stoppingFast = false

theorem held_drive {s : DriveArbiter String ℝ} {x y : ℝ} (now : ℝ) (hholder : s.holder = some "a")
    (hgear : s.gear = "walk") (hunit : hypot x y = 1) (hstick : shapeStick x y = (x, y)) :
    (s.drive corneringConfig "a" (.finite x) (.finite y) 0 now).1.Held
      (x * (11 / 960), y * (11 / 960), 0) now s.lastTick s.linear := by
  have hnamed : gearNamed corneringConfig s.gear = some ⟨11 / 960, 1⟩ := by
    rw [hgear]
    rfl
  have hlarge : ¬stickMaxInput < hypot x y := by
    rw [hunit]
    norm_num [stickMaxInput]
  have hdriven : (s.drive corneringConfig "a" (.finite x) (.finite y) 0 now).1 =
      s.accept ⟨11 / 960, 1⟩ (x, y) 0 now := by
    simp [DriveArbiter.drive, hholder, hlarge, hstick, hnamed]
  rw [hdriven]
  exact ⟨hholder, hgear, by simp [accept], rfl, rfl, rfl, rfl⟩

theorem Held.tick {s : DriveArbiter String ℝ} {target : Command ℝ} {input : ℝ}
    {ticked : Option ℝ} {linear : JerkLimitedFollower 2 ℝ} (h : s.Held target input ticked linear)
    (now : ℝ) (hfresh : now - input ≤ 1 / 5) :
    (s.tick corneringConfig now).1.Held target input (some now)
      (if 0 < s.tickDt now then linear.step ![target.1, target.2.1] (s.tickDt now)
        corneringConfig.limits.linear false else linear) := by
  have hwatched : s.watched corneringConfig now = { s with lastTick := some now } := by
    unfold watched watchdog
    rw [if_neg]
    have hexpired : DriveArbiter.inputExpired corneringConfig { s with lastTick := some now } now =
        false := by
      simp only [inputExpired, h.lastInput]
      exact decide_eq_false (not_lt.2 hfresh)
    simp [hexpired]
  obtain ⟨hgear, htarget, hlinear, -⟩ := tick_motion corneringConfig s now
  obtain ⟨hholder, hinput, hticked, hslow⟩ :=
    follow_settle_publish corneringConfig { s with lastTick := some now } (s.tickDt now)
  rw [hwatched] at htarget hlinear
  have htick : (s.tick corneringConfig now).1 = (({ s with lastTick := some now } :
      DriveArbiter String ℝ).follow corneringConfig (s.tickDt now)).settle.publish.1 := by
    rw [← hwatched]
    rfl
  rw [← htick] at hholder hinput hticked hslow
  refine ⟨hholder.trans h.holder, hgear.trans h.gear, htarget.trans h.target,
    hinput.trans h.lastInput, hticked, ?_, hslow h.stoppingFast⟩
  rw [hlinear, linearTarget]
  simp only [h.linear, h.target, h.stoppingFast]

def vec (x y : ℝ) : Fin 2 → ℝ := ![x, y]

theorem vec_add (x y z w : ℝ) : vec x y + vec z w = vec (x + z) (y + w) := by
  ext i
  fin_cases i <;> rfl

theorem vec_sub (x y z w : ℝ) : vec x y - vec z w = vec (x - z) (y - w) := by
  ext i
  fin_cases i <;> rfl

theorem smul_vec (c x y : ℝ) : c • vec x y = vec (c * x) (c * y) := by
  ext i
  fin_cases i <;> rfl

theorem vec_zero : vec 0 0 = 0 := by
  ext i
  fin_cases i <;> rfl

theorem norm_vec {x y n : ℝ} (hn : 0 ≤ n) (h : x * x + y * y = n * n) :
    JerkLimitedFollower.norm (vec x y) = n := by
  rw [norm_fin_two]
  change Real.sqrt (x * x + y * y) = n
  rw [h, Real.sqrt_mul_self hn]

theorem dot_vec (x y z w : ℝ) : dot (vec x y) (vec z w) = x * z + y * w := by
  rw [dot, ← Fin.sum_univ_def, Fin.sum_univ_two]
  rfl

theorem desired_cornering {v a x e : Fin 2 → ℝ} {nv na nx ne : ℝ}
    (hv : JerkLimitedFollower.norm v = nv) (ha : JerkLimitedFollower.norm a = na)
    (hx : JerkLimitedFollower.norm x = nx) (herror : x - v = e)
    (he : JerkLimitedFollower.norm e = ne)
    (hfaster : nv + 1 / 1000000000 < nx) (hfar : 1 / 200 ≤ ne - na * (1 / 10)) :
    peakAndJerk ⟨v, a⟩ x corneringConfig.limits.linear false = (1 / 10, 1) ∧
      desired ⟨v, a⟩ x (1 / 10) corneringConfig.limits.linear false = (1 / 10 / ne) • e := by
  have hpeak : peakAndJerk ⟨v, a⟩ x corneringConfig.limits.linear false = (1 / 10, 1) := by
    rw [peakAndJerk, if_neg Bool.false_ne_true, hv, hx, epsilon, if_pos hfaster]
    rfl
  refine ⟨hpeak, ?_⟩
  rw [desired, desiredNorm, hpeak, herror, he, ha]
  congr 2
  refine min_eq_left (Real.le_sqrt_of_sq_le ?_)
  have := le_max_left (ne - na * (1 / 10)) 0
  linarith

theorem step_forward : (reset : JerkLimitedFollower 2 ℝ).step (vec (11 / 960) 0) (1 / 10)
    corneringConfig.limits.linear false = ⟨vec (1 / 100) 0, vec (1 / 10) 0⟩ := by
  have hzero : (reset : JerkLimitedFollower 2 ℝ) = ⟨vec 0 0, vec 0 0⟩ := by
    rw [vec_zero]
    rfl
  have herror : vec (11 / 960) 0 - vec 0 0 = vec (11 / 960) 0 := by
    rw [vec_sub, sub_zero, sub_zero]
  have hrest : JerkLimitedFollower.norm (vec 0 0) = 0 := norm_vec le_rfl (by norm_num)
  have htarget : JerkLimitedFollower.norm (vec (11 / 960) 0) = 11 / 960 :=
    norm_vec (by norm_num) (by norm_num)
  have hturn : JerkLimitedFollower.norm (vec (1 / 10) 0) = 1 / 10 :=
    norm_vec (by norm_num) (by norm_num)
  obtain ⟨hpeak, hdesired⟩ := desired_cornering hrest hrest htarget herror htarget
    (by norm_num) (by norm_num)
  have haccel : newAccel ⟨vec 0 0, vec 0 0⟩ (vec (11 / 960) 0) (1 / 10)
      corneringConfig.limits.linear false = vec (1 / 10) 0 := by
    have hdelta : (1 / 10 / (11 / 960) : ℝ) • vec (11 / 960) 0 - vec 0 0 = vec (1 / 10) 0 := by
      rw [smul_vec, vec_sub]
      norm_num
    have hsum : vec 0 0 + vec (1 / 10) 0 = vec (1 / 10) 0 := by rw [vec_zero, zero_add]
    simp only [newAccel, hpeak, hdesired, hdelta, hturn, hsum, one_mul, lt_irrefl, if_false]
  have hvalue : vec 0 0 + (1 / 10 : ℝ) • vec (1 / 10) 0 = vec (1 / 100) 0 := by
    rw [smul_vec, vec_add]
    norm_num
  rw [hzero, step_eq, haccel, herror, hvalue, vec_sub, htarget, dot_vec, if_neg, if_neg]
  · norm_num
  · norm_num [snapError]

theorem step_left : 11 / 960 < JerkLimitedFollower.norm ((⟨vec (1 / 100) 0, vec (1 / 10) 0⟩ :
    JerkLimitedFollower 2 ℝ).step (vec 0 (11 / 960)) (1 / 10) corneringConfig.limits.linear
      false).value := by
  set s := Real.sqrt 146 with hs
  have hsq : s * s = 146 := Real.mul_self_sqrt (by norm_num)
  have hlow : 12 < s := Real.lt_sqrt_of_sq_lt (by norm_num)
  have hhigh : s < 13 := (Real.sqrt_lt' (by norm_num)).2 (by norm_num)
  have herror : vec 0 (11 / 960) - vec (1 / 100) 0 = vec (-(1 / 100)) (11 / 960) := by
    rw [vec_sub]
    norm_num
  have hv : JerkLimitedFollower.norm (vec (1 / 100) 0) = 1 / 100 :=
    norm_vec (by norm_num) (by norm_num)
  have ha : JerkLimitedFollower.norm (vec (1 / 10) 0) = 1 / 10 :=
    norm_vec (by norm_num) (by norm_num)
  have hx : JerkLimitedFollower.norm (vec 0 (11 / 960)) = 11 / 960 :=
    norm_vec (by norm_num) (by norm_num)
  have he : JerkLimitedFollower.norm (vec (-(1 / 100)) (11 / 960)) = 73 / 4800 :=
    norm_vec (by norm_num) (by norm_num)
  obtain ⟨hpeak, hdesired⟩ := desired_cornering hv ha hx herror he (by norm_num) (by norm_num)
  have hdelta : (1 / 10 / (73 / 4800) : ℝ) • vec (-(1 / 100)) (11 / 960) - vec (1 / 10) 0 =
      vec (-(121 / 730)) (55 / 730) := by
    rw [smul_vec, vec_sub]
    norm_num
  have hlength : JerkLimitedFollower.norm (vec (-(121 / 730)) (55 / 730)) = 11 * s / 730 := by
    refine norm_vec (by positivity) ?_
    linear_combination (-(121 / 532900)) * hsq
  obtain ⟨r, hr⟩ : ∃ r, r = s⁻¹ := ⟨_, rfl⟩
  have hrs : r * s = 1 := by rw [hr, inv_mul_cancel₀ (by linarith)]
  have hrr : r * r = 1 / 146 := by
    have : (r * s) * (r * s) = r * r * (s * s) := by ring
    rw [hrs, hsq] at this
    linarith
  have hr12 : r < 1 / 12 := by nlinarith
  have hr13 : 1 / 13 < r := by nlinarith
  have hturn : (fun i => vec (-(121 / 730)) (55 / 730) i * (1 * (1 / 10)) / (11 * s / 730)) =
      vec (-(11 / 10 * r)) (r / 2) := by
    rw [hr]
    ext i
    fin_cases i
    · change -(121 / 730) * (1 * (1 / 10)) / (11 * s / 730) = -(11 / 10 * s⁻¹)
      field_simp
      norm_num
    · change 55 / 730 * (1 * (1 / 10)) / (11 * s / 730) = s⁻¹ / 2
      field_simp
      norm_num
  have hsum : vec (1 / 10) 0 + vec (-(11 / 10 * r)) (r / 2) =
      vec (1 / 10 - 11 / 10 * r) (r / 2) := by
    rw [vec_add, zero_add, sub_eq_add_neg]
  have hshort : ¬1 / 10 < JerkLimitedFollower.norm (vec (1 / 10 - 11 / 10 * r) (r / 2)) := by
    rw [not_lt, norm_fin_two]
    refine Real.sqrt_le_iff.2 ⟨by norm_num, ?_⟩
    change (1 / 10 - 11 / 10 * r) * (1 / 10 - 11 / 10 * r) + r / 2 * (r / 2) ≤ _
    nlinarith
  have haccel : newAccel ⟨vec (1 / 100) 0, vec (1 / 10) 0⟩ (vec 0 (11 / 960)) (1 / 10)
      corneringConfig.limits.linear false = vec (1 / 10 - 11 / 10 * r) (r / 2) := by
    have hlong : 1 * (1 / 10) < 11 * s / 730 := by linarith
    simp only [newAccel, hpeak, hdesired, hdelta, hlength, if_pos hlong, hturn, hsum,
      if_neg hshort]
  have hvalue : vec (1 / 100) 0 + (1 / 10 : ℝ) • vec (1 / 10 - 11 / 10 * r) (r / 2) =
      vec (1 / 50 - 11 / 100 * r) (r / 20) := by
    rw [smul_vec, vec_add]
    congr 1 <;> ring
  rw [step_eq, haccel, herror, hvalue, vec_sub, he, dot_vec, if_neg, if_neg]
  · rw [norm_fin_two]
    refine (Real.lt_sqrt (by norm_num)).2 ?_
    change _ < (1 / 50 - 11 / 100 * r) * (1 / 50 - 11 / 100 * r) + r / 20 * (r / 20)
    nlinarith
  · nlinarith
  · norm_num [snapError]

omit [DecidableEq C] in
theorem tick_of_held {b : DriveArbiter C ℝ} {session : C} {now : ℝ}
    (h : (b.tick config now).1.holder = some session) :
    (b.tick config now).2 = some (b.tick config now).1.command := by
  have hpublish : ∀ b : DriveArbiter C ℝ, b.publish.1.holder = some session →
      b.publish.2 = some b.publish.1.command := by
    intro b hheld
    have hholder : b.holder = some session := by
      rw [← hheld]
      unfold publish
      split_ifs <;> rfl
    unfold publish
    rw [if_pos (by rw [hholder]; rfl), if_neg (by rw [hholder]; exact Bool.false_ne_true)]
  exact hpublish _ h

theorem tickDt_tenth {s : DriveArbiter String ℝ} {before now : ℝ} (h : s.lastTick = some before)
    (hnow : now - before = 1 / 10) : s.tickDt now = 1 / 10 := by
  rw [tickDt, h]
  simp only [hnow, maxTickDtS]
  norm_num

/-- A stick turned from forward to the left publishes more than the speed of the only gear. -/
theorem cornering_exceeds_gear : ∃ command,
    published corneringConfig (run (perform corneringConfig)
      (initial corneringConfig : DriveArbiter String ℝ) corneringEvents) (.tick (1 / 5)) =
        some command ∧
    ∀ entry ∈ corneringConfig.gears, entry.2.linear < hypot command.1 command.2.1 := by
  simp only [corneringEvents, run_cons, run_nil, perform]
  have hunit : hypot (1 : ℝ) 0 = 1 ∧ hypot (0 : ℝ) 1 = 1 := by
    constructor <;> exact (congrArg Real.sqrt (by norm_num)).trans Real.sqrt_one
  have hvec : (![1 * (11 / 960), 0 * (11 / 960)] : Fin 2 → ℝ) = vec (11 / 960) 0 ∧
      (![0 * (11 / 960), 1 * (11 / 960)] : Fin 2 → ℝ) = vec 0 (11 / 960) := by
    constructor <;> simp only [one_mul, zero_mul, vec]
  set acquired := ((initial corneringConfig : DriveArbiter String ℝ).acquire "a").1
  have hdriven := held_drive (s := acquired) 0 rfl rfl hunit.1 shapeStick_forward
  set driven := (acquired.drive corneringConfig "a" (.finite 1) (.finite 0) 0 0).1
  have hfirst := hdriven.tick 0 (by norm_num)
  have hdt : driven.tickDt 0 = 0 := by
    rw [tickDt, hdriven.lastTick]
    rfl
  rw [hdt, if_neg (lt_irrefl 0)] at hfirst
  set first := (driven.tick corneringConfig 0).1
  have hmoved := hfirst.tick (1 / 10) (by norm_num)
  rw [tickDt_tenth hfirst.lastTick (by norm_num), if_pos (by norm_num), hvec.1] at hmoved
  set moved := (first.tick corneringConfig (1 / 10)).1
  have hlinear : moved.linear = ⟨vec (1 / 100) 0, vec (1 / 10) 0⟩ := hmoved.linear.trans step_forward
  have hturned := held_drive (s := moved) (1 / 10) hmoved.holder hmoved.gear hunit.2 shapeStick_left
  set turned := (moved.drive corneringConfig "a" (.finite 0) (.finite 1) 0 (1 / 10)).1
  have hlast := hturned.tick (1 / 5) (by norm_num)
  rw [hmoved.lastTick, hlinear] at hturned
  rw [tickDt_tenth hturned.lastTick (by norm_num), if_pos (by norm_num), hvec.2, hlinear] at hlast
  have hpublished : (turned.tick corneringConfig (1 / 5)).2 =
      some (turned.tick corneringConfig (1 / 5)).1.command :=
    tick_of_held corneringConfig hlast.holder
  refine ⟨_, hpublished, fun entry hentry => ?_⟩
  rw [show entry = ("walk", ⟨11 / 960, 1⟩) from List.mem_singleton.1 hentry]
  have hfast := step_left
  rw [norm_fin_two] at hfast
  rw [command, hlast.linear]
  exact hfast

end Cornering

end DriveArbiter

end RobotDriver.OperatorWeb.Teleop
