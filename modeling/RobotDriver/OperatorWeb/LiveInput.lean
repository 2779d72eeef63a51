import RobotDriver.OperatorWeb.ChassisEnvelope

/-!
# Whose input the chassis follows

A ghost record keeps the last accepted input: who sent it, when, and the target it asked for. As
long as the target is not zero it is the one of the record, the sender holds the lease, and the tick
that still follows it is within the command timeout.
-/

namespace RobotDriver.OperatorWeb.Teleop

open LabelledRun StickMath JerkLimitedFollower

variable {C : Type*} [DecidableEq C]

/-- An accepted input. -/
structure DriveInput (C : Type*) where
  session : C
  time : ℝ
  target : Command ℝ

/-- The arbiter and the last accepted input. -/
structure RecordedArbiter (C : Type*) where
  arbiter : DriveArbiter C ℝ
  input : Option (DriveInput C) := none

namespace DriveArbiter

variable (config : TeleopConfig ℝ) (a : DriveArbiter C ℝ)

/-- What an operation raises. -/
noncomputable def raised : ArbiterEvent C → Option TeleopError
  | .acquire session => (a.acquire session).2
  | .drive session x y yaw now => (a.drive config session x y yaw now).2
  | .setGear session gear => (a.setGear config session gear).2
  | _ => none

/-- How `_handle` treats a request of `session`: its call, unless something before it raises, and
`halt` after anything that raises. The calls `between` come from other threads. -/
noncomputable def handle (session : C) (call : Except TeleopError (Option (ArbiterEvent C)))
    (between : List (ArbiterEvent C)) : DriveArbiter C ℝ × Option TeleopError :=
  match call with
  | .error error => ((run (perform config) a between).halt session, some error)
  | .ok none => (a, none)
  | .ok (some event) =>
    match a.raised config event with
    | some error =>
      ((run (perform config) (a.perform config event) between).halt session, some error)
    | none => (a.perform config event, none)

end DriveArbiter

namespace RecordedArbiter

variable (config : TeleopConfig ℝ) (s : RecordedArbiter C)

noncomputable def record : ArbiterEvent C → Option (DriveInput C)
  | .drive session x y yaw now =>
    if s.arbiter.holder = some session ∧ (s.arbiter.drive config session x y yaw now).2 = none then
      some ⟨session, now, (s.arbiter.drive config session x y yaw now).1.target⟩
    else s.input
  | _ => s.input

noncomputable def step (event : ArbiterEvent C) : RecordedArbiter C where
  arbiter := s.arbiter.perform config event
  input := s.record config event

noncomputable def initial : RecordedArbiter C where
  arbiter := .initial config

/-- A translation or a rotation, within the gear. -/
def PureWithin (gear : Gear ℝ) (target : Command ℝ) : Prop :=
  target.2.2 = 0 ∧ hypot target.1 target.2.1 ≤ gear.linear ∨
    target.1 = 0 ∧ target.2.1 = 0 ∧ |target.2.2| ≤ gear.angular

/-- A target is the last accepted input of the session that holds the lease. -/
def Live : Prop :=
  s.arbiter.target ≠ 0 → ∃ input gear, s.input = some input ∧ input.target = s.arbiter.target ∧
    s.arbiter.holder = some input.session ∧ s.arbiter.lastInput = some input.time ∧
    DriveArbiter.gearNamed config s.arbiter.gear = some gear ∧ PureWithin gear s.arbiter.target

/-- What holds of every operation. -/
structure Guarded (event : ArbiterEvent C) : Prop where
  fresh : ∀ now, event = .tick now → (s.step config event).arbiter.target ≠ 0 →
    ∃ input, (s.step config event).input = some input ∧ now - input.time ≤ config.commandTimeout
  lease_end : (s.step config event).arbiter.holder ≠ s.arbiter.holder →
    (s.step config event).arbiter.target = 0
  reset : ∀ reason, event = .resetMotion reason → (s.step config event).arbiter.target = 0
  rejected_drive : ∀ session x y yaw now error, event = .drive session x y yaw now →
    s.arbiter.holder = some session → s.arbiter.raised config event = some error →
    (s.step config event).arbiter.target = 0
  gear_kept : (s.step config event).arbiter.gear ≠ s.arbiter.gear →
    s.arbiter.target = 0 ∧ s.arbiter.command = 0 ∧ (s.step config event).arbiter.target = 0 ∧
      (s.step config event).arbiter.command = 0

end RecordedArbiter

namespace DriveArbiter

variable {config : TeleopConfig ℝ} {a : DriveArbiter C ℝ}

/-- The target is gone, or nothing that it depends on has changed. -/
def Kept (a a' : DriveArbiter C ℝ) : Prop :=
  a'.target = 0 ∨ a'.target = a.target ∧ a'.holder = a.holder ∧ a'.lastInput = a.lastInput ∧
    a'.gear = a.gear

omit [DecidableEq C] in
theorem kept_refl (a : DriveArbiter C ℝ) : Kept a a := .inr ⟨rfl, rfl, rfl, rfl⟩

omit [DecidableEq C] in
theorem kept_tick (now : ℝ) : Kept a (a.tick config now).1 := by
  obtain ⟨hgear, htarget, -, -⟩ := tick_motion config a now
  obtain ⟨hholder, hinput, -, -⟩ :=
    follow_settle_publish config (a.watched config now) (a.tickDt now)
  have hholder' : (a.tick config now).1.holder = (a.watched config now).holder := hholder
  have hinput' : (a.tick config now).1.lastInput = (a.watched config now).lastInput := hinput
  have hwatched : (a.watched config now).target = 0 ∨ (a.watched config now).target = a.target ∧
      (a.watched config now).holder = a.holder ∧
      (a.watched config now).lastInput = a.lastInput := by
    unfold watched watchdog
    split_ifs
    · exact .inl rfl
    · exact .inr ⟨rfl, rfl, rfl⟩
  unfold Kept
  rw [hgear, htarget, hholder', hinput']
  exact hwatched.imp id fun h => ⟨h.1, h.2.1, h.2.2, rfl⟩

theorem kept_setGear (session : C) (gear : String) :
    Kept a (a.setGear config session gear).1 := by
  unfold setGear
  split_ifs with hheld hunknown hmoving
  · exact kept_refl a
  · exact kept_refl a
  · exact kept_refl a
  · have hrest : a.target = 0 ∧ a.command = 0 := by simpa [moving] using hmoving
    exact .inl hrest.1

theorem kept_perform (event : ArbiterEvent C)
    (hdrive : ∀ session x y yaw now, event ≠ .drive session x y yaw now) :
    Kept a (a.perform config event) := by
  cases event with
  | acquire session =>
    simp only [perform, acquire]
    split
    · split_ifs <;> exact kept_refl a
    · exact .inl rfl
  | release session =>
    simp only [perform, release]
    split_ifs
    · exact .inl rfl
    · exact kept_refl a
  | disconnect session =>
    simp only [perform, disconnect]
    split_ifs
    · exact .inl rfl
    · exact kept_refl a
  | softStop reason => exact .inl rfl
  | drive session x y yaw now => exact absurd rfl (hdrive session x y yaw now)
  | halt session =>
    simp only [perform, halt]
    split_ifs
    · exact .inl rfl
    · exact kept_refl a
  | setGear session gear => exact kept_setGear session gear
  | resetMotion reason => exact .inl rfl
  | tick now => exact kept_tick now

theorem drive_cases {gear : Gear ℝ} (hgear : gearNamed config a.gear = some gear) (session : C)
    (x y : Double ℝ) (yaw : ℤ) (now : ℝ) :
    (a.holder ≠ some session ∧ a.drive config session x y yaw now = (a, some leaseRequired)) ∨
    (a.holder = some session ∧ ∃ reason error,
      a.drive config session x y yaw now = (a.zeroTarget reason, some error)) ∨
    (a.holder = some session ∧ ∃ x' y' : ℝ, yaw ∈ ([-1, 0, 1] : List ℤ) ∧
      ((shapeStick x' y').1 = 0 ∧ (shapeStick x' y').2 = 0 ∨ yaw = 0) ∧
      a.drive config session x y yaw now = (a.accept gear (shapeStick x' y') yaw now, none)) := by
  unfold drive
  by_cases hholder : a.holder = some session
  · rw [if_neg (not_not.2 hholder)]
    right
    split
    · rename_i x' y'
      by_cases hrange : stickMaxInput < hypot x' y'
      · rw [if_pos hrange]
        exact .inl ⟨hholder, _, _, rfl⟩
      by_cases hyaw : yaw ∈ ([-1, 0, 1] : List ℤ)
      · rw [if_neg hrange, if_neg (not_not.2 hyaw)]
        dsimp only
        split_ifs with hmixed
        · exact .inl ⟨hholder, _, _, rfl⟩
        · refine .inr ⟨hholder, x', y', hyaw, ?_, ?_⟩
          · by_contra hboth
            push Not at hboth
            exact hmixed ⟨not_and_or.1 fun h => hboth.1 h.1 h.2, hboth.2⟩
          · rw [hgear]
      · rw [if_neg hrange, if_pos hyaw]
        exact .inl ⟨hholder, _, _, rfl⟩
    · exact .inl ⟨hholder, _, _, rfl⟩
  · rw [if_pos hholder]
    exact .inl ⟨hholder, rfl⟩

theorem selected_perform (event : ArbiterEvent C)
    (hselected : ∃ gear, gearNamed config a.gear = some gear) :
    ∃ gear, gearNamed config (a.perform config event).gear = some gear := by
  by_cases htick : ∃ now, event = .tick now
  · obtain ⟨now, rfl⟩ := htick
    have hgear := (tick_motion config a now).1
    simp only [perform, hgear]
    exact hselected
  by_cases hreset : ∃ reason, event = .resetMotion reason
  · obtain ⟨reason, rfl⟩ := hreset
    exact hselected
  push Not at htick hreset
  have heffect := effect_perform config a event htick hreset
  generalize a.perform config event = a' at heffect
  cases heffect with
  | target gear linear angular target => rwa [gear]
  | gear known target command => exact ⟨_, known⟩

end DriveArbiter

namespace RecordedArbiter

open Teleop.DriveArbiter

variable {config : TeleopConfig ℝ} {s : RecordedArbiter C}

omit [DecidableEq C] in
theorem pureWithin_accept {gear : Gear ℝ} (hgear : gearNamed config s.arbiter.gear = some gear)
    {x y : ℝ} {yaw : ℤ} (hyaw : yaw ∈ ([-1, 0, 1] : List ℤ))
    (hpure : (shapeStick x y).1 = 0 ∧ (shapeStick x y).2 = 0 ∨ yaw = 0) :
    PureWithin gear ((shapeStick x y).1 * gear.linear, (shapeStick x y).2 * gear.linear,
      (yaw : ℝ) * gear.angular) := by
  have haccepted : Accepted config s.arbiter ((shapeStick x y).1 * gear.linear,
      (shapeStick x y).2 * gear.linear, (yaw : ℝ) * gear.angular) :=
    ⟨gear, x, y, yaw, hgear, hyaw, rfl⟩
  obtain ⟨hlinear, hangular⟩ := haccepted.norm_le hgear
  rw [← norm_eq, norm_fin_two] at hlinear
  rw [← norm_eq, norm_fin_one] at hangular
  rcases hpure with ⟨hforward, hleft⟩ | rfl
  · refine .inr ⟨?_, ?_, hangular⟩
    · dsimp only
      rw [hforward, zero_mul]
    · dsimp only
      rw [hleft, zero_mul]
  · refine .inl ⟨?_, hlinear⟩
    dsimp only
    rw [Int.cast_zero, zero_mul]

theorem Live.step (h : s.Live config)
    (hselected : ∃ gear, gearNamed config s.arbiter.gear = some gear) (event : ArbiterEvent C) :
    (s.step config event).Live config := by
  by_cases hdrive : ∃ session x y yaw now, event = .drive session x y yaw now
  · obtain ⟨session, x, y, yaw, now, rfl⟩ := hdrive
    obtain ⟨gear, hgear⟩ := hselected
    intro htarget
    rcases drive_cases hgear session x y yaw now with ⟨hother, heq⟩ |
      ⟨hholder, reason, error, heq⟩ | ⟨hholder, x', y', hyaw, hpure, heq⟩
    · have harbiter : (s.step config (.drive session x y yaw now)).arbiter = s.arbiter :=
        congrArg Prod.fst heq
      have hinput : (s.step config (.drive session x y yaw now)).input = s.input :=
        if_neg fun hheld => hother hheld.1
      rw [harbiter] at htarget ⊢
      rw [hinput]
      exact h htarget
    · exact absurd (congrArg (fun result => result.1.target) heq) htarget
    · have harbiter : (s.step config (.drive session x y yaw now)).arbiter =
          s.arbiter.accept gear (shapeStick x' y') yaw now := congrArg Prod.fst heq
      have hinput : (s.step config (.drive session x y yaw now)).input = some ⟨session, now,
          (s.arbiter.drive config session x y yaw now).1.target⟩ :=
        if_pos ⟨hholder, congrArg Prod.snd heq⟩
      rw [harbiter, hinput, heq]
      exact ⟨_, gear, rfl, rfl, hholder, rfl, hgear, pureWithin_accept hgear hyaw hpure⟩
  · push Not at hdrive
    have hkept : Kept s.arbiter (s.arbiter.perform config event) := kept_perform event hdrive
    have hinput : (s.step config event).input = s.input := by
      cases event with
      | drive session x y yaw now => exact absurd rfl (hdrive session x y yaw now)
      | _ => rfl
    intro htarget
    have harbiter : (s.step config event).arbiter = s.arbiter.perform config event := rfl
    rw [harbiter] at htarget ⊢
    rcases hkept with hzero | ⟨hsame, hholder, hlast, hgear⟩
    · exact absurd hzero htarget
    · rw [hinput, hsame, hholder, hlast, hgear]
      rw [hsame] at htarget
      exact h htarget

omit [DecidableEq C] in
theorem watched_fresh {now : ℝ} (h : (s.arbiter.watched config now).target ≠ 0)
    (hheld : s.arbiter.holder.isSome = true) {time : ℝ} (hlast : s.arbiter.lastInput = some time) :
    now - time ≤ config.commandTimeout := by
  unfold watched watchdog at h
  split_ifs at h with hexpired
  · exact absurd rfl h
  · by_contra hold
    refine hexpired ?_
    have htarget : s.arbiter.target ≠ 0 := h
    simp only [hheld, inputExpired, hlast, Bool.and_eq_true, decide_eq_true_eq, true_and]
    exact ⟨htarget, not_le.1 hold⟩

theorem Live.fresh (h : s.Live config) (now : ℝ)
    (htarget : (s.step config (.tick now)).arbiter.target ≠ 0) :
    ∃ input, (s.step config (.tick now)).input = some input ∧
      now - input.time ≤ config.commandTimeout := by
  have hmotion : (s.step config (.tick now)).arbiter.target =
      (s.arbiter.watched config now).target := (tick_motion config s.arbiter now).2.1
  rw [hmotion] at htarget
  have hbefore : s.arbiter.target ≠ 0 := by
    obtain ⟨-, -, -, hsame | hzero⟩ := watched_cases config s.arbiter now
    · rwa [hsame] at htarget
    · exact absurd hzero htarget
  obtain ⟨input, gear, hinput, -, hholder, hlast, -⟩ := h hbefore
  exact ⟨input, hinput, watched_fresh htarget (by rw [hholder]; rfl) hlast⟩

theorem holder_perform (a : DriveArbiter C ℝ) (event : ArbiterEvent C)
    (hselected : ∃ gear, gearNamed config a.gear = some gear)
    (hchange : (a.perform config event).holder ≠ a.holder) :
    (a.perform config event).target = 0 := by
  by_cases hdrive : ∃ session x y yaw now, event = .drive session x y yaw now
  · obtain ⟨session, x, y, yaw, now, rfl⟩ := hdrive
    obtain ⟨gear, hgear⟩ := hselected
    refine absurd ?_ hchange
    have hfirst : a.perform config (.drive session x y yaw now) =
        (a.drive config session x y yaw now).1 := rfl
    rcases drive_cases hgear session x y yaw now with ⟨-, heq⟩ | ⟨-, reason, error, heq⟩ |
      ⟨-, x', y', -, -, heq⟩
    · rw [hfirst, heq]
    · exact congrArg (fun result => result.1.holder) heq
    · exact congrArg (fun result => result.1.holder) heq
  · push Not at hdrive
    have hkept : Kept a (a.perform config event) := kept_perform event hdrive
    rcases hkept with hzero | hsame
    · exact hzero
    · exact absurd hsame.2.1 hchange

theorem gear_perform (a : DriveArbiter C ℝ) (event : ArbiterEvent C)
    (hchange : (a.perform config event).gear ≠ a.gear) : a.target = 0 ∧ a.command = 0 ∧
      (a.perform config event).target = 0 ∧ (a.perform config event).command = 0 := by
  by_cases htick : ∃ now, event = .tick now
  · obtain ⟨now, rfl⟩ := htick
    exact absurd (tick_motion config a now).1 hchange
  by_cases hreset : ∃ reason, event = .resetMotion reason
  · obtain ⟨reason, rfl⟩ := hreset
    exact absurd rfl hchange
  push Not at htick hreset
  have heffect := effect_perform config a event htick hreset
  generalize a.perform config event = a' at heffect hchange
  cases heffect with
  | target gear linear angular target => exact absurd gear hchange
  | gear known target command => exact ⟨target, command, target, command⟩

theorem guarded (h : s.Live config)
    (hselected : ∃ gear, gearNamed config s.arbiter.gear = some gear) (event : ArbiterEvent C) :
    s.Guarded config event where
  fresh now hevent htarget := by
    subst hevent
    exact h.fresh now htarget
  lease_end := holder_perform s.arbiter event hselected
  reset reason hevent := by
    subst hevent
    rfl
  rejected_drive session x y yaw now error hevent hholder herror := by
    subst hevent
    obtain ⟨gear, hgear⟩ := hselected
    have hraised : (s.arbiter.drive config session x y yaw now).2 = some error := herror
    rcases drive_cases hgear session x y yaw now with ⟨hother, -⟩ | ⟨-, reason, other, heq⟩ |
      ⟨-, x', y', -, -, heq⟩
    · exact absurd hholder hother
    · exact congrArg (fun result => result.1.target) heq
    · rw [heq] at hraised
      cases hraised
  gear_kept := gear_perform s.arbiter event

/-- The invariant of all runs. -/
structure Followed (config : TeleopConfig ℝ) (s : RecordedArbiter C) : Prop where
  live : s.Live config
  selected : ∃ gear, gearNamed config s.arbiter.gear = some gear

theorem Followed.step (h : s.Followed config) (event : ArbiterEvent C) :
    (s.step config event).Followed config :=
  ⟨h.live.step h.selected event, selected_perform event h.selected⟩

omit [DecidableEq C] in
theorem followed_initial (config : TeleopConfig ℝ) :
    (initial config : RecordedArbiter C).Followed config := by
  obtain ⟨gear, henveloped⟩ : ∃ gear, (DriveArbiter.initial config :
      DriveArbiter C ℝ).Enveloped config gear := enveloped_initial
  exact ⟨fun htarget => absurd rfl htarget, gear, henveloped.selected⟩

theorem run_arbiter (s : RecordedArbiter C) (events : List (ArbiterEvent C)) :
    (run (RecordedArbiter.step config) s events).arbiter =
      run (DriveArbiter.perform config) s.arbiter events := by
  induction events generalizing s with
  | nil => rfl
  | cons event rest ih => exact ih (s.step config event)

theorem Live.halt (h : s.Live config) (session : C)
    (htarget : (s.arbiter.halt session).target ≠ 0) :
    ∃ other, other ≠ session ∧ (s.arbiter.halt session).holder = some other := by
  unfold DriveArbiter.halt at htarget ⊢
  split_ifs at htarget ⊢ with hheld
  · exact absurd rfl htarget
  · obtain ⟨input, gear, -, -, hholder, -⟩ := h htarget
    exact ⟨input.session, fun hsame => hheld (hsame ▸ hholder), hholder⟩

theorem Followed.handle_rejected (h : s.Followed config) (session : C)
    (call : Except TeleopError (Option (ArbiterEvent C))) (between : List (ArbiterEvent C))
    (error : TeleopError) (herror : (s.arbiter.handle config session call between).2 = some error)
    (htarget : (s.arbiter.handle config session call between).1.target ≠ 0) :
    ∃ other, other ≠ session ∧
      (s.arbiter.handle config session call between).1.holder = some other := by
  have hhalt : ∀ t : RecordedArbiter C, t.Followed config →
      ((run (perform config) t.arbiter between).halt session).target ≠ 0 →
      ∃ other, other ≠ session ∧
        ((run (perform config) t.arbiter between).halt session).holder = some other := by
    intro t ht
    have hrun : (run (RecordedArbiter.step config) t between).Followed config :=
      invariant_all (P := Followed config) (fun t event ht => ht.step event) ht between
    rw [← run_arbiter]
    exact hrun.live.halt session
  unfold DriveArbiter.handle at herror htarget ⊢
  cases call with
  | error rejection => exact hhalt s h htarget
  | ok called =>
    cases called with
    | none => cases herror
    | some event =>
      dsimp only at herror htarget ⊢
      cases hraised : s.arbiter.raised config event with
      | none =>
        rw [hraised] at herror
        cases herror
      | some raised =>
        rw [hraised] at htarget
        exact hhalt (s.step config event) (h.step event) htarget

variable (config) in
/-- Only the lease holder moves the chassis, and only with live input. -/
theorem only_holder_moves (events : List (ArbiterEvent C)) :
    (run (RecordedArbiter.step config) (initial config) events).Live config ∧
      Along (RecordedArbiter.step config) (Guarded config) (initial config) events ∧
      ∀ session call between error,
        ((run (RecordedArbiter.step config) (initial config) events).arbiter.handle config session
          call between).2 = some error →
        ((run (RecordedArbiter.step config) (initial config) events).arbiter.handle config session
          call between).1.target ≠ 0 →
        ∃ other, other ≠ session ∧ ((run (RecordedArbiter.step config) (initial config)
          events).arbiter.handle config session call between).1.holder = some other := by
  have hstep : ∀ (s : RecordedArbiter C) event, s.Followed config →
      (s.step config event).Followed config := fun s event hs => hs.step event
  have hrun := invariant_all hstep (followed_initial config) events
  refine ⟨hrun.live, ?_, hrun.handle_rejected⟩
  exact along_of_invariant hstep (fun s event hs => guarded hs.live hs.selected event)
    (followed_initial config) events

end RecordedArbiter

end RobotDriver.OperatorWeb.Teleop
