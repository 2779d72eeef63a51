import RobotDriver.EnableManager.System

/-!
# The restart latch

`restart_required_` refuses every later enable, reset and mode switch. The only store that can
take it back, outside an activation, is the first one of `convergeAfterUnsafeModeSwitch(false)`.
-/

namespace RobotDriver.EnableManager

open LabelledRun

variable {cfg : Config}

theorem Access.restartRequired_apply {a : Access} {p : Protocol} (hp : p.restartRequired)
    (ha : a ≠ .storeRestartRequired false) : (a.apply p).restartRequired := by
  cases a with
  | storeRestartRequired required => cases required <;> simp_all [apply]
  | _ => exact hp

theorem TickStep.restartRequired {running stopped : Prop} {p q : Protocol}
    (h : TickStep cfg running stopped p q) (hp : p.restartRequired) : q.restartRequired := by
  cases h with
  | emergency offline => simp [hp]
  | _ => exact hp

theorem Controller.restartRequired_update (c : Controller) (sample : Sample) (now : ℤ)
    (h : c.protocol.restartRequired) : (c.update cfg sample now).protocol.restartRequired := by
  by_cases hactive : c.protocol.active
  · obtain ⟨q, hq, hupdate⟩ := update_protocol cfg c now sample hactive
    rw [hupdate]
    exact hq.restartRequired h
  · rw [update_of_inactive cfg c now sample (eq_false_of_ne_true hactive)]
    exact h

section Threads

variable (env : Environment) (p : Protocol)

/-- The position of the mode thread from which the latch is cleared. -/
def ModePc.convergesWithoutRestart : ModePc → Bool
  | .switching _ _ (.converge false _ .restart) => true
  | _ => false

theorem ModePc.storesRestart_iff (pc : ModePc) :
    pc.access cfg env p = .storeRestartRequired false ↔ pc.convergesWithoutRestart := by
  have hdrive : ∀ (mode : ControlMode) (drive : DrivePc),
      drive.access cfg mode ≠ .storeRestartRequired false := by
    intro mode drive
    cases drive with
    | store =>
      simp only [DrivePc.access]
      split <;> simp
    | _ => simp [DrivePc.access]
  cases pc with
  | switching target source sub =>
    cases sub with
    | leave before drive | enter drive =>
      simp [access, ExecPc.access, convergesWithoutRestart, hdrive]
    | await request =>
      have hswitch := SwitchReply.isSwitch_access request env.reply
      refine iff_of_false (fun h => ?_) (by simp [convergesWithoutRestart])
      rw [show env.reply.access request = .storeRestartRequired false from h] at hswitch
      exact absurd hswitch (by decide)
    | claimSwitch =>
      simp only [access, ExecPc.access, convergesWithoutRestart]
      split <;> simp
    | converge restart result sub =>
      cases restart <;> cases sub <;>
        simp [access, ExecPc.access, ConvergePc.access, convergesWithoutRestart]
    | _ => simp [access, ExecPc.access, convergesWithoutRestart]
  | _ => simp [access, convergesWithoutRestart]

end Threads

namespace System

/-- `on_activate` runs in this step. -/
def activates (s : System) : Label → Prop
  | .activate _ => s.protocol.active = false
  | _ => False

/-- The mode thread makes the first store of `convergeAfterUnsafeModeSwitch(false)`. -/
def convergesWithoutRestart (cfg : Config) (s : System) : Label → Prop
  | .mode _ => cfg.motionModeSwitching ∧ s.mode.convergesWithoutRestart
  | _ => False

def restartRequired (s : System) : Prop := s.protocol.restartRequired

theorem restartRequired_access {s : System} (h : s.restartRequired) {a : Access}
    {owns : Access → Bool} (ha : owns a) (howns : owns (.storeRestartRequired false) = false) :
    (s.world.access cfg a).protocol.restartRequired := by
  refine Access.restartRequired_apply h ?_
  rintro rfl
  exact absurd ha (ne_true_of_eq_false howns)

theorem restartRequired_step (s : System) (l : Label) (h : s.restartRequired)
    (hactivate : ¬s.activates l) :
    (s.step cfg l).restartRequired ↔ ¬s.convergesWithoutRestart cfg l := by
  cases l with
  | tick sample now =>
    exact iff_of_true (s.world.controller.restartRequired_update sample now h) not_false
  | enable env =>
    exact iff_of_true (restartRequired_access h (s.enable.owns_access cfg env _) rfl) not_false
  | disable env =>
    exact iff_of_true (restartRequired_access h (s.disable.owns_access cfg env _) rfl) not_false
  | reset env => exact iff_of_true (restartRequired_access h s.reset.owns_access rfl) not_false
  | worker env =>
    exact iff_of_true (restartRequired_access h (s.worker.owns_access cfg env _) rfl) not_false
  | fault => exact iff_of_true (restartRequired_access h s.fault.owns_access rfl) not_false
  | activate sample =>
    have hactive : s.protocol.active = true := by simpa [activates] using hactivate
    simp only [step, hactive, if_true]
    exact iff_of_true h not_false
  | deactivate =>
    refine iff_of_true ?_ not_false
    simp only [step]
    split <;> exact h
  | mode env =>
    by_cases hmode : cfg.motionModeSwitching
    · have hiff : s.mode.access cfg env s.protocol = _ ↔ _ := s.mode.storesRestart_iff env s.protocol
      have hstep : (s.step cfg (.mode env)).protocol =
          (s.mode.access cfg env s.protocol).apply s.protocol := by
        simp only [step, hmode, if_true]
        rfl
      unfold restartRequired
      rw [hstep, convergesWithoutRestart]
      by_cases hclear : s.mode.convergesWithoutRestart
      · rw [hiff.2 hclear]
        simp [Access.apply, hmode, hclear]
      · refine iff_of_true (Access.restartRequired_apply h fun heq => hclear (hiff.1 heq)) ?_
        exact fun hc => hclear hc.2
    · refine iff_of_true ?_ fun hc => hmode hc.1
      simp only [step, hmode]
      exact h

/-- Along a run the restart latch holds until the next activation if and only if no step is the
first store of `convergeAfterUnsafeModeSwitch(false)` made while the latch is set. -/
theorem restartLatched_iff (cfg : Config) (controllers : List ControllerState)
    (labels : List Label) :
    Latched (step cfg) restartRequired activates (initial controllers) labels ↔
      Along (step cfg) (fun s l => ¬(s.restartRequired ∧ s.convergesWithoutRestart cfg l))
        (initial controllers) labels := by
  rw [latched_iff_along]
  constructor
  · refine Along.mono fun s l h hclear => ?_
    have hactivate : ¬s.activates l := by
      cases l <;> first | exact hclear.2.elim | exact not_false
    exact (restartRequired_step s l hclear.1 hactivate).1 (h hclear.1 hactivate) hclear.2
  · refine Along.mono fun s l h hp hactivate => ?_
    exact (restartRequired_step s l hp hactivate).2 fun hclear => h ⟨hp, hclear⟩

section Offline

/-- The mode thread waits for CSP when the slave leaves OP. -/
def offlineDuringModeSwitch : List Label :=
  startUp ++ enableGroup ++ List.replicate 23 (.mode { target := .fjtReady }) ++
    [.tick (.uniform 0x0027 9 4) 7]

/-- A slave that leaves OP while a mode switch waits for CSP requires a restart, and the
convergence of the mode switch takes the requirement back. -/
theorem restartLatch_lost :
    ¬Latched (step chassis) restartRequired activates (initial chassisControllers)
      (offlineDuringModeSwitch ++ List.replicate 4 (.mode {})) := by
  intro h
  have hset : (runFrom chassis (initial chassisControllers) offlineDuringModeSwitch).restartRequired :=
    by unfold restartRequired; decide +kernel
  have hkept := h offlineDuringModeSwitch (List.replicate 4 (.mode {})) [] (List.append_nil _).symm
    (by simp [activates, List.replicate]) hset
  exact absurd hkept (by unfold restartRequired; decide +kernel)

end Offline

end System

end RobotDriver.EnableManager
