import RobotDriver.EnableManager.SwitchPlan
import RobotDriver.EnableManager.System

/-!
# Managed controllers at rest

`jtc_deactivation_required_` is cleared by the call that has seen every managed controller
inactive, after it has released the switch. The controllers then are at rest as long as the flag is
down, if no other switch starts one of them in between.
-/

namespace RobotDriver.EnableManager

variable {cfg : Config} {states : List ControllerState}

namespace Config

/-- No managed controller is active. -/
def Rests (cfg : Config) (states : List ControllerState) : Prop :=
  ∀ name ∈ cfg.managedControllers, (findController states name).any (·.state = "active") = false

instance (cfg : Config) (states : List ControllerState) : Decidable (cfg.Rests states) :=
  inferInstanceAs (Decidable (∀ name ∈ cfg.managedControllers, _ = false))

theorem Rests.apply {request : SwitchRequest} (h : cfg.Rests states)
    (hrequest : request.activateControllers = []) : cfg.Rests (request.apply states) := by
  intro name hmanaged
  have hbefore := h name hmanaged
  rw [findController_apply, Option.any_map]
  cases hfind : findController states name with
  | none => rfl
  | some controller =>
    rw [hfind] at hbefore
    simp only [Option.any_some, SwitchRequest.applyTo, hrequest, List.not_mem_nil,
      if_false] at hbefore ⊢
    split_ifs
    · rfl
    · exact hbefore

theorem rests_of_enableOnly (h : cfg.enableOnly = true) : cfg.Rests states := by
  intro name hmanaged
  rw [of_decide_eq_true h] at hmanaged
  cases hmanaged

theorem controllerRunsInMode_disabled (name : String) :
    cfg.controllerRunsInMode name .disabled = false :=
  if_pos rfl

theorem rests_of_matches (h : cfg.controllerStateMatches states .disabled = true) :
    cfg.Rests states := by
  intro name hmanaged
  obtain ⟨controller, hfind, hstate⟩ := controllerStateMatches_iff.1 h name hmanaged
  rw [controllerRunsInMode_disabled, if_neg Bool.false_ne_true] at hstate
  rw [hfind, Option.any_some, hstate]
  rfl

theorem activateControllers_of_disabled {request : SwitchRequest}
    (h : cfg.buildControllerSwitchRequest states .disabled = some request) :
    request.activateControllers = [] := by
  rw [buildControllerSwitchRequest_eq] at h
  split_ifs at h
  obtain rfl := Option.some.inj h
  refine List.filter_eq_nil_iff.2 fun name _ => ?_
  rw [starts, controllerRunsInMode_disabled, Bool.false_and]
  exact Bool.false_ne_true

end Config

section Positions

/-- The switch has succeeded, and its success is not recorded yet. -/
def SwitchPc.confirmed : SwitchPc → Bool
  | .release .success => true
  | .returned .success => true
  | _ => false

/-- The position of `switchJtc(false)`. -/
def OrderedPc.disabling : OrderedPc → Option SwitchPc
  | .switching pc => some pc
  | _ => none

def WorkerPc.disabling : WorkerPc → Option SwitchPc
  | .switching pc => some pc
  | .ordered pc => pc.disabling
  | _ => none

def DisablePc.disabling : DisablePc → Option SwitchPc
  | .ordered _ pc => pc.disabling
  | _ => none

/-- The access starts a controller. -/
def Access.activates : Access → Bool
  | .switchControllers request => request.activateControllers ≠ []
  | _ => false

variable (cfg) in
/-- `switchJtc(false)` starts no controller, and its success has seen them at rest. -/
structure SwitchPc.Disables (states : List ControllerState) (pc : SwitchPc) : Prop where
  plan : ∀ request, pc = .await request → request.activateControllers = []
  rests : pc.confirmed → cfg.Rests states

variable {env : Environment} {w : World} {a : Access} {pc : SwitchPc}

theorem Config.Rests.access (h : cfg.Rests states) (ha : a.activates = false) :
    cfg.Rests (a.applyControllers states) := by
  cases a with
  | switchControllers request =>
    refine Rests.apply h ?_
    simpa only [Access.activates, ne_eq, decide_not, Bool.not_eq_false', decide_eq_true_eq] using ha
  | _ => exact h

theorem SwitchPc.Disables.access (h : pc.Disables cfg states)
    (ha : a.activates = true → pc.confirmed = false) :
    pc.Disables cfg (a.applyControllers states) where
  plan := h.plan
  rests hconfirmed := by
    refine (h.rests hconfirmed).access (eq_false_of_ne_true fun hactivates => ?_)
    exact absurd (hconfirmed.symm.trans (ha hactivates)) (by decide)

theorem SwitchPc.disables_release (result : SwitchResult)
    (h : result = .success → cfg.Rests states) : (SwitchPc.release result).Disables cfg states where
  plan := nofun
  rests hconfirmed := by
    cases result with
    | success => exact h rfl
    | failed => cases hconfirmed
    | ambiguous => cases hconfirmed

theorem SwitchPc.disables_plan : (plan cfg .disabled states).Disables cfg states := by
  unfold plan
  cases hrequest : cfg.buildControllerSwitchRequest states .disabled with
  | none => exact disables_release .failed nofun
  | some request =>
    dsimp only
    by_cases hnothing : request.activateControllers = [] ∧ request.deactivateControllers = []
    · rw [if_pos hnothing]
      refine disables_release _ fun hsuccess => ?_
      by_contra hmoves
      rw [if_neg fun hmatches => hmoves (Config.rests_of_matches hmatches)] at hsuccess
      cases hsuccess
    · rw [if_neg hnothing]
      refine ⟨fun planned hplanned => ?_, nofun⟩
      obtain rfl := SwitchPc.await.inj hplanned
      exact Config.activateControllers_of_disabled hrequest

theorem SwitchPc.Disables.next (h : pc.Disables cfg w.controllers) :
    (pc.next cfg .disabled env w).Disables cfg
      ((pc.access cfg env w.protocol).applyControllers w.controllers) := by
  cases pc with
  | claim =>
    have hkept : ((SwitchPc.claim).access cfg env w.protocol).applyControllers w.controllers =
        w.controllers := by
      simp only [SwitchPc.access]
      split <;> rfl
    rw [hkept]
    simp only [SwitchPc.next]
    split_ifs with honly
    · exact ⟨nofun, fun _ => Config.rests_of_enableOnly honly⟩
    · exact ⟨nofun, nofun⟩
    · exact ⟨nofun, nofun⟩
  | checkService =>
    simp only [SwitchPc.next]
    split_ifs <;> exact ⟨nofun, nofun⟩
  | queryBefore =>
    simp only [SwitchPc.next]
    split_ifs
    · exact disables_plan
    · exact disables_release .ambiguous nofun
  | await request =>
    simp only [SwitchPc.next]
    cases env.reply with
    | accepted => exact ⟨nofun, nofun⟩
    | rejected => exact disables_release .failed nofun
    | timedOut => exact disables_release .ambiguous nofun
  | queryAfter =>
    refine disables_release _ fun hsuccess => ?_
    by_contra hmoves
    rw [if_neg] at hsuccess
    · cases hsuccess
    · rw [Bool.and_eq_true]
      exact fun hmatches => hmoves (Config.rests_of_matches hmatches.2)
  | release result =>
    refine ⟨nofun, fun hconfirmed => h.rests ?_⟩
    cases result <;> exact hconfirmed
  | returned result => exact h

theorem SwitchPc.disables_claim : (SwitchPc.claim).Disables cfg states := ⟨nofun, nofun⟩

variable (cfg states) in
/-- The access starts no controller, and clears the flag only with the controllers at rest. -/
structure Access.Records (a : Access) : Prop where
  starts : a.activates = false
  clears : a = .storeDeactivationRequired false → cfg.Rests states

theorem SwitchPc.Disables.records (h : pc.Disables cfg states) (p : Protocol) :
    (pc.access cfg env p).Records cfg states := by
  have hswitch := pc.isSwitch_access cfg env p
  refine ⟨?_, fun hclears => ?_⟩
  · cases pc with
    | await request =>
      have hplan : (Access.switchControllers request).activates = false := by
        simp only [Access.activates, h.plan request rfl, ne_eq, not_true_eq_false, decide_false]
      simp only [SwitchPc.access]
      rcases env.reply with _ | _ | (_ | _)
      · exact hplan
      · rfl
      · rfl
      · exact hplan
    | claim =>
      simp only [SwitchPc.access]
      split <;> rfl
    | _ => rfl
  · rw [hclears] at hswitch
    cases hswitch

theorem Access.Records.never (h : a.Records cfg states) {P : Prop} (ha : a.activates = true) : P :=
  absurd ha (ne_true_of_eq_false h.starts)

variable (env) in
theorem OrderedPc.records_access {pc : OrderedPc}
    (h : ∀ sub ∈ pc.disabling, sub.Disables cfg states) (p : Protocol) :
    (pc.access cfg env p).Records cfg states := by
  cases pc with
  | switching sub =>
    rcases sub.running_or_returned with hrunning | ⟨result, rfl⟩
    · rw [access_switching hrunning]
      exact (h sub rfl).records p
    · cases result with
      | success => exact ⟨rfl, fun _ => (h _ rfl).rests rfl⟩
      | _ => exact ⟨rfl, nofun⟩
  | _ => exact ⟨rfl, nofun⟩

variable (env) in
theorem OrderedPc.disables_next {pc : OrderedPc} (seen : Phase)
    (h : ∀ sub ∈ pc.disabling, sub.Disables cfg w.controllers) :
    ∀ sub ∈ (pc.next cfg seen env w).disabling,
      sub.Disables cfg ((pc.access cfg env w.protocol).applyControllers w.controllers) := by
  cases pc with
  | clearFailed =>
    simp only [next]
    split <;> exact nofun
  | storePhase =>
    rintro _ ⟨⟩
    exact SwitchPc.disables_claim
  | switching sub =>
    rcases sub.running_or_returned with hrunning | ⟨result, rfl⟩
    · rw [next_switching hrunning, access_switching hrunning]
      rintro _ ⟨⟩
      exact (h sub rfl).next
    · cases result <;> exact nofun
  | _ => exact nofun

variable (env) in
theorem WorkerPc.records_access {pc : WorkerPc}
    (h : ∀ sub ∈ pc.disabling, sub.Disables cfg states) (p : Protocol) :
    (pc.access cfg env p).Records cfg states := by
  cases pc with
  | ordered sub => exact OrderedPc.records_access env h p
  | switching sub =>
    rcases sub.running_or_returned with hrunning | ⟨result, rfl⟩
    · rw [access_switching hrunning]
      exact (h sub rfl).records p
    · cases result with
      | success => exact ⟨rfl, fun _ => (h _ rfl).rests rfl⟩
      | _ => exact ⟨rfl, nofun⟩
  | _ => exact ⟨rfl, nofun⟩

theorem WorkerPc.disables_next {pc : WorkerPc}
    (h : ∀ sub ∈ pc.disabling, sub.Disables cfg w.controllers) :
    ∀ sub ∈ (pc.next cfg env w).disabling,
      sub.Disables cfg ((pc.access cfg env w.protocol).applyControllers w.controllers) := by
  cases pc with
  | ordered sub =>
    have hnext := OrderedPc.disables_next env .enabled h
    cases sub <;> exact hnext
  | switching sub =>
    rcases sub.running_or_returned with hrunning | ⟨result, rfl⟩
    · rw [next_switching hrunning, access_switching hrunning]
      rintro _ ⟨⟩
      exact (h sub rfl).next
    · exact nofun
  | loadRequired =>
    simp only [next]
    split
    · rintro _ ⟨⟩
      exact SwitchPc.disables_claim
    · exact nofun
  | dropFault | takeFault | pendFault => exact nofun
  | _ =>
    simp only [next]
    split <;> exact nofun

variable (env) in
theorem DisablePc.records_access {pc : DisablePc}
    (h : ∀ sub ∈ pc.disabling, sub.Disables cfg states) (p : Protocol) :
    (pc.access cfg env p).Records cfg states := by
  cases pc with
  | ordered seen sub => exact OrderedPc.records_access env h p
  | _ => exact ⟨rfl, nofun⟩

theorem DisablePc.disables_next {pc : DisablePc}
    (h : ∀ sub ∈ pc.disabling, sub.Disables cfg w.controllers) :
    ∀ sub ∈ (pc.next cfg env w).disabling,
      sub.Disables cfg ((pc.access cfg env w.protocol).applyControllers w.controllers) := by
  have hafter : ∀ owner seen states, ∀ sub ∈ (afterOwner owner seen).disabling,
      sub.Disables cfg states := by
    intro owner seen states
    unfold afterOwner
    split <;> exact nofun
  cases pc with
  | ordered seen sub =>
    have hnext := OrderedPc.disables_next env seen h
    cases sub <;> exact hnext
  | loadOwner seen =>
    simp only [next]
    split_ifs
    · exact nofun
    · exact hafter _ _ _
  | reloadPhase owner =>
    simp only [next]
    split_ifs
    · exact nofun
    · exact nofun
    · exact hafter _ _ _
  | requestAbort | reloadOwner | forceRestart | forceMode | forceRequired | forceEmergency =>
    exact nofun
  | forceRaise => exact nofun
  | _ =>
    simp only [next]
    split_ifs <;> exact nofun

end Positions

namespace System

/-- A thread has switched the controllers off and has not recorded it yet. -/
def confirmed (s : System) : Bool :=
  s.worker.disabling.any SwitchPc.confirmed || s.disable.disabling.any SwitchPc.confirmed

/-- The step clears `jtc_deactivation_required_` without a look at the controllers. -/
def forgets (s : System) : Label → Bool
  | .enable _ => s.enable = .switching (.returned .failed)
  | .activate _ => !s.protocol.active
  | _ => false

/-- Controllers are started only while the flag is set and no thread is about to clear it, and a
step that does not look at them finds them at rest. -/
def restGuard (cfg : Config) (s : System) (l : Label) : Prop :=
  (∀ a ∈ s.nextAccess cfg l, a.activates = true →
      s.protocol.jtcDeactivationRequired = true ∧ s.confirmed = false) ∧
    (s.forgets l = true → cfg.Rests s.world.controllers)

instance (s : System) (l : Label) : Decidable (s.restGuard cfg l) := instDecidableAnd

structure RestInv (cfg : Config) (s : System) : Prop where
  recorded : s.protocol.jtcDeactivationRequired = false → cfg.Rests s.world.controllers
  worker : ∀ sub ∈ s.worker.disabling, sub.Disables cfg s.world.controllers
  disable : ∀ sub ∈ s.disable.disabling, sub.Disables cfg s.world.controllers

variable {s : System} {l : Label} {a : Access}

theorem confirmed_eq_false (h : s.confirmed = false) :
    (∀ sub ∈ s.worker.disabling, sub.confirmed = false) ∧
      ∀ sub ∈ s.disable.disabling, sub.confirmed = false := by
  simpa only [confirmed, Bool.or_eq_false_iff, Option.any_eq_false, Option.mem_def] using h

theorem RestInv.rests_access (h : s.RestInv cfg)
    (hstarts : a.activates = true → s.protocol.jtcDeactivationRequired = true)
    (hclears : a = .storeDeactivationRequired false → cfg.Rests s.world.controllers)
    (hcleared : (a.apply s.protocol).jtcDeactivationRequired = false) :
    cfg.Rests (a.applyControllers s.world.controllers) := by
  cases a with
  | storeDeactivationRequired required =>
    obtain rfl : required = false := hcleared
    exact hclears rfl
  | switchControllers request =>
    refine (h.recorded hcleared).access (eq_false_of_ne_true fun hactivates => ?_)
    exact absurd (hcleared.symm.trans (hstarts hactivates)) (by decide)
  | _ => exact h.recorded hcleared

/-- Another thread than the worker and the disable call makes an access. -/
theorem RestInv.other {s' : System} (h : s.RestInv cfg) (hworld : s'.world = s.world.access cfg a)
    (hworker : s'.worker = s.worker) (hdisable : s'.disable = s.disable)
    (hstarts : a.activates = true →
      s.protocol.jtcDeactivationRequired = true ∧ s.confirmed = false)
    (hclears : a = .storeDeactivationRequired false → cfg.Rests s.world.controllers) :
    s'.RestInv cfg where
  recorded := by
    unfold protocol
    rw [hworld]
    exact h.rests_access (fun hactivates => (hstarts hactivates).1) hclears
  worker := by
    rw [hworld, hworker]
    exact fun sub hsub => (h.worker sub hsub).access fun hactivates =>
      (confirmed_eq_false (hstarts hactivates).2).1 sub hsub
  disable := by
    rw [hworld, hdisable]
    exact fun sub hsub => (h.disable sub hsub).access fun hactivates =>
      (confirmed_eq_false (hstarts hactivates).2).2 sub hsub

theorem jtcDeactivationRequired_update (cfg : Config) (sample : Sample) (now : ℤ) :
    (s.step cfg (.tick sample now)).protocol.jtcDeactivationRequired =
      s.protocol.jtcDeactivationRequired := by
  rcases s.tick_step cfg sample now with ⟨-, hsame⟩ | ⟨-, _, _, q, hstep, hq⟩
  · rw [hsame]
  · rw [hq]
    cases hstep <;> rfl

theorem restInv_step (h : s.RestInv cfg) (hguard : s.restGuard cfg l) :
    (s.step cfg l).RestInv cfg := by
  obtain ⟨hstarts, hforgets⟩ := hguard
  cases l with
  | tick sample now =>
    refine ⟨fun hcleared => h.recorded ?_, h.worker, h.disable⟩
    rw [← hcleared, jtcDeactivationRequired_update]
  | enable env =>
    refine h.other rfl rfl rfl (hstarts _ rfl) fun hclears => hforgets (decide_eq_true ?_)
    revert hclears
    generalize s.enable = pc
    cases pc with
    | switching sub =>
      rcases sub.running_or_returned with hrunning | ⟨result, rfl⟩
      · rw [EnablePc.access_switching hrunning]
        intro hclears
        have hswitch := sub.isSwitch_access cfg env s.protocol
        rw [hclears] at hswitch
        cases hswitch
      · cases result with
        | failed => exact fun _ => rfl
        | _ => exact nofun
    | _ => exact nofun
  | disable env =>
    have hrecords := DisablePc.records_access env h.disable s.protocol
    exact ⟨h.rests_access hrecords.never hrecords.clears,
      fun sub hsub => (h.worker sub hsub).access hrecords.never, DisablePc.disables_next h.disable⟩
  | reset env => exact h.other rfl rfl rfl (hstarts _ rfl) (by cases s.reset <;> exact nofun)
  | worker env =>
    have hrecords := WorkerPc.records_access env h.worker s.protocol
    exact ⟨h.rests_access hrecords.never hrecords.clears, WorkerPc.disables_next h.worker,
      fun sub hsub => (h.disable sub hsub).access hrecords.never⟩
  | mode env =>
    by_cases hmode : cfg.motionModeSwitching
    · rw [step_mode_of_switching cfg s env hmode]
      refine h.other rfl rfl rfl (hstarts _ (if_pos hmode)) fun hclears => ?_
      have howns := s.mode.owns_access cfg env s.protocol
      rw [hclears] at howns
      cases howns
    · rwa [step_mode_of_not_switching cfg s env hmode]
  | fault => exact h.other rfl rfl rfl (hstarts _ rfl) (by cases s.fault <;> exact nofun)
  | activate sample =>
    by_cases hactive : s.protocol.active
    · rwa [step, if_pos hactive]
    · rw [step, if_neg hactive]
      exact ⟨fun _ => hforgets (by simp [forgets, hactive]), h.worker, h.disable⟩
  | deactivate =>
    by_cases hactive : s.protocol.active
    · rw [step, if_pos hactive]
      exact ⟨h.recorded, h.worker, h.disable⟩
    · rwa [step, if_neg hactive]

end System

end RobotDriver.EnableManager
