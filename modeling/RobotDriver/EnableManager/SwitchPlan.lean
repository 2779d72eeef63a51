import RobotDriver.EnableManager.Config

/-!
# The controller switch plan

The planner, the matcher, the detector and the classifier read one list of controllers. A plan is
the managed names that have to change, a request acts on each controller by its name alone, and the
two together fix the state of every managed controller after the switch.
-/

namespace RobotDriver.EnableManager

section Apply

variable (request : SwitchRequest)

/-- The effect of a request on one controller. -/
def SwitchRequest.applyTo (controller : ControllerState) : ControllerState :=
  if controller.name ∈ request.activateControllers then { controller with state := "active" }
  else if controller.name ∈ request.deactivateControllers then
    { controller with state := "inactive" }
  else controller

theorem SwitchRequest.name_applyTo (controller : ControllerState) :
    (request.applyTo controller).name = controller.name := by
  unfold applyTo
  split_ifs <;> rfl

theorem findController_apply (states : List ControllerState) (name : String) :
    findController (request.apply states) name =
      (findController states name).map request.applyTo := by
  have hname : (fun controller : ControllerState => decide (controller.name = name)) ∘
      request.applyTo = fun controller => decide (controller.name = name) := by
    funext controller
    exact congrArg (fun n => decide (n = name)) (request.name_applyTo controller)
  unfold findController
  rw [show request.apply states = states.map request.applyTo from rfl, List.find?_map, hname]

theorem name_of_findController {states : List ControllerState} {name : String}
    {controller : ControllerState} (h : findController states name = some controller) :
    controller.name = name := by
  unfold findController at h
  simpa using List.find?_some h

end Apply

namespace Config

variable (cfg : Config)

section Plan

variable (states : List ControllerState) (target : ControlMode)

/-- The controller must start for the target mode, or has to stop for it. -/
def starts (name : String) : Bool :=
  cfg.controllerRunsInMode name target &&
    (findController states name).any (·.state = "inactive")

def stops (name : String) : Bool :=
  !cfg.controllerRunsInMode name target && (findController states name).any (·.state = "active")

/-- The planner finds the controller, and can start it if it has to. -/
def plannable (name : String) : Bool :=
  (findController states name).any fun controller =>
    !cfg.controllerRunsInMode name target || controller.state = "active" ||
      controller.state = "inactive"

variable {states target}

theorem planController_eq (name : String) (request : SwitchRequest) :
    cfg.planController states target name request =
      if cfg.plannable states target name then
        some ⟨request.activateControllers ++ [name].filter (cfg.starts states target),
          request.deactivateControllers ++ [name].filter (cfg.stops states target)⟩
      else none := by
  unfold planController plannable
  cases hfind : findController states name with
  | none => rfl
  | some controller =>
    by_cases hruns : cfg.controllerRunsInMode name target
    · by_cases hactive : controller.state = "active"
      · simp [hruns, hactive, starts, stops, hfind]
      · by_cases hinactive : controller.state = "inactive"
        · simp [hruns, hinactive, starts, stops, hfind]
        · simp [hruns, hactive, hinactive]
    · by_cases hactive : controller.state = "active"
      · simp [hruns, hactive, starts, stops, hfind]
      · simp [hruns, hactive, starts, stops, hfind]

theorem foldlM_planController (names : List String) (request : SwitchRequest) :
    names.foldlM (fun request name => cfg.planController states target name request) request =
      if names.all (cfg.plannable states target) then
        some ⟨request.activateControllers ++ names.filter (cfg.starts states target),
          request.deactivateControllers ++ names.filter (cfg.stops states target)⟩
      else none := by
  induction names generalizing request with
  | nil => simp
  | cons name names ih =>
    rw [List.foldlM_cons, planController_eq]
    by_cases hplan : cfg.plannable states target name
    · rw [if_pos hplan]
      simp only [Option.bind_eq_bind, Option.bind_some, ih, List.all_cons, hplan, Bool.true_and,
        List.append_assoc, ← List.filter_append, List.singleton_append]
    · rw [if_neg hplan]
      simp [hplan]

theorem buildControllerSwitchRequest_eq :
    cfg.buildControllerSwitchRequest states target =
      if cfg.managedControllers.all (cfg.plannable states target) then
        some ⟨cfg.managedControllers.filter (cfg.starts states target),
          cfg.managedControllers.filter (cfg.stops states target)⟩
      else none := by
  rw [buildControllerSwitchRequest, foldlM_planController]
  rfl

variable (states target) in
/-- The request of a plan that succeeds. -/
def planned : SwitchRequest :=
  ⟨cfg.managedControllers.filter (cfg.starts states target),
    cfg.managedControllers.filter (cfg.stops states target)⟩

/-- The state of a managed controller after the planned switch. -/
def plannedState (target : ControlMode) (name state : String) : String :=
  if cfg.controllerRunsInMode name target then "active"
  else if state = "active" then "inactive"
  else state

variable {cfg}

theorem starts_eq {name : String} {controller : ControllerState}
    (h : findController states name = some controller) :
    cfg.starts states target name =
      (cfg.controllerRunsInMode name target && controller.state = "inactive") := by
  rw [starts, h]
  rfl

theorem stops_eq {name : String} {controller : ControllerState}
    (h : findController states name = some controller) :
    cfg.stops states target name =
      (!cfg.controllerRunsInMode name target && controller.state = "active") := by
  rw [stops, h]
  rfl

theorem applyTo_planned_of_managed {name : String} {controller : ControllerState}
    (hmanaged : name ∈ cfg.managedControllers) (hplan : cfg.plannable states target name)
    (h : findController states name = some controller) :
    (cfg.planned states target).applyTo controller =
      { controller with state := cfg.plannedState target name controller.state } := by
  have hname := name_of_findController h
  have hstart : controller.name ∈ (cfg.planned states target).activateControllers ↔
      cfg.controllerRunsInMode name target ∧ controller.state = "inactive" := by
    rw [hname, planned, List.mem_filter, starts_eq h]
    simp [hmanaged]
  have hstop : controller.name ∈ (cfg.planned states target).deactivateControllers ↔
      cfg.controllerRunsInMode name target = false ∧ controller.state = "active" := by
    rw [hname, planned, List.mem_filter, stops_eq h]
    simp [hmanaged]
  unfold SwitchRequest.applyTo plannedState
  by_cases hruns : cfg.controllerRunsInMode name target
  · rw [if_pos hruns]
    by_cases hinactive : controller.state = "inactive"
    · rw [if_pos (hstart.2 ⟨hruns, hinactive⟩)]
    · have hactive : controller.state = "active" := by
        unfold plannable at hplan
        rw [h] at hplan
        simpa [hruns, hinactive] using hplan
      rw [if_neg fun hmem => hinactive (hstart.1 hmem).2,
        if_neg fun hmem => absurd (hruns.symm.trans (hstop.1 hmem).1) (by decide), ← hactive]
  · rw [if_neg hruns, if_neg fun hmem => hruns (hstart.1 hmem).1]
    by_cases hactive : controller.state = "active"
    · rw [if_pos hactive, if_pos (hstop.2 ⟨eq_false_of_ne_true hruns, hactive⟩)]
    · rw [if_neg hactive, if_neg fun hmem => hactive (hstop.1 hmem).2]

theorem applyTo_planned_of_unmanaged {controller : ControllerState}
    (h : controller.name ∉ cfg.managedControllers) :
    (cfg.planned states target).applyTo controller = controller := by
  unfold SwitchRequest.applyTo planned
  rw [if_neg fun hmem => h (List.mem_filter.1 hmem).1,
    if_neg fun hmem => h (List.mem_filter.1 hmem).1]

end Plan

section Modes

variable {cfg}

theorem runs_default {mode : ControlMode} :
    cfg.controllerRunsInMode cfg.defaultMotionController mode ↔
      mode = cfg.motionControllerMode := by
  unfold controllerRunsInMode
  by_cases hdisabled : mode = .disabled
  · rw [if_pos hdisabled, hdisabled]
    exact iff_of_false Bool.false_ne_true cfg.motionControllerMode_ne_disabled.symm
  · rw [if_neg hdisabled, if_pos rfl, decide_eq_true_iff]

theorem default_ne_empty (h : cfg.enableOnly = false) : cfg.defaultMotionController ≠ "" := by
  intro hdefault
  obtain ⟨hrolling, htrajectory, hcompanions⟩ :=
    cfg.motion_or_enableOnly.resolve_left fun hne => hne hdefault
  have hnone : cfg.managedControllers = [] := by
    simp [managedControllers, hdefault, hrolling, htrajectory, hcompanions]
  exact absurd h (by simp [enableOnly, hnone])

theorem mem_managed_of_motion {name : String} (hne : name ≠ "")
    (h : name = cfg.defaultMotionController ∨ name = cfg.rollingMotionController ∨
      name = cfg.trajectoryMotionController) : name ∈ cfg.managedControllers := by
  refine List.mem_append_left _ (List.mem_filter.2 ⟨?_, by simpa using hne⟩)
  simpa using h

theorem exists_runs_alternate (h : cfg.enableOnly = false) (hmode : cfg.alternateMode ≠ .disabled) :
    ∃ name ∈ cfg.managedControllers, cfg.controllerRunsInMode name cfg.alternateMode := by
  have hdefault := default_ne_empty h
  have hnodup := cfg.managedControllers_nodup
  unfold alternateMode at hmode ⊢
  by_cases hrolling : cfg.rollingMotionController = ""
  · have htrajectory : cfg.trajectoryMotionController ≠ "" := fun hnone => hmode (by
      rw [if_neg (not_not.2 hrolling), if_neg (not_not.2 hnone)])
    refine ⟨_, mem_managed_of_motion htrajectory (.inr (.inr rfl)), ?_⟩
    have hother : cfg.trajectoryMotionController ≠ cfg.defaultMotionController := by
      rintro heq
      simp [managedControllers, heq, hdefault] at hnodup
    rw [if_neg (not_not.2 hrolling), if_pos htrajectory, controllerRunsInMode,
      if_neg (by decide), if_neg hother, if_neg fun heq => htrajectory (heq.trans hrolling),
      if_pos rfl]
    rfl
  · refine ⟨_, mem_managed_of_motion hrolling (.inr (.inl rfl)), ?_⟩
    have hother : cfg.rollingMotionController ≠ cfg.defaultMotionController := by
      rintro heq
      simp [managedControllers, heq, hdefault] at hnodup
    rw [if_pos hrolling, controllerRunsInMode, if_neg (by decide), if_neg hother, if_pos rfl]
    rfl

/-- The modes a group can be switched to. -/
def HasMode (cfg : Config) (mode : ControlMode) : Prop :=
  mode = .disabled ∨ cfg.enableOnly = false ∧
    (mode = cfg.motionControllerMode ∨ mode = cfg.alternateMode)

theorem exists_distinguishing {mode other : ControlMode} (hmode : cfg.HasMode mode)
    (hother : cfg.HasMode other) (hne : mode ≠ other) : ∃ name ∈ cfg.managedControllers,
      cfg.controllerRunsInMode name mode ≠ cfg.controllerRunsInMode name other := by
  have hdefault : cfg.enableOnly = false →
      cfg.defaultMotionController ∈ cfg.managedControllers := fun h =>
    mem_managed_of_motion (default_ne_empty h) (.inl rfl)
  have hdisabled : ∀ mode', cfg.HasMode mode' → mode' ≠ .disabled →
      ∃ name ∈ cfg.managedControllers, cfg.controllerRunsInMode name mode' := by
    rintro mode' (h | ⟨h, rfl | rfl⟩) hne'
    · exact absurd h hne'
    · exact ⟨_, hdefault h, runs_default.2 rfl⟩
    · exact exists_runs_alternate h hne'
  by_cases hd : mode = .disabled
  · obtain ⟨name, hname, hruns⟩ := hdisabled other hother fun h => hne (hd.trans h.symm)
    refine ⟨name, hname, fun heq => ?_⟩
    rw [hruns, hd] at heq
    cases heq
  · by_cases hd' : other = .disabled
    · obtain ⟨name, hname, hruns⟩ := hdisabled mode hmode hd
      refine ⟨name, hname, fun heq => ?_⟩
      rw [hruns, hd'] at heq
      cases heq
    · obtain ⟨h, hmode⟩ := hmode.resolve_left hd
      obtain ⟨-, hother⟩ := hother.resolve_left hd'
      refine ⟨_, hdefault h, fun heq => ?_⟩
      have hiff : mode = cfg.motionControllerMode ↔ other = cfg.motionControllerMode := by
        rw [← runs_default, heq, runs_default]
      rcases hmode with rfl | rfl
      · exact hne (hiff.1 rfl).symm
      · rcases hother with rfl | rfl
        · exact hne (hiff.2 rfl)
        · exact hne rfl

variable {states : List ControllerState} {target : ControlMode}

theorem controllerStateMatches_iff : cfg.controllerStateMatches states target ↔
    ∀ name ∈ cfg.managedControllers, ∃ controller, findController states name = some controller ∧
      controller.state = if cfg.controllerRunsInMode name target then "active" else "inactive" := by
  unfold controllerStateMatches
  rw [List.all_eq_true]
  refine forall₂_congr fun name _ => ?_
  cases findController states name with
  | none => simp
  | some controller => simp

theorem not_matches_of_matches {other : ControlMode} (htarget : cfg.HasMode target)
    (hother : cfg.HasMode other) (hne : other ≠ target)
    (h : cfg.controllerStateMatches states target) :
    cfg.controllerStateMatches states other = false := by
  refine eq_false_of_ne_true fun h' => ?_
  obtain ⟨name, hname, hdiffer⟩ := exists_distinguishing htarget hother hne.symm
  obtain ⟨controller, hfind, hstate⟩ := controllerStateMatches_iff.1 h name hname
  obtain ⟨controller', hfind', hstate'⟩ := controllerStateMatches_iff.1 h' name hname
  obtain rfl : controller = controller' := Option.some.inj (hfind.symm.trans hfind')
  refine hdiffer ?_
  have hsame := hstate.symm.trans hstate'
  revert hsame
  cases cfg.controllerRunsInMode name target <;> cases cfg.controllerRunsInMode name other <;> simp

theorem detectControlMode_of_matches (htarget : cfg.HasMode target)
    (h : cfg.controllerStateMatches states target) : cfg.detectControlMode states = target := by
  unfold detectControlMode
  by_cases hdisabled : target = .disabled
  · rw [if_pos (hdisabled ▸ h), hdisabled]
  · obtain ⟨hgroup, hmode⟩ := htarget.resolve_left hdisabled
    have hnot := not_matches_of_matches htarget (.inl rfl) (fun h' => hdisabled h'.symm) h
    rw [if_neg (ne_true_of_eq_false hnot)]
    by_cases hmotion : target = cfg.motionControllerMode
    · rw [if_pos (hmotion ▸ h), hmotion]
    · have halternate := hmode.resolve_left hmotion
      have hnot' := not_matches_of_matches htarget (.inr ⟨hgroup, .inl rfl⟩)
        (fun h' => hmotion h'.symm) h
      rw [if_neg (ne_true_of_eq_false hnot'),
        if_pos ⟨fun h' => hdisabled (halternate.trans h'), halternate ▸ h⟩, halternate]

end Modes

section Switched

variable {cfg} {states : List ControllerState} {target : ControlMode}

/-- The list after a planned switch: every managed controller in its planned state, the others as
they were, and the readings of the list agree with each other. -/
structure Switched (cfg : Config) (states : List ControllerState) (target : ControlMode)
    (request : SwitchRequest) : Prop where
  managed : ∀ name ∈ cfg.managedControllers, ∃ controller,
    findController states name = some controller ∧
      findController (request.apply states) name =
        some { controller with state := cfg.plannedState target name controller.state }
  unmanaged : (request.apply states).filter (·.name ∉ cfg.managedControllers) =
    states.filter (·.name ∉ cfg.managedControllers)
  matching : cfg.controllerStateMatches (request.apply states) target ↔
    ∀ name ∈ cfg.managedControllers, cfg.controllerRunsInMode name target = false →
      ∀ controller, findController states name = some controller →
        controller.state = "active" ∨ controller.state = "inactive"
  reported : cfg.HasMode target → cfg.controllerStateMatches (request.apply states) target →
    cfg.detectControlMode (request.apply states) = target ∧
      ∀ source, cfg.classifyModeSwitchState (request.apply states) source target = .targetActive

theorem exists_of_plannable {name : String} (h : cfg.plannable states target name) :
    ∃ controller, findController states name = some controller := by
  unfold plannable at h
  exact (Option.any_eq_true _ _).1 h |>.imp fun _ h' => h'.1

theorem filter_apply_planned :
    ((cfg.planned states target).apply states).filter (·.name ∉ cfg.managedControllers) =
      states.filter (·.name ∉ cfg.managedControllers) := by
  have hname : (fun controller : ControllerState =>
        decide (controller.name ∉ cfg.managedControllers)) ∘ (cfg.planned states target).applyTo =
      fun controller => decide (controller.name ∉ cfg.managedControllers) := by
    funext controller
    exact congrArg (fun name => decide (name ∉ cfg.managedControllers))
      ((cfg.planned states target).name_applyTo controller)
  rw [show (cfg.planned states target).apply states =
    states.map (cfg.planned states target).applyTo from rfl, List.filter_map, hname]
  refine (List.map_congr_left fun controller hmem => ?_).trans (List.map_id _)
  exact applyTo_planned_of_unmanaged (of_decide_eq_true (List.mem_filter.1 hmem).2)

theorem switched_of_planned
    (hplan : ∀ name ∈ cfg.managedControllers, cfg.plannable states target name) :
    cfg.Switched states target (cfg.planned states target) := by
  have hmanaged : ∀ name ∈ cfg.managedControllers, ∃ controller,
      findController states name = some controller ∧
        findController ((cfg.planned states target).apply states) name =
          some { controller with state := cfg.plannedState target name controller.state } := by
    intro name hname
    obtain ⟨controller, hfind⟩ := exists_of_plannable (hplan name hname)
    refine ⟨controller, hfind, ?_⟩
    rw [findController_apply, hfind, Option.map_some,
      applyTo_planned_of_managed hname (hplan name hname) hfind]
  refine ⟨hmanaged, filter_apply_planned, ?_, fun htarget hmatches => ?_⟩
  · rw [controllerStateMatches_iff]
    refine forall₂_congr fun name hname => ?_
    obtain ⟨controller, hfind, hplanned⟩ := hmanaged name hname
    rw [hplanned]
    by_cases hruns : cfg.controllerRunsInMode name target
    · refine iff_of_true ⟨_, rfl, ?_⟩ fun h => absurd (hruns.symm.trans h) (by decide)
      rw [if_pos hruns]
      exact if_pos hruns
    · have hstate : cfg.plannedState target name controller.state = "inactive" ↔
          controller.state = "active" ∨ controller.state = "inactive" := by
        unfold plannedState
        rw [if_neg hruns]
        by_cases hactive : controller.state = "active"
        · rw [if_pos hactive]
          exact iff_of_true rfl (.inl hactive)
        · rw [if_neg hactive]
          exact (or_iff_right hactive).symm
      simp [hruns, hfind, hstate]
  · have hdetect := detectControlMode_of_matches htarget hmatches
    refine ⟨hdetect, fun source => ?_⟩
    unfold classifyModeSwitchState
    rw [hdetect]
    exact if_pos rfl

/-- The planner succeeds exactly when every managed controller is listed and those of the target
mode are active or inactive; its request then switches the list to the planned states. The list
matches the target exactly when the other managed controllers were active or inactive, and is then
detected and classified as the target. -/
theorem switch_plan (cfg : Config) (states : List ControllerState) (target : ControlMode) :
    (∀ request, cfg.buildControllerSwitchRequest states target = some request →
      cfg.Switched states target request) ∧
    (cfg.buildControllerSwitchRequest states target = none ↔
      ∃ name ∈ cfg.managedControllers, ∀ controller,
        findController states name = some controller → cfg.controllerRunsInMode name target ∧
          controller.state ≠ "active" ∧ controller.state ≠ "inactive") := by
  rw [buildControllerSwitchRequest_eq]
  refine ⟨fun request h => ?_, ?_⟩
  · split_ifs at h with hall
    cases h
    exact switched_of_planned (List.all_eq_true.1 hall)
  · rw [ite_eq_right_iff]
    simp only [reduceCtorEq, imp_false, List.all_eq_true, not_forall, exists_prop]
    refine exists_congr fun name => and_congr_right fun _ => ?_
    unfold plannable
    cases findController states name with
    | none => simp
    | some controller => simp [and_assoc]

/-- The trajectory controller of the chassis is not configured, and the plan for the velocity mode
has nothing to change. -/
theorem plan_unmatched : ¬∀ (cfg : Config) (states : List ControllerState) (target : ControlMode)
    (request : SwitchRequest), cfg.HasMode target →
      cfg.buildControllerSwitchRequest states target = some request →
      cfg.controllerStateMatches (request.apply states) target := by
  intro h
  exact absurd (h chassis
    [⟨"swerve_controller", "active"⟩, ⟨"wheel_trajectory_controller", "unconfigured"⟩]
    .velocityReady ⟨[], []⟩ (.inr ⟨by decide, .inl (by decide)⟩) (by decide)) (by decide)

end Switched

end Config

end RobotDriver.EnableManager
