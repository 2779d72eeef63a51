import Mathlib.Data.List.Forall2
import Mathlib.Data.List.Nodup
import RobotDriver.Bringup.ScopeLifecycle

/-!
# Which teardowns take hardware from under a controller

The deactivation of the hardware waits for the last phase alone. A motion controller that did not
stop in the first one is still there when its hardware goes.
-/

namespace RobotDriver.Bringup

/-- The controllers still active after a call: a successful quiesce stops those it names. -/
def stillActive (active : List String) : Call × Outcome → List String
  | (.quiesce names, .returned true) => active.filter (· ∉ names)
  | _ => active

def activeAfter (active : List String) (trace : Trace) : List String :=
  trace.foldl stillActive active

def Call.IsHardware : Call → Prop
  | .hardwareState _ _ => True
  | _ => False

/-- What the backend has answered once a list of calls is made. -/
def Backend.exchange (backend : Backend) (calls : List Call) : Trace :=
  calls.foldl (fun trace c => trace ++ [(c, backend trace c)]) []

/-- The systems asked to go to a state, in the order in which they are asked. -/
def asked (state : HardwareState) (trace : Trace) : List String :=
  trace.filterMap fun c => match c.1 with
    | .hardwareState name state' => if state' = state then some name else none
    | _ => none

/-- A teardown that never pulls hardware from under a controller and reports what it achieved. -/
structure OrderlyTeardown (plan : LifecyclePlan) (active : List String) (ok : Bool)
    (trace : Trace) : Prop where
  phases_once : ∃ rest, trace.map Prod.fst = (phases plan).map Prod.snd ++ rest ∧
    ∀ c ∈ rest, c.IsHardware
  released : ∀ before name out after,
    trace = before ++ (.hardwareState name .inactive, out) :: after →
      ∀ c ∈ plan.controllers, c ∉ activeAfter active before
  reversed : (asked .inactive trace).Sublist plan.hardwareActivationOrder.reverse ∧
    (asked .unconfigured trace).Sublist plan.hardwareActivationOrder.reverse
  once : (asked .inactive trace).Nodup ∧ (asked .unconfigured trace).Nodup
  cleaned : ∀ before name out after,
    trace = before ++ (.hardwareState name .unconfigured, out) :: after →
      ∃ earlier, before = earlier ++ [(.hardwareState name .inactive, .returned true)]
  result : ok = true ↔ (∀ c ∈ trace.take 3, c.2 = .returned true) ∧
    ∀ name ∈ plan.hardwareActivationOrder,
      (.hardwareState name .inactive, .returned true) ∈ trace ∧
        (.hardwareState name .unconfigured, .returned true) ∈ trace

open Shutdown

theorem activeAfter_append (active : List String) (trace later : Trace) :
    activeAfter active (trace ++ later) = activeAfter (activeAfter active trace) later :=
  List.foldl_append

theorem activeAfter_hardware (active : List String) {trace : Trace}
    (h : ∀ c ∈ trace, c.1.IsHardware) : activeAfter active trace = active := by
  induction trace with
  | nil => rfl
  | cons c trace ih =>
    obtain ⟨hc, htrace⟩ := List.forall_mem_cons.1 h
    obtain ⟨call, out⟩ := c
    cases call with
    | quiesce names => exact absurd hc id
    | disable => exact absurd hc id
    | hardwareState name state => exact ih htrace

theorem mem_filter_notMem {c : String} {active names : List String} :
    c ∈ active.filter (· ∉ names) ↔ c ∈ active ∧ c ∉ names := by
  rw [List.mem_filter, decide_eq_true_iff]

/-- Every step down to `unconfigured` directly follows a successful step to `inactive`. -/
def Preceded (trace : Trace) : Prop :=
  ∀ before name out after,
    trace = before ++ (.hardwareState name .unconfigured, out) :: after →
      ∃ earlier, before = earlier ++ [(.hardwareState name .inactive, .returned true)]

theorem Preceded.append {trace later : Trace} (h : Preceded trace) (h' : Preceded later) :
    Preceded (trace ++ later) := by
  intro before name out after heq
  rcases List.append_eq_append_iff.1 heq with ⟨mid, rfl, hlater⟩ | ⟨mid, rfl, hlater⟩
  · obtain ⟨earlier, rfl⟩ := h' mid name out after hlater
    exact ⟨trace ++ earlier, (List.append_assoc _ _ _).symm⟩
  · cases mid with
    | nil =>
      obtain ⟨earlier, hnil⟩ := h' [] name out after (by simpa using hlater.symm)
      simp at hnil
    | cons c mid =>
      rw [List.cons_append, List.cons.injEq] at hlater
      exact h before name out mid (by rw [hlater.1])

theorem Preceded.of_not_hardware {trace : Trace} (h : ∀ c ∈ trace, ¬c.1.IsHardware) :
    Preceded trace := by
  intro before name out after heq
  exact absurd trivial (h (.hardwareState name .unconfigured, out) (by simp [heq]))

section Cleaning

variable {name : String} {exchange : Trace} {cleaned : Bool}

theorem Shutdown.Cleaning.isHardware (h : Cleaning name exchange cleaned) :
    ∀ c ∈ exchange, ∃ state, c.1 = .hardwareState name state := by
  cases h with
  | kept out failed => simp
  | left out => simp

theorem Shutdown.Cleaning.preceded (h : Cleaning name exchange cleaned) : Preceded exchange := by
  cases h with
  | kept out failed =>
    rintro before other last after heq
    have hlength := congrArg List.length heq
    cases before with
    | nil => simp at heq
    | cons c before => simp at hlength
  | left out =>
    rintro before other last after heq
    cases before with
    | nil => simp at heq
    | cons c before =>
      cases before with
      | nil =>
        simp only [List.cons_append, List.nil_append, List.cons.injEq, Prod.mk.injEq,
          Call.hardwareState.injEq] at heq
        obtain ⟨rfl, ⟨⟨rfl, -⟩, -⟩, -⟩ := heq
        exact ⟨[], rfl⟩
      | cons d before =>
        have hlength := congrArg List.length heq
        simp at hlength

theorem Shutdown.Cleaning.asked_inactive (h : Cleaning name exchange cleaned) :
    asked .inactive exchange = [name] := by
  cases h with
  | kept out failed => rfl
  | left out => rfl

theorem Shutdown.Cleaning.asked_unconfigured (h : Cleaning name exchange cleaned) :
    (asked .unconfigured exchange).Sublist [name] := by
  cases h with
  | kept out failed => exact List.nil_sublist _
  | left out => exact List.Sublist.refl _

theorem Shutdown.Cleaning.cleaned_iff (h : Cleaning name exchange cleaned) :
    cleaned = true ↔ (.hardwareState name .inactive, .returned true) ∈ exchange ∧
      (.hardwareState name .unconfigured, .returned true) ∈ exchange := by
  cases h with
  | kept out failed => simp
  | left out =>
    rw [Outcome.ok_iff]
    simp [@eq_comm _ out]

end Cleaning

section CleanAll

variable {names : List String} {exchanges : List (Trace × Bool)}

/-- What the hardware loop exchanged with the backend, system by system. -/
def CleanAll (names : List String) (exchanges : List (Trace × Bool)) : Prop :=
  List.Forall₂ (fun name e => Cleaning name e.1 e.2) names exchanges

def flat (exchanges : List (Trace × Bool)) : Trace := (exchanges.map Prod.fst).flatten

theorem flat_cons (e : Trace × Bool) (exchanges : List (Trace × Bool)) :
    flat (e :: exchanges) = e.1 ++ flat exchanges := by
  rw [flat, List.map_cons, List.flatten_cons, flat]

theorem asked_append (state : HardwareState) (trace later : Trace) :
    asked state (trace ++ later) = asked state trace ++ asked state later :=
  List.filterMap_append

theorem CleanAll.calls (h : CleanAll names exchanges) :
    ∀ c ∈ flat exchanges, ∃ name ∈ names, ∃ state, c.1 = .hardwareState name state := by
  induction h with
  | nil => simp [flat]
  | cons hclean _ ih =>
    intro c hc
    rw [flat_cons, List.mem_append] at hc
    rcases hc with hc | hc
    · exact ⟨_, List.mem_cons_self, hclean.isHardware c hc⟩
    · obtain ⟨name, hname, hcall⟩ := ih c hc
      exact ⟨name, List.mem_cons_of_mem _ hname, hcall⟩

theorem CleanAll.isHardware (h : CleanAll names exchanges) :
    ∀ c ∈ flat exchanges, c.1.IsHardware := by
  intro c hc
  obtain ⟨name, -, state, hcall⟩ := h.calls c hc
  rw [hcall]
  trivial

theorem CleanAll.head {name : String} (h : CleanAll (name :: names) exchanges) :
    ∃ out after, flat exchanges = (.hardwareState name .inactive, out) :: after := by
  obtain ⟨⟨exchange, cleaned⟩, rest, hclean, -, rfl⟩ := List.forall₂_cons_left_iff.1 h
  rw [flat_cons]
  cases hclean with
  | kept out failed => exact ⟨out, _, rfl⟩
  | left out => exact ⟨.returned true, _, rfl⟩

theorem CleanAll.preceded (h : CleanAll names exchanges) : Preceded (flat exchanges) := by
  induction h with
  | nil => exact .of_not_hardware (by simp [flat])
  | cons hclean _ ih =>
    rw [flat_cons]
    exact hclean.preceded.append ih

theorem CleanAll.asked_inactive (h : CleanAll names exchanges) :
    asked .inactive (flat exchanges) = names := by
  induction h with
  | nil => rfl
  | cons hclean _ ih => rw [flat_cons, asked_append, hclean.asked_inactive, ih, List.singleton_append]

theorem CleanAll.asked_unconfigured (h : CleanAll names exchanges) :
    (asked .unconfigured (flat exchanges)).Sublist names := by
  induction h with
  | nil => exact List.Sublist.refl _
  | cons hclean _ ih =>
    rw [flat_cons, asked_append]
    exact hclean.asked_unconfigured.append ih

theorem CleanAll.all_iff (h : CleanAll names exchanges) (hnodup : names.Nodup) :
    (exchanges.map Prod.snd).all id = true ↔ ∀ name ∈ names,
      (.hardwareState name .inactive, .returned true) ∈ flat exchanges ∧
        (.hardwareState name .unconfigured, .returned true) ∈ flat exchanges := by
  induction h with
  | nil => simp
  | @cons name e names exchanges hclean hrest ih =>
    obtain ⟨hfresh, hnodup⟩ := List.nodup_cons.1 hnodup
    -- the later exchanges never name this system, nor this one the later systems
    have hself : ∀ state, (.hardwareState name state, .returned true) ∈ flat (e :: exchanges) ↔
        (.hardwareState name state, .returned true) ∈ e.1 := by
      intro state
      rw [flat_cons, List.mem_append, or_iff_left]
      intro hmem
      obtain ⟨other, hother, state', hcall⟩ := CleanAll.calls hrest _ hmem
      rw [Call.hardwareState.injEq] at hcall
      exact hfresh (hcall.1 ▸ hother)
    have hother : ∀ other ∈ names, ∀ state,
        (.hardwareState other state, .returned true) ∈ flat (e :: exchanges) ↔
          (.hardwareState other state, .returned true) ∈ flat exchanges := by
      intro other hmem state
      rw [flat_cons, List.mem_append, or_iff_right]
      intro he
      obtain ⟨state', hcall⟩ := hclean.isHardware _ he
      rw [Call.hardwareState.injEq] at hcall
      exact hfresh (hcall.1 ▸ hmem)
    rw [List.map_cons, List.all_cons, Bool.and_eq_true, id_eq, ih hnodup, List.forall_mem_cons,
      hclean.cleaned_iff, hself, hself]
    refine and_congr_right fun _ => forall₂_congr fun other hmem => ?_
    rw [hother other hmem, hother other hmem]

end CleanAll

variable (backend : Backend) (plan : LifecyclePlan)

/-- What the first phase is answered. -/
def motionOutcome : Outcome := backend [] (.quiesce plan.motionControllers)

def disableOutcome : Outcome :=
  backend (backend.exchange [.quiesce plan.motionControllers]) .disable

/-- What the last phase is answered. -/
def lastOutcome : Outcome :=
  backend (backend.exchange [.quiesce plan.motionControllers, .disable])
    (.quiesce plan.lastControllers)

def phaseTrace : Trace :=
  [(.quiesce plan.motionControllers, motionOutcome backend plan),
   (.disable, disableOutcome backend plan),
   (.quiesce plan.lastControllers, lastOutcome backend plan)]

theorem phaseTrace_not_hardware : ∀ c ∈ phaseTrace backend plan, ¬c.1.IsHardware := by
  intro c hc
  simp only [phaseTrace, List.mem_cons, List.not_mem_nil, or_false] at hc
  rcases hc with rfl | rfl | rfl <;> exact id

theorem runPhases_trace : (runPhases backend plan).trace = phaseTrace backend plan := rfl

theorem runPhases_results : (runPhases backend plan).results =
    [(motionOutcome backend plan).ok, (disableOutcome backend plan).ok,
      (lastOutcome backend plan).ok] := rfl

theorem shutdownSequence_of_failed (h : lastOutcome backend plan ≠ .returned true) :
    (shutdownSequence backend plan).2.trace = phaseTrace backend plan ∧
      (shutdownSequence backend plan).1 = false := by
  have hgate : ¬(lastOutcome backend plan).ok = true := mt Outcome.ok_iff.1 h
  simp only [shutdownSequence, runPhases_results, List.getLast?_cons_cons,
    List.getLast?_singleton, Option.some.injEq, if_neg hgate]
  exact ⟨runPhases_trace backend plan, by simp⟩

theorem shutdownSequence_of_succeeded (h : lastOutcome backend plan = .returned true) :
    ∃ exchanges, CleanAll plan.hardwareActivationOrder.reverse exchanges ∧
      (shutdownSequence backend plan).2.trace = phaseTrace backend plan ++ flat exchanges ∧
      ((shutdownSequence backend plan).1 = true ↔
        (∀ c ∈ phaseTrace backend plan, c.2 = .returned true) ∧
          (exchanges.map Prod.snd).all id = true) := by
  obtain ⟨exchanges, hall, htraces, hresultss⟩ := cleanAll_spec backend (runPhases backend plan)
    plan.hardwareActivationOrder.reverse
  have hgate : (lastOutcome backend plan).ok = true := Outcome.ok_iff.2 h
  refine ⟨exchanges, hall, ?_⟩
  simp only [shutdownSequence, runPhases_results, List.getLast?_cons_cons,
    List.getLast?_singleton, Option.some.injEq, if_pos hgate]
  refine ⟨by rw [htraces, runPhases_trace, flat], ?_⟩
  rw [hresultss, runPhases_results]
  simp [phaseTrace, Outcome.ok_iff, and_assoc]

theorem released_iff (active : List String) (h : lastOutcome backend plan = .returned true) :
    (∀ c ∈ plan.controllers, c ∉ activeAfter active (phaseTrace backend plan)) ↔
      motionOutcome backend plan = .returned true ∨
        ∀ c ∈ plan.motionControllers, c ∈ active → c ∈ plan.lastControllers := by
  have hactive : activeAfter active (phaseTrace backend plan) =
      (stillActive active (.quiesce plan.motionControllers, motionOutcome backend plan)).filter
        (· ∉ plan.lastControllers) := by
    rw [phaseTrace, h]
    rfl
  have hlast : ∀ c ∈ plan.lastControllers, c ∉ activeAfter active (phaseTrace backend plan) := by
    intro c hc hmem
    rw [hactive, mem_filter_notMem] at hmem
    exact hmem.2 hc
  rw [LifecyclePlan.controllers, List.forall_mem_append, and_iff_left hlast]
  simp only [hactive, mem_filter_notMem]
  by_cases hmotion : motionOutcome backend plan = .returned true
  · have hstopped : ∀ c ∈ plan.motionControllers, c ∉ stillActive active
        (.quiesce plan.motionControllers, motionOutcome backend plan) := by
      intro c hc hmem
      rw [hmotion, stillActive, mem_filter_notMem] at hmem
      exact hmem.2 hc
    exact iff_of_true (fun c hc h => hstopped c hc h.1) (.inl hmotion)
  · have hkept : stillActive active
        (.quiesce plan.motionControllers, motionOutcome backend plan) = active := by
      cases hout : motionOutcome backend plan with
      | raised error => rfl
      | returned ok =>
        cases ok with
        | false => rfl
        | true => exact absurd hout hmotion
    rw [hkept, or_iff_right hmotion]
    exact forall₂_congr fun c hc => by rw [not_and, not_not]

/-- No motion controller is left on hardware that goes: it stopped when asked, or the hardware
stays, or the last phase stopped it. -/
def ClaimsReleased (active : List String) : Prop :=
  lastOutcome backend plan = .returned true → plan.hardwareActivationOrder ≠ [] →
    motionOutcome backend plan = .returned true ∨
      ∀ c ∈ plan.motionControllers, c ∈ active → c ∈ plan.lastControllers

theorem orderlyTeardown_of_failed (active : List String)
    (h : lastOutcome backend plan ≠ .returned true) :
    OrderlyTeardown plan active (shutdownSequence backend plan).1
      (shutdownSequence backend plan).2.trace := by
  obtain ⟨htrace, hfalse⟩ := shutdownSequence_of_failed backend plan h
  have hnone := phaseTrace_not_hardware backend plan
  rw [htrace, hfalse]
  exact {
    phases_once := ⟨[], rfl, by simp⟩
    released := by
      rintro before name out after heq
      exact absurd trivial (hnone (.hardwareState name .inactive, out) (by simp [heq]))
    reversed := ⟨List.nil_sublist _, List.nil_sublist _⟩
    once := ⟨List.nodup_nil, List.nodup_nil⟩
    cleaned := Preceded.of_not_hardware hnone
    result := by
      refine iff_of_false Bool.false_ne_true ?_
      rintro ⟨hphases, -⟩
      exact h (hphases (.quiesce plan.lastControllers, lastOutcome backend plan)
        (by simp [phaseTrace])) }

/-- The teardown is orderly exactly when no controller claims the hardware it takes away. -/
theorem orderlyTeardown_iff (active : List String) :
    OrderlyTeardown plan active (shutdownSequence backend plan).1
      (shutdownSequence backend plan).2.trace ↔ ClaimsReleased backend plan active := by
  by_cases h : lastOutcome backend plan = .returned true
  swap
  · exact iff_of_true (orderlyTeardown_of_failed backend plan active h) (absurd · h)
  obtain ⟨exchanges, hall, htrace, hresult⟩ := shutdownSequence_of_succeeded backend plan h
  rw [htrace, ClaimsReleased, imp_iff_right h, ← released_iff backend plan active h]
  have hnone := phaseTrace_not_hardware backend plan
  have hnodup : plan.hardwareActivationOrder.reverse.Nodup :=
    List.nodup_reverse.2 plan.order_nodup
  have hinactive : asked .inactive (phaseTrace backend plan ++ flat exchanges) =
      plan.hardwareActivationOrder.reverse := by
    rw [asked_append, hall.asked_inactive]
    rfl
  have hunconfigured : (asked .unconfigured (phaseTrace backend plan ++ flat exchanges)).Sublist
      plan.hardwareActivationOrder.reverse := by
    rw [asked_append]
    exact hall.asked_unconfigured
  constructor
  · -- the first system is asked right after the phases
    rintro horderly hne
    obtain ⟨name, rest, hnames⟩ := List.exists_cons_of_ne_nil (mt List.reverse_eq_nil_iff.1 hne)
    rw [hnames] at hall
    obtain ⟨out, after, hflat⟩ := hall.head
    exact horderly.released _ name out after (by rw [hflat])
  · intro hreleased
    exact {
      phases_once := by
        refine ⟨(flat exchanges).map Prod.fst, List.map_append, ?_⟩
        rw [List.forall_mem_map]
        exact hall.isHardware
      released := by
        intro before name out after heq
        have hne : plan.hardwareActivationOrder ≠ [] := by
          intro hnil
          have hmem : name ∈ asked .inactive (phaseTrace backend plan ++ flat exchanges) := by
            rw [heq, asked_append]
            simp [asked]
          rw [hinactive, hnil] at hmem
          exact List.not_mem_nil hmem
        rcases List.append_eq_append_iff.1 heq with ⟨mid, rfl, hmid⟩ | ⟨mid, hphase, hmid⟩
        · rw [activeAfter_append, activeAfter_hardware]
          · exact hreleased hne
          · exact fun c hc => hall.isHardware c (by simp [hmid, hc])
        · cases mid with
          | nil =>
            rw [List.append_nil] at hphase
            rw [← hphase]
            exact hreleased hne
          | cons c mid =>
            rw [List.cons_append, List.cons.injEq] at hmid
            exact absurd trivial (hnone (.hardwareState name .inactive, out)
              (by simp [hphase, hmid.1]))
      reversed := ⟨hinactive ▸ List.Sublist.refl _, hunconfigured⟩
      once := ⟨hinactive ▸ hnodup, hunconfigured.nodup hnodup⟩
      cleaned := (Preceded.of_not_hardware hnone).append hall.preceded
      result := by
        have htake : (phaseTrace backend plan ++ flat exchanges).take 3 =
            phaseTrace backend plan := rfl
        rw [hresult, hall.all_iff hnodup, htake]
        refine and_congr_right fun _ => ?_
        simp only [List.mem_reverse, List.mem_append]
        refine forall₂_congr fun name _ => ?_
        have hphase : ∀ state, (.hardwareState name state, .returned true) ∉
            phaseTrace backend plan :=
          fun state hmem => hnone _ hmem trivial
        rw [or_iff_right (hphase _), or_iff_right (hphase _)] }

/-- One hardware system under a base controller that refuses to stop. -/
def stuckPlan : LifecyclePlan where
  hardwareActivationOrder := ["ecat_master"]
  motionControllers := ["swerve_controller"]
  lifecycleControllers := ["enable_manager"]
  recorderControllers := none
  order_nodup := List.nodup_singleton _

def stuckBackend : Backend := fun _ c =>
  .returned (c ≠ .quiesce ["swerve_controller"])

/-- The base controller is still active when its hardware is asked to leave active. -/
theorem stuck_not_orderly :
    ¬OrderlyTeardown stuckPlan stuckPlan.controllers (shutdownSequence stuckBackend stuckPlan).1
      (shutdownSequence stuckBackend stuckPlan).2.trace := by
  intro h
  have hasked : (shutdownSequence stuckBackend stuckPlan).2.trace =
      phaseTrace stuckBackend stuckPlan ++
        (.hardwareState "ecat_master" .inactive, .returned true) ::
          [(.hardwareState "ecat_master" .unconfigured, .returned true)] := by
    decide
  exact h.released _ _ _ _ hasked "swerve_controller" (by decide) (by decide)

end RobotDriver.Bringup
