import Mathlib.Data.List.Basic
import RobotDriver.Lib.Numerals

/-!
# Bringing a control scope down

The composer's plan names the controllers and the hardware systems of a scope. The teardown runs
against a backend whose calls succeed, return false or raise, each as it likes and depending on
everything called before.
-/

namespace RobotDriver.Bringup

inductive HardwareState where
  | unconfigured
  | inactive
  | active
  deriving DecidableEq

/-- The parts of `lifecycle.yaml` a teardown reads. The order lists merged systems, each once. -/
structure LifecyclePlan where
  hardwareActivationOrder : List String
  motionControllers : List String
  lifecycleControllers : List String
  recorderControllers : Option (List String)
  order_nodup : hardwareActivationOrder.Nodup

/-- The controllers stopped after the drives are disabled, the optional recorder with them. -/
def LifecyclePlan.lastControllers (plan : LifecyclePlan) : List String :=
  plan.lifecycleControllers ++ plan.recorderControllers.getD []

def LifecyclePlan.controllers (plan : LifecyclePlan) : List String :=
  plan.motionControllers ++ plan.lastControllers

inductive Call where
  | quiesce (names : List String)
  | disable
  | hardwareState (name : String) (state : HardwareState)
  deriving DecidableEq

inductive Outcome where
  | returned (ok : Bool)
  | raised (error : String)
  deriving DecidableEq

def Outcome.ok : Outcome → Bool
  | .returned ok => ok
  | .raised _ => false

theorem Outcome.ok_iff {out : Outcome} : out.ok = true ↔ out = .returned true := by
  cases out with
  | returned ok => simp [Outcome.ok]
  | raised error => simp [Outcome.ok]

/-- The calls made so far, in order, with what came of them. -/
abbrev Trace := List (Call × Outcome)

/-- The outcome of a call may depend on all calls before it. -/
abbrev Backend := Trace → Call → Outcome

structure Shutdown where
  trace : Trace
  results : List Bool
  log : List String

namespace Shutdown

variable (backend : Backend) (s : Shutdown)

def call (c : Call) : Outcome × Shutdown :=
  let out := backend s.trace c
  (out, { s with trace := s.trace ++ [(c, out)] })

def pyBool : Bool → String
  | true => "True"
  | false => "False"

/-- An exception is logged and counts as a failure; the result is recorded and logged. -/
def record (out : Outcome) (failed : String → String) (line : String → String) : Shutdown :=
  let errors := match out with
    | .returned _ => []
    | .raised error => [failed error]
  { s with
    results := s.results ++ [out.ok]
    log := s.log ++ errors ++ [line (pyBool out.ok)] }

def phase (label : String) (operation : Call) : Shutdown :=
  let (out, s) := s.call backend operation
  s.record out (fun error => s!"RT_SCOPE_SHUTDOWN {label}: {error}")
    (fun ok => s!"RT_SCOPE_SHUTDOWN {label}={ok}")

/-- One turn of the hardware loop: `inactive` first, and `unconfigured` only if that succeeded. -/
def clean (name : String) : Shutdown :=
  let (out, s) := s.call backend (.hardwareState name .inactive)
  let (out, s) := if out.ok then s.call backend (.hardwareState name .unconfigured) else (out, s)
  s.record out (fun error => s!"RT_SCOPE_SHUTDOWN hardware {name}: {error}")
    (fun ok => s!"RT_SCOPE_SHUTDOWN hardware={name} cleaned={ok}")

end Shutdown

/-- The three phases. The recorder stops after the disable, which is so still recorded. -/
def phases (plan : LifecyclePlan) : List (String × Call) :=
  [("motion_inactive", .quiesce plan.motionControllers),
   ("drives_disabled", .disable),
   ("controllers_inactive", .quiesce plan.lastControllers)]

def runPhases (backend : Backend) (plan : LifecyclePlan) : Shutdown :=
  (phases plan).foldl (fun s p => s.phase backend p.1 p.2) ⟨[], [], []⟩

/-- Every phase is attempted; the hardware follows when the last one succeeded. -/
def shutdownSequence (backend : Backend) (plan : LifecyclePlan) : Bool × Shutdown :=
  let s := runPhases backend plan
  let s :=
    if s.results.getLast? = some true then
      plan.hardwareActivationOrder.reverse.foldl (fun s name => s.clean backend name) s
    else { s with results := s.results ++ [false] }
  (s.results.all id, s)

namespace Shutdown

variable (backend : Backend) (s : Shutdown)

/-- The exchange by which one hardware system is cleaned, or not. -/
inductive Cleaning (name : String) : Trace → Bool → Prop
  | kept (out : Outcome) (failed : out ≠ .returned true) :
      Cleaning name [(.hardwareState name .inactive, out)] false
  | left (out : Outcome) :
      Cleaning name [(.hardwareState name .inactive, .returned true),
        (.hardwareState name .unconfigured, out)] out.ok

theorem clean_spec (name : String) :
    ∃ exchange cleaned, Cleaning name exchange cleaned ∧
      (s.clean backend name).trace = s.trace ++ exchange ∧
      (s.clean backend name).results = s.results ++ [cleaned] := by
  by_cases h : (backend s.trace (.hardwareState name .inactive)).ok = true
  · refine ⟨_, _, .left (backend (s.trace ++ [(.hardwareState name .inactive, .returned true)])
      (.hardwareState name .unconfigured)), ?_, ?_⟩
    · simp [clean, call, record, Outcome.ok_iff.1 h, Outcome.ok]
    · simp [clean, call, record, Outcome.ok_iff.1 h, Outcome.ok]
  · have hkept := mt Outcome.ok_iff.2 h
    refine ⟨_, _, .kept _ hkept, ?_, ?_⟩
    · simp [clean, call, record, h]
    · simp [clean, call, record, h]

theorem cleanAll_spec (names : List String) :
    ∃ exchanges : List (Trace × Bool),
      List.Forall₂ (fun name e => Cleaning name e.1 e.2) names exchanges ∧
      (names.foldl (fun s name => s.clean backend name) s).trace =
        s.trace ++ (exchanges.map Prod.fst).flatten ∧
      (names.foldl (fun s name => s.clean backend name) s).results =
        s.results ++ exchanges.map Prod.snd := by
  induction names generalizing s with
  | nil => exact ⟨[], .nil, by simp, by simp⟩
  | cons name names ih =>
    obtain ⟨exchange, cleaned, hclean, htrace, hresults⟩ := s.clean_spec backend name
    obtain ⟨exchanges, hall, htraces, hresultss⟩ := ih (s.clean backend name)
    refine ⟨(exchange, cleaned) :: exchanges, .cons hclean hall, ?_, ?_⟩
    · rw [List.foldl_cons, htraces, htrace, List.append_assoc, List.map_cons, List.flatten_cons]
    · rw [List.foldl_cons, hresultss, hresults, List.append_assoc, List.map_cons,
        List.singleton_append]

end Shutdown

end RobotDriver.Bringup
