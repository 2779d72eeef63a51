import RobotDriver.EnableManager.Access

/-!
# Enable, disable and reset services and the worker

Each handler is a program counter with, for every position, the access made there and the
position reached next. `next` reads the world before the access. A handler returns to `idle`
with its answer.
-/

namespace RobotDriver.EnableManager

section SwitchJtc

/-- `switchJtc`, from its entry to the value it returns. -/
inductive SwitchPc
  | claim
  | checkService
  | queryBefore
  | await (request : SwitchRequest)
  | queryAfter
  | release (result : SwitchResult)
  | returned (result : SwitchResult)
  deriving DecidableEq, Repr

namespace SwitchPc

def access (cfg : Config) (env : Environment) (p : Protocol) : SwitchPc → Access
  | .claim => if cfg.enableOnly || p.switchInProgress then .load else .claimSwitch
  | .await request => env.reply.access request
  | .release _ => .releaseSwitch
  | _ => .load

def plan (cfg : Config) (target : ControlMode) (states : List ControllerState) : SwitchPc :=
  match cfg.buildControllerSwitchRequest states target with
  | none => .release .failed
  | some request =>
    if request.activateControllers = [] ∧ request.deactivateControllers = [] then
      .release (if cfg.controllerStateMatches states target then .success else .failed)
    else .await request

def next (cfg : Config) (target : ControlMode) (env : Environment) (w : World) :
    SwitchPc → SwitchPc
  | .claim =>
    if cfg.enableOnly then .returned .success
    else if w.protocol.switchInProgress then .returned .ambiguous
    else .checkService
  | .checkService => if env.available then .queryBefore else .release .ambiguous
  | .queryBefore => if env.answered then plan cfg target w.controllers else .release .ambiguous
  | .await _ =>
    match env.reply with
    | .accepted => .queryAfter
    | .rejected => .release .failed
    | .timedOut _ => .release .ambiguous
  | .queryAfter =>
    .release (if env.answered && cfg.controllerStateMatches w.controllers target then .success
      else .ambiguous)
  | .release result => .returned result
  | .returned result => .returned result

theorem isSwitch_access (cfg : Config) (env : Environment) (p : Protocol) (pc : SwitchPc) :
    (pc.access cfg env p).isSwitch := by
  unfold access
  split
  · split <;> rfl
  · exact SwitchReply.isSwitch_access _ _
  · rfl
  · rfl

/-- The call has not returned yet. -/
def running : SwitchPc → Bool
  | .returned _ => false
  | _ => true

theorem running_or_returned (pc : SwitchPc) : pc.running ∨ ∃ result, pc = .returned result := by
  cases pc with
  | returned result => exact .inr ⟨result, rfl⟩
  | _ => exact .inl rfl

end SwitchPc

end SwitchJtc

section Enable

inductive EnablePc
  | idle (answer : Option Result)
  | checkRestart
  | checkEnabled
  | checkIdle
  | claimOwner
  | clearResult
  | clearReady
  | raise
  | waitHardware
  | checkResult
  | checkHardware
  | setRequired
  | switching (pc : SwitchPc)
  | setEmergency
  | loadPhase (activated : Bool)
  | raiseOutcome (activated : Bool)
  | await
  | respond
  deriving DecidableEq, Repr

namespace EnablePc

def answer (ok : Bool) (stage : Stage) : EnablePc := .idle (some (.immediate ok stage))

def access (cfg : Config) (env : Environment) (p : Protocol) : EnablePc → Access
  | .claimOwner => .claimOwner .enable
  | .clearResult => .clearResult .enable
  | .clearReady => .clearHardwareReady
  | .raise => .raise .enable
  | .setRequired => .storeDeactivationRequired true
  | .switching (.returned .failed) => .storeDeactivationRequired false
  | .switching (.returned .ambiguous) => .storeRestartRequired true
  | .switching pc => pc.access cfg env p
  | .setEmergency => .requestEmergencyDeactivation
  | .raiseOutcome activated => .raiseOutcome activated
  | _ => .load

/-- The position after `phase_` was loaded to report the outcome of the activation. -/
def reportOutcome (p : Protocol) (activated : Bool) : EnablePc :=
  if p.phase = .jtcActivating then .raiseOutcome activated else .await

def next (cfg : Config) (env : Environment) (w : World) : EnablePc → EnablePc
  | .idle _ => if w.protocol.active then .checkRestart else answer false .controllerInactive
  | .checkRestart =>
    if w.protocol.restartRequired then answer false .restartRequired else .checkEnabled
  | .checkEnabled =>
    if w.protocol.phase = .enabled then answer true .alreadyEnabled else .checkIdle
  | .checkIdle =>
    if w.protocol.phase = .idle then .claimOwner else answer false .operationInProgress
  | .claimOwner =>
    if w.protocol.owner = .none then .clearResult else answer false .operationInProgress
  | .clearResult => .clearReady
  | .clearReady => .raise
  | .raise => .waitHardware
  | .waitHardware =>
    if !w.protocol.active || w.protocol.enableHardwareReady || w.protocol.enableResult.ready ||
        env.expired then .checkResult
    else .waitHardware
  | .checkResult =>
    if w.protocol.enableResult.ready then .idle (some w.protocol.enableResult.result)
    else .checkHardware
  | .checkHardware =>
    if w.protocol.enableHardwareReady then .setRequired else answer false .controllerUpdateTimeout
  | .setRequired => .switching .claim
  | .switching (.returned .success) => reportOutcome w.protocol true
  | .switching (.returned .failed) => .loadPhase false
  | .switching (.returned .ambiguous) => .setEmergency
  | .switching pc => .switching (pc.next cfg cfg.motionControllerMode env w)
  | .setEmergency => .loadPhase false
  | .loadPhase activated => reportOutcome w.protocol activated
  | .raiseOutcome _ => .await
  | .await =>
    if !w.protocol.active || w.protocol.enableResult.ready || env.expired then .respond else .await
  | .respond =>
    if w.protocol.enableResult.ready then .idle (some w.protocol.enableResult.result)
    else answer false .controllerUpdateTimeout

theorem access_switching {cfg : Config} {env : Environment} {p : Protocol} {pc : SwitchPc}
    (h : pc.running) : (EnablePc.switching pc).access cfg env p = pc.access cfg env p := by
  cases pc <;> first | rfl | exact absurd h (by simp [SwitchPc.running])

theorem next_switching {cfg : Config} {env : Environment} {w : World} {pc : SwitchPc}
    (h : pc.running) :
    (EnablePc.switching pc).next cfg env w =
      .switching (pc.next cfg cfg.motionControllerMode env w) := by
  cases pc <;> first | rfl | exact absurd h (by simp [SwitchPc.running])

/-- The accesses of an enable call. -/
def owns : Access → Bool
  | .claimOwner owner => owner = .enable
  | .clearResult service => service = .enable
  | .clearHardwareReady => true
  | .raise service => service = .enable
  | .storeDeactivationRequired _ => true
  | .storeRestartRequired required => required
  | .requestEmergencyDeactivation => true
  | .raiseOutcome _ => true
  | a => a.isSwitch

theorem owns_access (cfg : Config) (env : Environment) (p : Protocol) (pc : EnablePc) :
    owns (pc.access cfg env p) := by
  cases pc with
  | switching sub =>
    rcases sub.running_or_returned with hrunning | ⟨result, rfl⟩
    · rw [access_switching hrunning]
      have hswitch := sub.isSwitch_access cfg env p
      revert hswitch
      cases sub.access cfg env p <;> simp [Access.isSwitch, owns]
    · cases result <;> rfl
  | _ => rfl

end EnablePc

end Enable

section Disable

/-- The ordered disable after the owner was claimed: `handleDisable` runs it for the phase it
saw, the worker runs it for an enabled group. -/
inductive OrderedPc
  | clearResult
  | clearFailed
  | storePhase
  | switching (pc : SwitchPc)
  | setRestart
  | record
  | raise
  deriving DecidableEq, Repr

namespace OrderedPc

def access (cfg : Config) (env : Environment) (p : Protocol) : OrderedPc → Access
  | .clearResult => .clearResult .disable
  | .clearFailed => .storeDeactivateFailed false
  | .storePhase => .storePhase .jtcDeactivating
  | .switching (.returned .success) => .storeDeactivationRequired false
  | .switching (.returned _) => .storeDeactivateFailed true
  | .switching pc => pc.access cfg env p
  | .setRestart => .storeRestartRequired true
  | .record => .recordDeactivateFailure
  | .raise => .raise .disable

def next (cfg : Config) (seen : Phase) (env : Environment) (w : World) : OrderedPc → OrderedPc
  | .clearResult => .clearFailed
  | .clearFailed => if seen = .enabled then .storePhase else .raise
  | .storePhase => .switching .claim
  | .switching (.returned .success) => .raise
  | .switching (.returned _) => .setRestart
  | .switching pc => .switching (pc.next cfg .disabled env w)
  | .setRestart => .record
  | .record => .raise
  | .raise => .raise

theorem access_switching {cfg : Config} {env : Environment} {p : Protocol} {pc : SwitchPc}
    (h : pc.running) : (OrderedPc.switching pc).access cfg env p = pc.access cfg env p := by
  cases pc <;> first | rfl | exact absurd h (by simp [SwitchPc.running])

theorem next_switching {cfg : Config} {seen : Phase} {env : Environment} {w : World} {pc : SwitchPc}
    (h : pc.running) :
    (OrderedPc.switching pc).next cfg seen env w = .switching (pc.next cfg .disabled env w) := by
  cases pc <;> first | rfl | exact absurd h (by simp [SwitchPc.running])

/-- The accesses of an ordered disable. -/
def owns : Access → Bool
  | .clearResult service => service = .disable
  | .storeDeactivateFailed _ => true
  | .storePhase phase => phase = .jtcDeactivating
  | .storeDeactivationRequired required => !required
  | .storeRestartRequired required => required
  | .recordDeactivateFailure => true
  | .raise service => service = .disable
  | a => a.isSwitch

theorem owns_access (cfg : Config) (env : Environment) (p : Protocol) (pc : OrderedPc) :
    owns (pc.access cfg env p) := by
  cases pc with
  | switching sub =>
    rcases sub.running_or_returned with hrunning | ⟨result, rfl⟩
    · rw [access_switching hrunning]
      have hswitch := sub.isSwitch_access cfg env p
      revert hswitch
      cases sub.access cfg env p <;> simp [Access.isSwitch, owns]
    · cases result <;> rfl
  | _ => rfl

theorem storePhase_access {cfg : Config} {env : Environment} {p : Protocol} {pc : OrderedPc}
    {phase : Phase} (h : pc.access cfg env p = .storePhase phase) : pc = .storePhase := by
  cases pc with
  | storePhase => rfl
  | switching sub =>
    rcases sub.running_or_returned with hrunning | ⟨result, rfl⟩
    · rw [access_switching hrunning] at h
      have hswitch := sub.isSwitch_access cfg env p
      rw [h] at hswitch
      cases hswitch
    · cases result <;> cases h
  | _ => cases h

end OrderedPc

inductive DisablePc
  | idle (answer : Option Result)
  | loadPhase
  | loadOwner (seen : Phase)
  | requestAbort
  | waitMode
  | reloadOwner
  | reloadPhase (owner : Owner)
  | forceRestart
  | forceMode
  | forceRequired
  | forceEmergency
  | forceRaise
  | claimOwner (seen : Phase)
  | ordered (seen : Phase) (pc : OrderedPc)
  | await
  | respond
  deriving DecidableEq, Repr

namespace DisablePc

def answer (ok : Bool) (stage : Stage) : DisablePc := .idle (some (.immediate ok stage))

def refusesDisable (phase : Phase) : Bool :=
  phase = .startupSanitizing || phase = .emergencyQuickStop || phase = .emergencyDisable ||
    phase = .jtcActivating || phase = .disabling || phase = .rollback

def preempts (owner : Owner) (phase : Phase) : Bool :=
  (owner = .enable && (phase = .enabling || phase = .interBatchDelay)) ||
    (owner = .reset && (phase = .resetLow || phase = .resetHigh))

/-- A disable preempts a running enable or reset; any other one claims the owner first. -/
def afterOwner (owner : Owner) (seen : Phase) : DisablePc :=
  if preempts owner seen then .ordered seen .clearResult else .claimOwner seen

def access (cfg : Config) (env : Environment) (p : Protocol) : DisablePc → Access
  | .requestAbort => .storeModeAbort true
  | .forceRestart => .storeRestartRequired true
  | .forceMode => .storeMode .restartRequired
  | .forceRequired => .storeDeactivationRequired true
  | .forceEmergency => .requestEmergencyDeactivation
  | .forceRaise => .raise .disable
  | .claimOwner _ => .claimOwner .disable
  | .ordered _ pc => pc.access cfg env p
  | _ => .load

def next (cfg : Config) (env : Environment) (w : World) : DisablePc → DisablePc
  | .idle _ => if w.protocol.active then .loadPhase else answer false .controllerInactive
  | .loadPhase =>
    if w.protocol.phase = .idle then answer true .alreadyDisabled
    else if refusesDisable w.protocol.phase then answer false .operationInProgress
    else .loadOwner w.protocol.phase
  | .loadOwner seen =>
    if cfg.motionModeSwitching && w.protocol.owner = .mode then .requestAbort
    else afterOwner w.protocol.owner seen
  | .requestAbort => .waitMode
  | .waitMode =>
    if !w.protocol.active || w.protocol.owner ≠ .mode || env.expired then .reloadOwner
    else .waitMode
  | .reloadOwner => .reloadPhase w.protocol.owner
  | .reloadPhase owner =>
    if owner = .mode then .forceRestart
    else if w.protocol.phase ≠ .enabled then answer false .operationInProgress
    else afterOwner owner w.protocol.phase
  | .forceRestart => .forceMode
  | .forceMode => .forceRequired
  | .forceRequired => .forceEmergency
  | .forceEmergency => .forceRaise
  | .forceRaise => answer false .restartRequired
  | .claimOwner seen =>
    if w.protocol.owner = .none then .ordered seen .clearResult
    else answer false .operationInProgress
  | .ordered _ .raise => .await
  | .ordered seen pc => .ordered seen (pc.next cfg seen env w)
  | .await =>
    if !w.protocol.active || w.protocol.disableResult.ready || env.expired then .respond
    else .await
  | .respond =>
    if w.protocol.disableResult.ready then .idle (some w.protocol.disableResult.result)
    else answer false .controllerUpdateTimeout

/-- The accesses of a disable call. -/
def owns : Access → Bool
  | .storeModeAbort requested => requested
  | .storeMode mode => mode = .restartRequired
  | .requestEmergencyDeactivation => true
  | .storeDeactivationRequired _ => true
  | .claimOwner owner => owner = .disable
  | a => OrderedPc.owns a

theorem owns_access (cfg : Config) (env : Environment) (p : Protocol) (pc : DisablePc) :
    owns (pc.access cfg env p) := by
  cases pc with
  | ordered seen sub =>
    have hordered := sub.owns_access cfg env p
    change owns (sub.access cfg env p)
    revert hordered
    cases sub.access cfg env p <;> simp [OrderedPc.owns, owns, Access.isSwitch]
  | _ => rfl

/-- The call stores `kJtcDeactivating` in its next step. -/
def storesPhase : DisablePc → Bool
  | .ordered _ .storePhase => true
  | _ => false

theorem storesPhase_of_access {cfg : Config} {env : Environment} {p : Protocol} {pc : DisablePc}
    {phase : Phase} (h : pc.access cfg env p = .storePhase phase) : pc.storesPhase := by
  cases pc with
  | ordered seen sub => rw [OrderedPc.storePhase_access h]; rfl
  | _ => cases h

end DisablePc

end Disable

section Reset

inductive ResetPc
  | idle (answer : Option Result)
  | checkRestart
  | loadPhase
  | claimOwner
  | clearResult
  | raise
  | await
  | respond
  deriving DecidableEq, Repr

namespace ResetPc

def answer (ok : Bool) (stage : Stage) : ResetPc := .idle (some (.immediate ok stage))

def access : ResetPc → Access
  | .claimOwner => .claimOwner .reset
  | .clearResult => .clearResult .reset
  | .raise => .raise .reset
  | _ => .load

def next (env : Environment) (w : World) : ResetPc → ResetPc
  | .idle _ => if w.protocol.active then .checkRestart else answer false .controllerInactive
  | .checkRestart =>
    if w.protocol.restartRequired then answer false .restartRequired else .loadPhase
  | .loadPhase =>
    if w.protocol.phase = .idle ∨ w.protocol.phase = .failed then .claimOwner
    else answer false .operationInProgress
  | .claimOwner =>
    if w.protocol.owner = .none then .clearResult else answer false .operationInProgress
  | .clearResult => .raise
  | .raise => .await
  | .await =>
    if !w.protocol.active || w.protocol.resetResult.ready || env.expired then .respond else .await
  | .respond =>
    if w.protocol.resetResult.ready then .idle (some w.protocol.resetResult.result)
    else answer false .controllerUpdateTimeout

/-- The accesses of a reset call. -/
def owns : Access → Bool
  | .load => true
  | .claimOwner owner => owner = .reset
  | .clearResult service => service = .reset
  | .raise service => service = .reset
  | _ => false

theorem owns_access (pc : ResetPc) : owns pc.access := by
  cases pc <;> rfl

end ResetPc

end Reset

section Worker

/-- `handleNonRtFaultStop`, which runs `handleMotionFault` first. -/
inductive WorkerPc
  | idle
  | faultPhase
  | dropFault
  | claimOwner
  | takeFault
  | pendFault
  | ordered (pc : OrderedPc)
  | checkSwitch
  | takeEmergency
  | loadRequired
  | switching (pc : SwitchPc)
  deriving DecidableEq, Repr

namespace WorkerPc

def access (cfg : Config) (env : Environment) (p : Protocol) : WorkerPc → Access
  | .dropFault => .storeMotionFaultRequest false
  | .claimOwner => .claimOwner .disable
  | .takeFault => .storeMotionFaultRequest false
  | .pendFault => .pendMotionFault
  | .ordered pc => pc.access cfg env p
  | .takeEmergency => .takeEmergencyDeactivation
  | .switching (.returned .success) => .storeDeactivationRequired false
  | .switching (.returned _) => .storeRestartRequired true
  | .switching pc => pc.access cfg env p
  | _ => .load

def next (cfg : Config) (env : Environment) (w : World) : WorkerPc → WorkerPc
  | .idle => if w.protocol.motionFaultRequest then .faultPhase else .checkSwitch
  | .faultPhase => if w.protocol.phase = .enabled then .claimOwner else .dropFault
  | .dropFault => .checkSwitch
  | .claimOwner => if w.protocol.owner = .none then .takeFault else .checkSwitch
  | .takeFault => .pendFault
  | .pendFault => .ordered .clearResult
  | .ordered .raise => .checkSwitch
  | .ordered pc => .ordered (pc.next cfg .enabled env w)
  | .checkSwitch => if w.protocol.switchInProgress then .idle else .takeEmergency
  | .takeEmergency =>
    if w.protocol.emergencyJtcDeactivateRequest then .loadRequired else .idle
  | .loadRequired => if w.protocol.jtcDeactivationRequired then .switching .claim else .idle
  | .switching (.returned _) => .idle
  | .switching pc => .switching (pc.next cfg .disabled env w)

theorem access_switching {cfg : Config} {env : Environment} {p : Protocol} {pc : SwitchPc}
    (h : pc.running) : (WorkerPc.switching pc).access cfg env p = pc.access cfg env p := by
  cases pc <;> first | rfl | exact absurd h (by simp [SwitchPc.running])

theorem next_switching {cfg : Config} {env : Environment} {w : World} {pc : SwitchPc}
    (h : pc.running) :
    (WorkerPc.switching pc).next cfg env w = .switching (pc.next cfg .disabled env w) := by
  cases pc <;> first | rfl | exact absurd h (by simp [SwitchPc.running])

/-- The accesses of the worker. -/
def owns : Access → Bool
  | .storeMotionFaultRequest requested => !requested
  | .pendMotionFault => true
  | .takeEmergencyDeactivation => true
  | .claimOwner owner => owner = .disable
  | a => OrderedPc.owns a

theorem owns_access (cfg : Config) (env : Environment) (p : Protocol) (pc : WorkerPc) :
    owns (pc.access cfg env p) := by
  cases pc with
  | ordered sub =>
    have hordered := sub.owns_access cfg env p
    change owns (sub.access cfg env p)
    revert hordered
    cases sub.access cfg env p <;> simp [OrderedPc.owns, owns, Access.isSwitch]
  | switching sub =>
    rcases sub.running_or_returned with hrunning | ⟨result, rfl⟩
    · rw [access_switching hrunning]
      have hswitch := sub.isSwitch_access cfg env p
      revert hswitch
      cases sub.access cfg env p <;> simp [Access.isSwitch, owns, OrderedPc.owns]
    · cases result <;> rfl
  | _ => rfl

/-- The worker stores `kJtcDeactivating` in its next step. -/
def storesPhase : WorkerPc → Bool
  | .ordered .storePhase => true
  | _ => false

theorem storesPhase_of_access {cfg : Config} {env : Environment} {p : Protocol} {pc : WorkerPc}
    {phase : Phase} (h : pc.access cfg env p = .storePhase phase) : pc.storesPhase := by
  cases pc with
  | ordered sub => rw [OrderedPc.storePhase_access h]; rfl
  | switching sub =>
    rcases sub.running_or_returned with hrunning | ⟨result, rfl⟩
    · rw [access_switching hrunning] at h
      have hswitch := sub.isSwitch_access cfg env p
      rw [h] at hswitch
      cases hswitch
    · cases result <;> cases h
  | _ => cases h

end WorkerPc

/-- The subscription to the motion controller's fault topic. -/
inductive FaultPc
  | idle
  | store
  deriving DecidableEq, Repr

namespace FaultPc

def access : FaultPc → Access
  | .idle => .load
  | .store => .storeMotionFaultRequest true

def next (w : World) : FaultPc → FaultPc
  | .idle => if w.protocol.phase = .enabled then .store else .idle
  | .store => .idle

/-- The accesses of the fault subscription. -/
def owns : Access → Bool
  | .load => true
  | .storeMotionFaultRequest requested => requested
  | _ => false

theorem owns_access (pc : FaultPc) : owns pc.access := by
  cases pc <;> rfl

end FaultPc

end Worker

end RobotDriver.EnableManager
