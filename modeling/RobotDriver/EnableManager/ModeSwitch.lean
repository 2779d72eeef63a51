import RobotDriver.EnableManager.Access

/-!
# The mode-switch service

`handleSetMode` with `executeModeSwitch`, `switchDriveModes` and `convergeAfterUnsafeModeSwitch`.
The standstill check of the source only reads; its outcome is a choice of the environment.
-/

namespace RobotDriver.EnableManager

/-- `switchDriveModes`: the requested drive mode is stored, then the owner, the phase and the
reported modes are polled until they confirm it. -/
inductive DrivePc
  | store
  | owner
  | phase
  | display
  deriving DecidableEq, Repr

/-- `convergeAfterUnsafeModeSwitch`, one store at a time. -/
inductive ConvergePc
  | restart
  | mode
  | clearResult
  | required
  | owner
  | emergency
  | raise
  deriving DecidableEq, Repr

/-- Where `executeModeSwitch` goes once it has released the switch. -/
inductive SwitchExit
  | answer (result : ModeResult)
  | converge (restart : Bool) (result : ModeResult)
  deriving DecidableEq, Repr

/-- `executeModeSwitch`. A list argument is the answer of `ListControllers` before the switch; a
reply is `none` when the switch request timed out. -/
inductive ExecPc
  | checkAbort
  | claimSwitch
  | recheckAbort
  | queryBefore
  | checkOwner (before : List ControllerState)
  | checkPhase (before : List ControllerState)
  | checkAbortBefore (before : List ControllerState)
  | checkService (before : List ControllerState)
  | leave (before : List ControllerState) (pc : DrivePc)
  | await (request : SwitchRequest)
  | queryAfter (reply : Option Bool)
  | recheckOwner (reply : Option Bool) (observed : ModeSwitchState)
  | recheckPhase (reply : Option Bool) (observed : ModeSwitchState)
  | enter (pc : DrivePc)
  | storeMode
  | preemptRestart
  | preemptMode
  | release (exit : SwitchExit)
  | converge (restart : Bool) (result : ModeResult) (pc : ConvergePc)
  | returned (result : ModeResult)
  deriving DecidableEq, Repr

inductive ModePc
  | idle (answer : Option (ModeResult × ControlMode))
  | checkRestart (target : ControlMode)
  | loadMode (target : ControlMode)
  | loadPhase (target current : ControlMode)
  | loadOwner (target current : ControlMode)
  | clearAbort (target current : ControlMode)
  | claimOwner (target current : ControlMode)
  | validate (target current : ControlMode)
  | switching (target source : ControlMode) (pc : ExecPc)
  | releaseOwner (result : ModeResult) (current : Option ControlMode)
  | respond (result : ModeResult)
  deriving DecidableEq, Repr

/-- The value a drive-mode wait returns, or the position it goes on from. -/
inductive DriveOutcome
  | waiting (pc : DrivePc)
  | returned (confirmed : Bool)
  deriving DecidableEq, Repr

namespace DrivePc

def access (cfg : Config) (mode : ControlMode) : DrivePc → Access
  | .store =>
    if cfg.modeSwitchAxes = [] then .load else .storeDriveCsp (cfg.switchedDrivesUseCsp mode)
  | _ => .load

theorem access_store {cfg : Config} (haxes : cfg.modeSwitchAxes ≠ []) (mode : ControlMode) :
    access cfg mode .store = .storeDriveCsp (cfg.switchedDrivesUseCsp mode) := if_neg haxes

def confirmed (cfg : Config) (mode : ControlMode) (d : Data) : Bool :=
  cfg.modeSwitchAxes.all fun axis =>
    d.driveModeDisplay axis =
      if cfg.switchedDrivesUseCsp mode then cspMode else cfg.expectedMode axis

def next (cfg : Config) (mode : ControlMode) (env : Environment) (w : World) :
    DrivePc → DriveOutcome
  | .store => if cfg.modeSwitchAxes = [] then .returned true else .waiting .owner
  | .owner =>
    if env.expired || w.protocol.owner ≠ .mode then .returned false else .waiting .phase
  | .phase => if w.protocol.phase ≠ .enabled then .returned false else .waiting .display
  | .display =>
    if confirmed cfg mode w.controller.data then .returned true else .waiting .owner

end DrivePc

namespace ConvergePc

def access (restart : Bool) : ConvergePc → Access
  | .restart => .storeRestartRequired restart
  | .mode => .storeMode (if restart then .restartRequired else .disabled)
  | .clearResult => .clearResult .disable
  | .required => .storeDeactivationRequired true
  | .owner => .storeOwner .disable
  | .emergency => .requestEmergencyDeactivation
  | .raise => .raise .disable

/-- `none` once every store has been made. -/
def next (restart : Bool) : ConvergePc → Option ConvergePc
  | .restart => some .mode
  | .mode => some .clearResult
  | .clearResult => some .required
  | .required => some .owner
  | .owner => some (if restart then .emergency else .raise)
  | .emergency => some .raise
  | .raise => none

end ConvergePc

namespace ExecPc

def access (cfg : Config) (target : ControlMode) (env : Environment) (p : Protocol) :
    ExecPc → Access
  | .claimSwitch => if p.switchInProgress then .load else .claimSwitch
  | .leave _ pc => pc.access cfg target
  | .await request => env.reply.access request
  | .enter pc => pc.access cfg target
  | .storeMode => .storeMode target
  | .preemptRestart => .storeRestartRequired true
  | .preemptMode => .storeMode .restartRequired
  | .release _ => .releaseSwitch
  | .converge restart _ pc => pc.access restart
  | _ => .load

def unsafeExit : ExecPc := .release (.converge true .restartRequired)

def plan (cfg : Config) (target : ControlMode) (before : List ControllerState) : ExecPc :=
  match cfg.buildControllerSwitchRequest before target with
  | none => unsafeExit
  | some request => .await request

def afterSwitch (cfg : Config) (target : ControlMode) (reply : Option Bool)
    (observed : ModeSwitchState) : ExecPc :=
  match reply with
  | none => unsafeExit
  | some ok =>
    if ok ∧ observed = .targetActive then
      if cfg.switchedDrivesUseCsp target then .enter .store else .storeMode
    else if !ok ∧ observed = .sourcePreserved then .release (.answer .switchRejected)
    else if observed = .allInactive then .release (.converge false .switchRejected)
    else unsafeExit

def replyOf : SwitchReply → Option Bool
  | .accepted => some true
  | .rejected => some false
  | .timedOut _ => none

def next (cfg : Config) (target source : ControlMode) (env : Environment) (w : World) :
    ExecPc → ExecPc
  | .checkAbort => if w.protocol.modeAbortRequested then .returned .notReady else .claimSwitch
  | .claimSwitch => if w.protocol.switchInProgress then .returned .notReady else .recheckAbort
  | .recheckAbort =>
    if w.protocol.modeAbortRequested then .release (.answer .notReady) else .queryBefore
  | .queryBefore => if env.answered then .checkOwner w.controllers else unsafeExit
  | .checkOwner before =>
    if w.protocol.owner ≠ .mode then .preemptRestart else .checkPhase before
  | .checkPhase before =>
    if w.protocol.phase ≠ .enabled then .preemptRestart
    else if cfg.detectControlMode before ≠ source then unsafeExit
    else .checkAbortBefore before
  | .checkAbortBefore before =>
    if w.protocol.modeAbortRequested then .release (.answer .notReady) else .checkService before
  | .checkService before =>
    if !env.available then unsafeExit
    else if cfg.switchedDrivesUseCsp source ∧ !cfg.switchedDrivesUseCsp target then
      .leave before .store
    else plan cfg target before
  | .leave before pc =>
    match pc.next cfg target env w with
    | .waiting pc => .leave before pc
    | .returned true => plan cfg target before
    | .returned false => .release (.converge false .driveModeTimeout)
  | .await _ => .queryAfter (replyOf env.reply)
  | .queryAfter reply =>
    if env.answered then
      .recheckOwner reply (cfg.classifyModeSwitchState w.controllers source target)
    else unsafeExit
  | .recheckOwner reply observed =>
    if w.protocol.owner ≠ .mode then .preemptRestart else .recheckPhase reply observed
  | .recheckPhase reply observed =>
    if w.protocol.phase ≠ .enabled then .preemptRestart
    else afterSwitch cfg target reply observed
  | .enter pc =>
    match pc.next cfg target env w with
    | .waiting pc => .enter pc
    | .returned true => .storeMode
    | .returned false => .release (.converge false .driveModeTimeout)
  | .storeMode => .release (.answer .ok)
  | .preemptRestart => .preemptMode
  | .preemptMode => .release (.answer .restartRequired)
  | .release (.answer result) => .returned result
  | .release (.converge restart result) => .converge restart result .restart
  | .converge restart result pc =>
    match pc.next restart with
    | some pc => .converge restart result pc
    | none => .returned result
  | .returned result => .returned result

end ExecPc

namespace ModePc

def access (cfg : Config) (env : Environment) (p : Protocol) : ModePc → Access
  | .clearAbort _ _ => .storeModeAbort false
  | .claimOwner _ _ => .claimOwner .mode
  | .switching target _ pc => pc.access cfg target env p
  | .releaseOwner _ _ => .releaseModeOwnership
  | _ => .load

def answer (result : ModeResult) (mode : ControlMode) : ModePc := .idle (some (result, mode))

/-- The modes a request may name: the trajectory mode and the group's alternate mode. -/
def requestable (cfg : Config) (target : ControlMode) : Bool :=
  target = .fjtReady ||
    target = if cfg.rollingMotionController = "" then .velocityReady else .rollingReady

def next (cfg : Config) (env : Environment) (w : World) : ModePc → ModePc
  | .idle _ => if w.protocol.active then .checkRestart env.target else answer .notEnabled .disabled
  | .checkRestart target =>
    if w.protocol.restartRequired then answer .restartRequired .restartRequired
    else .loadMode target
  | .loadMode target => .loadPhase target w.protocol.currentControlMode
  | .loadPhase target current =>
    if w.protocol.phase ≠ .enabled then
      answer (if w.protocol.phase = .idle then .notEnabled else .notReady) current
    else if !requestable cfg target then answer .wrongMode current
    else .loadOwner target current
  | .loadOwner target current =>
    if w.protocol.owner ≠ .none then answer .notReady current
    else if target = current then answer .ok current
    else .clearAbort target current
  | .clearAbort target current => .claimOwner target current
  | .claimOwner target current =>
    if w.protocol.owner = .none then .validate target current else answer .notReady current
  | .validate target current =>
    if env.admission = .ok then .switching target current .checkAbort
    else .releaseOwner env.admission (some current)
  | .switching _ _ (.returned result) => .releaseOwner result none
  | .switching target source pc => .switching target source (pc.next cfg target source env w)
  | .releaseOwner result (some current) => answer result current
  | .releaseOwner result none => .respond result
  | .respond result => answer result w.protocol.currentControlMode

/-- The accesses of a mode request. -/
def owns : Access → Bool
  | .claimOwner owner => owner = .mode
  | .releaseModeOwnership => true
  | .storeModeAbort requested => !requested
  | .storeDriveCsp _ => true
  | .storeMode _ => true
  | .storeRestartRequired _ => true
  | .clearResult service => service = .disable
  | .storeDeactivationRequired required => required
  | .storeOwner owner => owner = .disable
  | .requestEmergencyDeactivation => true
  | .raise service => service = .disable
  | a => a.isSwitch

theorem owns_driveAccess (cfg : Config) (mode : ControlMode) (pc : DrivePc) :
    owns (pc.access cfg mode) := by
  cases pc with
  | store =>
    simp only [DrivePc.access]
    split <;> rfl
  | _ => rfl

theorem owns_access (cfg : Config) (env : Environment) (p : Protocol) (pc : ModePc) :
    owns (pc.access cfg env p) := by
  cases pc with
  | switching target source sub =>
    cases sub with
    | claimSwitch =>
      simp only [access, ExecPc.access]
      split <;> rfl
    | leave before drive | enter drive => exact owns_driveAccess cfg target drive
    | await request =>
      have hswitch := SwitchReply.isSwitch_access request env.reply
      change owns (env.reply.access request)
      revert hswitch
      cases env.reply.access request <;> simp [Access.isSwitch, owns]
    | converge restart result sub => cases sub <;> rfl
    | _ => rfl
  | _ => rfl

end ModePc

end RobotDriver.EnableManager
