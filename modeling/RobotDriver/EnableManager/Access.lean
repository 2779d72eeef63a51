import RobotDriver.EnableManager.Update

/-!
# Atomic accesses of the service threads

A service thread touches the shared state through one atomic access per step. `Access` lists the
accesses and `apply` is the effect of each; `load` stands for every access that only reads. The
controller manager applies a STRICT switch request in one access.
-/

namespace RobotDriver.EnableManager

inductive Access
  | load
  | claimOwner (owner : Owner)
  | releaseModeOwnership
  | claimSwitch
  | releaseSwitch
  | clearResult (service : Service)
  | clearHardwareReady
  | raise (service : Service)
  | raiseOutcome (activated : Bool)
  | storePhase (phase : Phase)
  | storeOwner (owner : Owner)
  | storeMode (mode : ControlMode)
  | storeRestartRequired (required : Bool)
  | storeDeactivationRequired (required : Bool)
  | storeDeactivateFailed (failed : Bool)
  | storeDriveCsp (csp : Bool)
  | storeModeAbort (requested : Bool)
  | storeMotionFaultRequest (requested : Bool)
  | pendMotionFault
  | requestEmergencyDeactivation
  | takeEmergencyDeactivation
  | recordDeactivateFailure
  | switchControllers (request : SwitchRequest)
  deriving DecidableEq, Repr

namespace Access

def apply (p : Protocol) : Access → Protocol
  | .claimOwner owner => { p with owner := if p.owner = .none then owner else p.owner }
  | .releaseModeOwnership => { p with owner := if p.owner = .mode then .none else p.owner }
  | .claimSwitch => { p with switchInProgress := true }
  | .releaseSwitch => { p with switchInProgress := false }
  | .clearResult service =>
    { p with
      enableResult := if service = .enable then p.enableResult.clear else p.enableResult
      disableResult := if service = .disable then p.disableResult.clear else p.disableResult
      resetResult := if service = .reset then p.resetResult.clear else p.resetResult }
  | .clearHardwareReady => { p with enableHardwareReady := false }
  | .raise service =>
    { p with
      enableRequest := p.enableRequest || service = .enable
      disableRequest := p.disableRequest || service = .disable
      resetRequest := p.resetRequest || service = .reset }
  | .raiseOutcome activated =>
    { p with
      jtcActivatedRequest := p.jtcActivatedRequest || activated
      jtcActivateFailedRequest := p.jtcActivateFailedRequest || !activated }
  | .storePhase phase => { p with phase := phase }
  | .storeOwner owner => { p with owner := owner }
  | .storeMode mode => { p with currentControlMode := mode }
  | .storeRestartRequired required => { p with restartRequired := required }
  | .storeDeactivationRequired required => { p with jtcDeactivationRequired := required }
  | .storeDeactivateFailed failed => { p with jtcDeactivateFailed := failed }
  | .storeDriveCsp csp => { p with driveCspRequested := csp }
  | .storeModeAbort requested => { p with modeAbortRequested := requested }
  | .storeMotionFaultRequest requested => { p with motionFaultRequest := requested }
  | .pendMotionFault => { p with motionFaultPending := true }
  | .requestEmergencyDeactivation => { p with emergencyJtcDeactivateRequest := true }
  | .takeEmergencyDeactivation => { p with emergencyJtcDeactivateRequest := false }
  | .load => p
  | .recordDeactivateFailure => p
  | .switchControllers _ => p

def applyData (cfg : Config) (d : Data) : Access → Data
  | .recordDeactivateFailure => d.recordFailure cfg .jtcDeactivateFailed none none 0
  | _ => d

def applyControllers (states : List ControllerState) : Access → List ControllerState
  | .switchControllers request => request.apply states
  | _ => states

end Access

section Switch

/-- The accesses of a controller switch; they change no member but `switch_in_progress_`. -/
def Access.isSwitch : Access → Bool
  | .load => true
  | .claimSwitch => true
  | .releaseSwitch => true
  | .switchControllers _ => true
  | _ => false

theorem Access.apply_of_isSwitch {a : Access} (h : a.isSwitch) (p : Protocol) :
    ∃ b, a.apply p = { p with switchInProgress := b } := by
  cases a <;> simp [isSwitch] at h
  · exact ⟨p.switchInProgress, rfl⟩
  · exact ⟨true, rfl⟩
  · exact ⟨false, rfl⟩
  · exact ⟨p.switchInProgress, rfl⟩

end Switch

structure World where
  controller : Controller := {}
  controllers : List ControllerState := []

namespace World

def protocol (w : World) : Protocol := w.controller.protocol

def access (cfg : Config) (w : World) (a : Access) : World :=
  ⟨⟨a.apply w.protocol, a.applyData cfg w.controller.data⟩, a.applyControllers w.controllers⟩

@[simp] theorem access_protocol (cfg : Config) (w : World) (a : Access) :
    (w.access cfg a).protocol = a.apply w.protocol := rfl

end World

/-- How a switch request ends for the client that sent it. -/
inductive SwitchReply
  | accepted
  | rejected
  | timedOut (applied : Bool)
  deriving DecidableEq, Repr

/-- What the environment decides in one step of a service thread: whether a wait has reached its
deadline, the availability and answers of the controller manager, the outcome of the standstill
check, and the requested mode. -/
structure Environment where
  expired : Bool := false
  available : Bool := true
  answered : Bool := true
  reply : SwitchReply := .accepted
  admission : ModeResult := .ok
  target : ControlMode := .disabled
  deriving DecidableEq, Repr

/-- The effect of an awaited request on the controller manager. -/
def SwitchReply.access (request : SwitchRequest) : SwitchReply → Access
  | .accepted => .switchControllers request
  | .rejected => .load
  | .timedOut true => .switchControllers request
  | .timedOut false => .load

theorem SwitchReply.isSwitch_access (request : SwitchRequest) (reply : SwitchReply) :
    (reply.access request).isSwitch := by
  rcases reply with _ | _ | (_ | _) <;> rfl

end RobotDriver.EnableManager
