import Mathlib.Data.List.Infix
import RobotDriver.ForceTorque.ForceTorqueProcessor

/-!
# The force/torque broadcaster

The lifecycle callbacks and `update` of the controller. A callback is one function of the state,
the parameters and the loaned interfaces; a pointer to an interface is a flag, since only its
presence is tested and the loaned interfaces of a bound sensor have distinct names. The texts and
limits that a rejected configuration has already overwritten are not read before the next
accepted one, so they are stored with it.
-/

namespace RobotDriver.ForceTorque

inductive CallbackReturn
  | success
  | error
  deriving DecidableEq, Repr

def kAxisCount : ℕ := 6

def configuredName (value : String) : Bool := value ≠ "" ∧ ¬"TBD".toList <:+: value.toList

/-- A name of two nonempty parts around its last slash. -/
def isFullName (name : String) : Bool :=
  let last := name.toList.reverse.takeWhile (· ≠ '/')
  '/' ∈ name.toList ∧ last ≠ [] ∧ last.length + 1 < name.toList.length

structure ForceTorqueSensor where
  valueInterfaceNames : Fin 6 → String
  auxiliaryInterfaceNames : List String
  bound : Bool := false

namespace ForceTorqueSensor

variable (sensor : ForceTorqueSensor)

def stateInterfaceNames : List String :=
  List.ofFn sensor.valueInterfaceNames ++ sensor.auxiliaryInterfaceNames

def create (valueInterfaceNames : Fin 6 → String) (auxiliaryInterfaceNames : List String) :
    Except String ForceTorqueSensor := do
  let sensor : ForceTorqueSensor := { valueInterfaceNames, auxiliaryInterfaceNames }
  require (auxiliaryInterfaceNames.length ≤ maximumAuxiliaryCount)
    "force/torque sensor supports at most six auxiliary interfaces"
  require ((∀ name ∈ sensor.stateInterfaceNames, isFullName name) ∧
      sensor.stateInterfaceNames.Nodup)
    "force/torque state interfaces must be unique full names"
  return sensor

def assignLoanedStateInterfaces (interfaces : List String) : Option ForceTorqueSensor :=
  if sensor.bound then none
  else if ∀ name ∈ sensor.stateInterfaceNames, interfaces.count name = 1 then
    some { sensor with bound := true }
  else none

def releaseInterfaces : ForceTorqueSensor := { sensor with bound := false }

def read {K : Type} (values : String → Double K) : Option (ForceTorqueSample K) :=
  if sensor.bound then
    some
      { values := fun i => values (sensor.valueInterfaceNames i)
        auxiliary := sensor.auxiliaryInterfaceNames.map values }
  else none

end ForceTorqueSensor

structure Parameters (K : Type) where
  sensorName : String
  frameId : String
  wrenchTopic : String
  rawTopic : String
  sensorStateTopic : String
  calibrationTopic : String
  diagnosticName : String
  linkInterface : String
  alStateInterface : String
  validityPolicy : String
  snapshotSource : String
  startupId : String
  valueInterfaces : List String
  auxiliaryInterfaces : List String
  scaleFactors : List (Double K)
  decimals : List ℤ
  unitCodes : List ℤ
  minimumAuxiliaryValue : ℤ
  maximumAuxiliaryValue : ℤ
  calibrationValid : Bool

namespace Parameters

variable {K : Type}

def requiredStrings (p : Parameters K) : List String :=
  [p.sensorName, p.frameId, p.wrenchTopic, p.rawTopic, p.calibrationTopic, p.diagnosticName,
    p.linkInterface, p.alStateInterface, p.validityPolicy, p.snapshotSource, p.startupId]

def auxiliaryPolicy (p : Parameters K) : Except String AuxiliaryPolicy :=
  if p.validityPolicy = "all_exact_in_range" then .ok .allExactIntegersInRange
  else if p.validityPolicy = "none" then .ok .none
  else .error "unsupported force/torque validity_policy"

def checkedInt32 (value : ℤ) (name : String) : Except String ℤ := do
  require (int32Min ≤ value ∧ value ≤ int32Max) (name ++ " must fit int32")
  return value

variable [Field K] [LinearOrder K]

def doubleEpsilon : K := 1 / 2 ^ 52

def expectedScale (decimals : ℤ) : K := (10 : K) ^ (-decimals)

def unitCode (index : Fin 6) : ℤ := if index < 3 then 5 else 7

def ScaleMatches (scale : Double K) (decimals : ℤ) : Prop :=
  ∃ x, scale.toFinite = some x ∧
    |x - expectedScale decimals| ≤ doubleEpsilon * expectedScale decimals * 8

instance (scale : Double K) (decimals : ℤ) : Decidable (ScaleMatches scale decimals) :=
  match h : scale.toFinite with
  | none => .isFalse fun ⟨x, hx, _⟩ => by rw [h] at hx; cases hx
  | some x =>
    if hle : |x - expectedScale decimals| ≤ doubleEpsilon * expectedScale decimals * 8 then
      .isTrue ⟨x, h, hle⟩
    else .isFalse fun ⟨y, hy, hle'⟩ => by
      rw [h] at hy
      cases hy
      exact hle hle'

variable (p : Parameters K)

def scale (i : Fin 6) : Double K := p.scaleFactors.getD i .nan

def checkMetadata : Except String Unit :=
  if p.calibrationValid then do
    require (p.snapshotSource = "preop_sdo" ∨ p.snapshotSource = "fixed_protocol")
      "valid calibration requires an approved snapshot source"
    require (p.decimals.length = kAxisCount ∧ p.unitCodes.length = kAxisCount)
      "valid calibration requires six decimals and unit codes"
    (List.finRange 6).forM fun i => do
      require (0 ≤ p.decimals.getD i 0 ∧ p.decimals.getD i 0 ≤ 10 ∧
          p.unitCodes.getD i 0 = unitCode i)
        "invalid force/torque engineering-unit metadata"
      require (ScaleMatches (p.scale i) (p.decimals.getD i 0))
        "scale_factors do not match calibration decimals"
  else
    require ((p.decimals = [] ∨ p.decimals.length = kAxisCount) ∧
        (p.unitCodes = [] ∨ p.unitCodes.length = kAxisCount))
      "partial force/torque metadata is not allowed"

/-- The checks of `on_configure` before the startup id is stored. -/
def candidate : Except String (ForceTorqueSensor × ForceTorqueProcessorConfig K) := do
  require (p.sensorStateTopic = "" ∨ configuredName p.sensorStateTopic)
    "sensor_state_topic must be explicit when enabled"
  require (∀ value ∈ p.requiredStrings, configuredName value)
    "force/torque string parameters must be explicit"
  require (p.valueInterfaces.length = kAxisCount)
    "force/torque value_interfaces must contain six names"
  let sensor ← ForceTorqueSensor.create (fun i => p.valueInterfaces.getD i "")
    p.auxiliaryInterfaces
  require (p.linkInterface ≠ p.alStateInterface ∧
      p.linkInterface ∉ sensor.stateInterfaceNames ∧
      p.alStateInterface ∉ sensor.stateInterfaceNames)
    "force/torque link and AL interfaces must be unique"
  require (p.scaleFactors.length = kAxisCount)
    "force/torque scale_factors must contain six values"
  let auxiliaryPolicy ← p.auxiliaryPolicy
  let minimumAuxiliaryValue ← checkedInt32 p.minimumAuxiliaryValue "minimum_auxiliary_value"
  let maximumAuxiliaryValue ← checkedInt32 p.maximumAuxiliaryValue "maximum_auxiliary_value"
  p.checkMetadata
  return (sensor,
    { scaleFactors := p.scale
      auxiliaryPolicy
      auxiliaryCount := p.auxiliaryInterfaces.length
      minimumAuxiliaryValue
      maximumAuxiliaryValue
      calibrationValid := false })

end Parameters

structure ForceTorqueBroadcaster (K : Type) [Zero K] where
  sensor : Option ForceTorqueSensor := none
  processor : Option (ForceTorqueProcessor K) := none
  linkInterface : Bool := false
  alStateInterface : Bool := false
  linkInterfaceName : String := ""
  alStateInterfaceName : String := ""
  startupId : String := ""
  snapshotSource : String := ""
  decimals : List ℤ := []
  unitCodes : List ℤ := []
  calibrationValid : Bool := false
  sensorStatePublisher : Bool := false
  active : Bool := false
  startupInvalidated : Bool := false

/-- The messages of one update. -/
structure Publications (K : Type) where
  raw : Option (Fin 6 → ℤ) := none
  sensorState : Option (List (Double K)) := none
  wrench : Option (Fin 6 → Double K) := none

/-- The values of the loaned interfaces in one update, and the publishers found unlocked. -/
structure Cycle (K : Type) where
  values : String → Double K
  rawLock : Bool := true
  sensorStateLock : Bool := true
  wrenchLock : Bool := true

namespace ForceTorqueBroadcaster

section Lifecycle

variable {K : Type} [Zero K] (s : ForceTorqueBroadcaster K)

def clearRuntimeResources : ForceTorqueBroadcaster K :=
  { s with
    sensor := none
    processor := none
    linkInterface := false
    alStateInterface := false
    sensorStatePublisher := false
    calibrationValid := false
    decimals := []
    unitCodes := [] }

def storeStartupId (startupId : String) : ForceTorqueBroadcaster K :=
  if s.startupId ≠ startupId then { s with startupId, startupInvalidated := false } else s

def releaseAll : ForceTorqueBroadcaster K :=
  { s with
    sensor := s.sensor.map ForceTorqueSensor.releaseInterfaces
    linkInterface := false
    alStateInterface := false }

/-- The pointers set by the loop over the loaned interfaces; `false` for an early return. -/
def bindInterfaces : List String → ForceTorqueBroadcaster K → ForceTorqueBroadcaster K × Bool
  | [], s => (s, true)
  | name :: names, s =>
    if name = s.linkInterfaceName && s.linkInterface then
      ({ s with
        sensor := s.sensor.map ForceTorqueSensor.releaseInterfaces
        linkInterface := false }, false)
    else
      let s := if name = s.linkInterfaceName then { s with linkInterface := true } else s
      if name = s.alStateInterfaceName && s.alStateInterface then
        ({ s with
          sensor := s.sensor.map ForceTorqueSensor.releaseInterfaces
          alStateInterface := false }, false)
      else
        let s := if name = s.alStateInterfaceName then { s with alStateInterface := true } else s
        bindInterfaces names s

def onActivate (stateInterfaces : List String) : ForceTorqueBroadcaster K × CallbackReturn :=
  match s.sensor, s.processor with
  | some sensor, some _ =>
    if s.active then (s, .error)
    else
      match sensor.assignLoanedStateInterfaces stateInterfaces with
      | none => (s, .error)
      | some sensor =>
        let (s, complete) := bindInterfaces stateInterfaces { s with sensor := some sensor }
        if !complete then (s, .error)
        else if !s.linkInterface || !s.alStateInterface then (s.releaseAll, .error)
        else ({ s with active := true }, .success)
  | _, _ => (s, .error)

def onDeactivate : ForceTorqueBroadcaster K × CallbackReturn :=
  ({ s.releaseAll with active := false }, .success)

def onCleanup : ForceTorqueBroadcaster K × CallbackReturn :=
  (s.onDeactivate.1.clearRuntimeResources, .success)

def onError : ForceTorqueBroadcaster K × CallbackReturn := s.onCleanup

end Lifecycle

section Configure

variable {K : Type} [Field K] [LinearOrder K]

/-- `created` tells whether the publishers and the timer could be created. -/
def onConfigure (p : Parameters K) (created : Bool) (s : ForceTorqueBroadcaster K) :
    ForceTorqueBroadcaster K × CallbackReturn :=
  if s.active then (s, .error)
  else
    let s := s.clearRuntimeResources
    match p.candidate with
    | .error _ => (s.clearRuntimeResources, .error)
    | .ok (sensor, config) =>
      let s := s.storeStartupId p.startupId
      let calibrationValid := p.calibrationValid && !s.startupInvalidated
      match ForceTorqueProcessor.create { config with calibrationValid } with
      | .error _ => (s.clearRuntimeResources, .error)
      | .ok processor =>
        if created then
          ({ s with
            sensor := some sensor
            processor := some processor
            linkInterfaceName := p.linkInterface
            alStateInterfaceName := p.alStateInterface
            snapshotSource := p.snapshotSource
            decimals := p.decimals
            unitCodes := p.unitCodes
            calibrationValid
            sensorStatePublisher := p.sensorStateTopic ≠ "" }, .success)
        else (s.clearRuntimeResources, .error)

end Configure

section Update

variable {K : Type} [Field K] [LinearOrder K] [FloorRing K] [Scaling K]
  (s : ForceTorqueBroadcaster K) (cycle : Cycle K)

/-- What an update reads once it is past its guards. -/
def ready : Option (ForceTorqueSensor × ForceTorqueProcessor K) :=
  match s.sensor, s.processor with
  | some sensor, some processor =>
    if s.active && s.linkInterface && s.alStateInterface then some (sensor, processor) else none
  | _, _ => none

def reading : Option (ForceTorqueProcessor K × ForceTorqueSample K) :=
  s.ready.bind fun (sensor, processor) =>
    (sensor.read cycle.values).map fun sample => (processor, sample)

def linkUp : Double K := cycle.values s.linkInterfaceName

def alState : Double K := cycle.values s.alStateInterfaceName

def outcome : Option (ForceTorqueProcessor K × ForceTorqueOutcome K) :=
  (s.reading cycle).map fun (processor, sample) =>
    processor.process sample (s.linkUp cycle) (s.alState cycle)

def update : ForceTorqueBroadcaster K :=
  match s.outcome cycle with
  | none => s
  | some (processor, outcome) =>
    { s with
      processor := some processor
      startupInvalidated := s.startupInvalidated || outcome.invalidatedThisCycle }

def publications : Publications K :=
  match s.reading cycle, s.outcome cycle with
  | some (_, sample), some (_, outcome) =>
    { raw := if cycle.rawLock then outcome.raw else none
      sensorState :=
        if outcome.raw.isSome && s.sensorStatePublisher && cycle.sensorStateLock then
          some (List.ofFn sample.values ++ sample.auxiliary)
        else none
      wrench := if cycle.wrenchLock then outcome.wrench else none }
  | _, _ => {}

end Update

end ForceTorqueBroadcaster

end RobotDriver.ForceTorque
