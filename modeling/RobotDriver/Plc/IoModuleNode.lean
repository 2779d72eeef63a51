import Mathlib.Data.UInt
import RobotDriver.Lib.Double
import RobotDriver.Modbus.Client

/-!
# The PLC bridge

`IoModuleNode` polls the coils, the infrared input and the two pressure registers, and sets a coil
on request. Each request may be answered with any bytes or fail; the answer may depend on all
requests made before it in the same callback. The parameters are those checked at the start.
-/

namespace RobotDriver.Plc

/-- The rounding of a pressure to the width of its field, which may overflow. -/
class FloatCast (K : Type*) where
  toFloat : K → Double K

inductive Function where
  | readCoils
  | readDiscreteInputs
  | readInputRegisters
  | writeSingleCoil
  deriving DecidableEq

def Function.code : Function → ℕ
  | .readCoils => 0x01
  | .readDiscreteInputs => 0x02
  | .readInputRegisters => 0x04
  | .writeSingleCoil => 0x05

def coilOn : UInt16 := 0xFF00

def coilOff : UInt16 := 0x0000

def coilValue (enabled : Bool) : UInt16 := if enabled then coilOn else coilOff

/-- `value` is the count for reads and the written value for writes. -/
structure Request where
  function : Function
  address : UInt16
  value : UInt16
  deriving DecidableEq

/-- A reply is any bytes; a failure is a device exception or a transport error. -/
abbrev Answer := Except String (List UInt8)

abbrev Trace := List (Request × Answer)

/-- The modules answer a request as they like, whatever was asked before. -/
abbrev Line := Trace → Request → Answer

inductive Output where
  | pump
  | leftValve
  | rightValve
  deriving DecidableEq

def Output.parameter : Output → String
  | .pump => "digital.outputs.vacuum_pump_relay.do_address"
  | .leftValve => "digital.outputs.left_vacuum_valve.do_address"
  | .rightValve => "digital.outputs.right_vacuum_valve.do_address"

def Output.service : Output → String
  | .pump => "/rt/vacuum/pump/set_enabled"
  | .leftValve => "/rt/vacuum/left_valve/set_enabled"
  | .rightValve => "/rt/vacuum/right_valve/set_enabled"

structure PressureConfig (K : Type*) where
  channel : String
  sensorId : String
  register : ℤ
  rawAtZeroKpa : K
  rawAtFullScale : K
  fullScaleKpa : K
  validRawMin : ℤ
  validRawMax : ℤ

def readIntegerParameter (name : String) (value minimum maximum : ℤ) : Except String ℤ :=
  if value < minimum ∨ maximum < value then .error (name ++ " out of range") else .ok value

section Pressure

variable {K : Type} [LinearOrder K]

/-- The checks of `read_pressure_config`; the parameters of the conversion are finite. -/
def readPressureConfig (config : PressureConfig K) : Except String (PressureConfig K) := do
  let entry := "analog.inputs." ++ config.channel ++ "_vacuum_sensor"
  let _ ← readIntegerParameter (entry ++ ".register") config.register 0 65535
  let _ ← readIntegerParameter (entry ++ ".valid_raw_min") config.validRawMin 0 65535
  let _ ← readIntegerParameter (entry ++ ".valid_raw_max") config.validRawMax 0 65535
  if config.sensorId = "" ∨ config.rawAtFullScale ≤ config.rawAtZeroKpa ∨
      config.validRawMax < config.validRawMin then
    throw (entry ++ " conversion parameters are invalid")
  return config

end Pressure

/-- The parameters, as `validate_parameters` has let them through. -/
structure Config (K : Type) [LinearOrder K] where
  vacuumConfigured : Bool
  infraredConfigured : Bool
  infraredAddress : ℤ
  address : Output → ℤ
  left : PressureConfig K
  right : PressureConfig K
  addresses_mem : vacuumConfigured = true → ∀ output, 0 ≤ address output ∧ address output ≤ 65535
  addresses_ne : vacuumConfigured = true → Function.Injective address
  left_valid : vacuumConfigured = true → readPressureConfig left = .ok left
  right_valid : vacuumConfigured = true → readPressureConfig right = .ok right
  registers_ne : vacuumConfigured = true → left.register ≠ right.register

structure PressureSample (K : Type*) where
  stampSec : ℤ := 0
  stampNanosec : ℤ := 0
  raw : UInt16 := 0
  pressureKpa : Double K := .nan
  valid : Bool := false
  error : String := ""

/-- The cached coils, their validity, the samples and the two error texts. -/
structure IoModuleNode (K : Type*) where
  digitalFresh : Bool := false
  analogConnected : Bool := false
  outputValid : Output → Bool := fun _ => false
  outputOn : Output → Bool := fun _ => false
  leftPressure : PressureSample K := {}
  rightPressure : PressureSample K := {}
  digitalError : String := ""
  analogError : String := ""

structure PlcIoState (K : Type*) where
  hardwareConfigured : Bool
  connected : Bool
  dataFresh : Bool
  outputValid : Output → Bool
  outputOn : Output → Bool
  leftPressureSensorId : String
  leftPressure : PressureSample K
  rightPressureSensorId : String
  rightPressure : PressureSample K
  ioAlarm : ℕ
  error : String

inductive ErrorCode where
  | success
  | notReady
  | rtPossibleLoadHeld
  | rtPlcUnavailable
  deriving DecidableEq

inductive Severity where
  | ok
  | fault
  deriving DecidableEq

structure ErrorInfo where
  code : ErrorCode
  message : String
  retryable : Bool
  severity : Severity
  source : String
  detail : String
  deriving DecidableEq

def fillError (code : ErrorCode) (message : String) (retryable : Bool) : ErrorInfo where
  code
  message
  retryable
  severity := if code = .success then .ok else .fault
  source := "rt_control"
  detail := ""

structure Response where
  accepted : Bool
  enabled : Bool
  error : ErrorInfo

/-- What a callback has done on the line, and the readback of its coil if it came to that. -/
structure Session where
  trace : Trace := []
  writeMayHaveOccurred : Bool := false
  readback : Option Bool := none

/-- A part of a callback that talks to the modules and may throw. -/
abbrev Io := ExceptT String (StateM Session)

section Line

variable (line : Line)

def request (function : Function) (address value : UInt16) : Io (List UInt8) := fun s =>
  let r : Request := ⟨function, address, value⟩
  let context := "FC=" ++ toString function.code ++ " address=" ++ toString address ++
    " value/count=" ++ toString value ++ ": "
  ((line s.trace r).mapError (context ++ ·), { s with trace := s.trace ++ [(r, line s.trace r)] })

/-- The bit a single-bit reply carries, if it is one. -/
def singleBit (reply : List UInt8) : Option Bool :=
  if reply.length ≠ 3 ∨ reply.getD 1 0 ≠ 1 then none else some (reply.getD 2 0 &&& 1 ≠ 0)

def readSingleBit (function : Function) (address : UInt16) : Io Bool := do
  let reply ← request line function address 1
  match singleBit reply with
  | none => throw "invalid single-bit response"
  | some bit => return bit

def toAddress (value : ℤ) : UInt16 := value.toNat.toUInt16

variable {K : Type} [LinearOrder K] (config : Config K)

def readAddress (output : Output) : Except String UInt16 :=
  toAddress <$> readIntegerParameter output.parameter (config.address output) 0 65535

def readOutput (output : Output) : Io Bool := do
  let address ← readAddress config output
  readSingleBit line .readCoils address

end Line

section Command

variable {K : Type} [Field K] [LinearOrder K] (line : Line) (config : Config K)
  (node : IoModuleNode K)

def releasedKpa : K := -1

/-- A valid sample of at least -1 kPa. -/
def PressureSample.released (sample : PressureSample K) : Bool :=
  sample.valid && !decide (Double.Lt sample.pressureKpa (.finite releasedKpa))

/-- Why an ordinary pump stop is refused, or empty: a held box would drop. -/
def pumpStopBlocker : Io String := do
  if (← readOutput line config .leftValve) then return "a vacuum valve is still on"
  if (← readOutput line config .rightValve) then return "a vacuum valve is still on"
  if !node.leftPressure.released || !node.rightPressure.released then
    return "a pressure is invalid or below -1 kPa"
  return ""

/-- The echo repeats the address and the value. -/
def writeCoil (address value : UInt16) : Io Unit := do
  let reply ← request line .writeSingleCoil address value
  if reply.length ≠ 5 ∨ Modbus.readUint16Be reply 1 ≠ address ∨
      Modbus.readUint16Be reply 3 ≠ value then
    throw "coil write echo mismatch"

def stopBlocker (output : Output) (enabled : Bool) : Io String :=
  if output = .pump ∧ enabled = false then pumpStopBlocker line config node else pure ""

/-- A coil that is not as asked is written; from here on its state is uncertain. -/
def setCoil (address : UInt16) (enabled : Bool) : Io Unit := do
  if (← readSingleBit line .readCoils address) ≠ enabled then
    modify fun s => { s with writeMayHaveOccurred := true }
    writeCoil line address (coilValue enabled)

def readBack (address : UInt16) (enabled : Bool) : Io Unit := do
  let state ← readSingleBit line .readCoils address
  modify fun s => { s with readback := some state }
  if state ≠ enabled then throw "coil state readback mismatch"

/-- The body of the `try` block; it returns why the command is refused, if it is. -/
def execute (output : Output) (enabled : Bool) : Io String := do
  let address ← readAddress config output
  let blocker ← stopBlocker line config node output enabled
  if blocker ≠ "" then return blocker
  setCoil line address enabled
  readBack line address enabled
  return ""

def publishPlcState : PlcIoState K where
  hardwareConfigured := config.vacuumConfigured
  connected := config.vacuumConfigured && node.digitalFresh && node.analogConnected
  dataFresh := config.vacuumConfigured && node.digitalFresh && node.analogConnected &&
    node.leftPressure.valid && node.rightPressure.valid && node.outputValid .pump &&
    node.outputValid .leftValve && node.outputValid .rightValve
  outputValid := node.outputValid
  outputOn := node.outputOn
  leftPressureSensorId := if config.vacuumConfigured then config.left.sensorId else ""
  leftPressure := node.leftPressure
  rightPressureSensorId := if config.vacuumConfigured then config.right.sensorId else ""
  rightPressure := node.rightPressure
  ioAlarm := 0
  error :=
    if node.analogError = "" then node.digitalError
    else if node.digitalError = "" then node.analogError
    else node.digitalError ++ "; " ++ node.analogError

/-- What a callback leaves: the node, its requests, its answer and what it publishes. -/
structure Effect (K : Type) where
  node : IoModuleNode K
  trace : Trace := []
  response : Option Response := none
  published : Option (PlcIoState K) := none

def setOutput (output : Output) (readback : Option Bool) : IoModuleNode K :=
  match readback with
  | none => node
  | some state => { node with outputOn := Function.update node.outputOn output state }

def onOutputCommand (output : Output) (enabled : Bool) : Effect K :=
  if !config.vacuumConfigured then
    { node
      response := some ⟨false, node.outputOn output,
        fillError .notReady "vacuum hardware is not configured" false⟩ }
  else
    let (result, session) := execute line config node output enabled {}
    let node := setOutput node output session.readback
    match result with
    | .ok "" =>
      let node := { node with digitalError := "" }
      { node
        trace := session.trace
        response := some ⟨true, node.outputOn output,
          fillError .success (output.service ++ if enabled then "=ON verified" else "=OFF verified")
            false⟩
        published := some (publishPlcState config node) }
    | .ok blocker =>
      { node
        trace := session.trace
        response := some ⟨false, node.outputOn output,
          fillError .rtPossibleLoadHeld ("pump stop refused: " ++ blocker) false⟩ }
    | .error error =>
      let node := { node with digitalError := error }
      let what :=
        if session.writeMayHaveOccurred then "output state unknown: " else "not executed: "
      { node
        trace := session.trace
        response := some ⟨false, node.outputOn output,
          fillError .rtPlcUnavailable (what ++ error) true⟩
        published := some (publishPlcState config node) }

end Command

section Poll

variable {K : Type} [Field K] [LinearOrder K] [FloatCast K] (line : Line) (config : Config K)
  (node : IoModuleNode K)

/-- A poll writes what it has read to the node as it goes. -/
abbrev PollIo (K : Type) := ExceptT String (StateM (Session × IoModuleNode K))

def lift {α : Type} (part : Io α) : PollIo K α := fun s =>
  ((part s.1).1, ((part s.1).2, s.2))

def update (f : IoModuleNode K → IoModuleNode K) : PollIo K Unit :=
  modify fun s => (s.1, f s.2)

def readInfrared : PollIo K Unit := do
  let address ← readIntegerParameter "digital.inputs.infrared_laser.di_address"
    config.infraredAddress 0 65535
  let _ ← lift (readSingleBit line .readDiscreteInputs (toAddress address))

def readOutputs : PollIo K Unit := do
  [Output.pump, .leftValve, .rightValve].forM fun output => do
    let state ← lift (readOutput line config output)
    update fun node => setOutput node output (some state)
  update fun node => { node with outputValid := fun _ => true }

def readDigital : PollIo K Unit := do
  if config.infraredConfigured then readInfrared line config
  if config.vacuumConfigured then readOutputs line config

def pollDigitalModule (s : Session × IoModuleNode K) : Session × IoModuleNode K :=
  if !config.infraredConfigured && !config.vacuumConfigured then
    (s.1, { s.2 with digitalError := "no digital IO capability is configured" })
  else
    match readDigital line config s with
    | (.ok _, s) => (s.1, { s.2 with digitalFresh := true, digitalError := "" })
    | (.error error, s) => (s.1, { s.2 with outputValid := fun _ => false, digitalError := error })

def readPressure (config : PressureConfig K) (now : ℤ) : Io (PressureSample K) := do
  let reply ← request line .readInputRegisters (toAddress config.register) 1
  if reply.length ≠ 4 ∨ reply.getD 1 0 ≠ 2 then
    throw ("invalid analog input response for " ++ config.channel)
  let raw := Modbus.readUint16Be reply 2
  let sample : PressureSample K :=
    { stampSec := now / 1000000000
      stampNanosec := now % 1000000000
      raw
      pressureKpa := FloatCast.toFloat (((raw.toNat : K) - config.rawAtZeroKpa) *
        config.fullScaleKpa / (config.rawAtFullScale - config.rawAtZeroKpa)) }
  if (raw.toNat : ℤ) < config.validRawMin ∨ config.validRawMax < raw.toNat then
    return { sample with error := "analog input outside configured valid range" }
  if !sample.pressureKpa.isFinite then
    return { sample with error := "vacuum pressure conversion overflow" }
  return { sample with valid := true }

def readPressures (now : ℤ) : PollIo K Unit := do
  let leftConfig ← readPressureConfig config.left
  let left ← lift (readPressure line leftConfig now)
  update fun node => { node with leftPressure := left }
  let rightConfig ← readPressureConfig config.right
  let right ← lift (readPressure line rightConfig now)
  update fun node => { node with rightPressure := right }

def pollPressureChannels (now : ℤ) (s : Session × IoModuleNode K) : Session × IoModuleNode K :=
  let s := (s.1, { s.2 with leftPressure := {}, rightPressure := {} })
  if !config.vacuumConfigured then
    (s.1, { s.2 with analogError := "vacuum hardware is not configured" })
  else
    match readPressures line config now s with
    | (.ok _, s) => (s.1, { s.2 with analogConnected := true, analogError := "" })
    | (.error error, s) => (s.1, { s.2 with analogError := error })

def pollAllInputs (now : ℤ) : Effect K :=
  let s := pollPressureChannels line config now (pollDigitalModule line config
    ({}, { node with digitalFresh := false, analogConnected := false }))
  { node := s.2, trace := s.1.trace, published := some (publishPlcState config s.2) }

end Poll

/-- The callbacks of the node, one at a time: its executor has one thread. -/
inductive Event where
  | poll (line : Line) (now : ℤ)
  | command (output : Output) (enabled : Bool) (line : Line)

def step {K : Type} [Field K] [LinearOrder K] [FloatCast K] (config : Config K)
    (node : IoModuleNode K) : Event → Effect K
  | .poll line now => pollAllInputs line config node now
  | .command output enabled line => onOutputCommand line config node output enabled

end RobotDriver.Plc
