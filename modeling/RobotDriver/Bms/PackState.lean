import RobotDriver.Lib.Double

/-!
# The decoded state of one battery pack

Every field is empty until its frame has been received, and every frame carries the time it was
received at. A pack without a fault frame reports no fault.
-/

namespace RobotDriver.Bms

structure BmsSample (K : Type*) where
  voltageV : Option (Double K) := none
  socFraction : Option (Double K) := none
  lastFrameS : Option (Double K) := none
  currentA : Option (Double K) := none
  deriving DecidableEq

structure PackState (K : Type*) where
  sample : BmsSample K := {}
  faultFrameS : Option (Double K) := none
  faultBytes : Fin 8 → UInt8 := fun _ => 0
  mosFrameS : Option (Double K) := none
  operatingStateRaw : Option UInt8 := none
  chargeMosRaw : Option UInt8 := none
  dischargeMosRaw : Option UInt8 := none
  packInfoS : Option (Double K) := none
  chargerConnectedRaw : Option UInt8 := none
  dischargeAckS : Option (Double K) := none
  dischargeAckValue : Option UInt8 := none
  cellCount : Option UInt8 := none
  cellExtremesS : Option (Double K) := none
  maxCellVoltageV : Option (Double K) := none
  minCellVoltageV : Option (Double K) := none
  temperatureFrameS : Option (Double K) := none
  maxCellTemperatureC : Option (Double K) := none
  minCellTemperatureC : Option (Double K) := none
  cellVoltageV : Fin 48 → Option (Double K) := fun _ => none
  cellFrameS : Fin 16 → Option (Double K) := fun _ => none

variable {K : Type*} [Field K] [LinearOrder K]

def freshTime (stamp : Option (Double K)) (now timeout : Double K) : Bool :=
  match stamp with
  | none => false
  | some stamp =>
    stamp.isFinite && now.isFinite && timeout.isFinite && decide ((Double.finite 0).Lt timeout) &&
      decide ((Double.finite 0).Le (now.sub stamp)) && decide ((now.sub stamp).Le timeout)

namespace BmsSample

def isFresh (sample : BmsSample K) (now timeout : Double K) : Bool :=
  freshTime sample.lastFrameS now timeout

end BmsSample

namespace PackState

variable (pack : PackState K)

def faultMask (index : Fin 8) : UInt8 :=
  if index = 3 then 0x0F else if index = 6 then 0x7F else 0xFF

def hasFault (pack : PackState K) : Bool :=
  pack.faultFrameS.isSome && decide (∃ index, pack.faultBytes index &&& faultMask index ≠ 0)

theorem row_lt (cell : Fin 48) : cell.val / 3 < 16 := by omega

def cellsFresh (now timeout : Double K) : Bool :=
  match pack.cellCount with
  | none => false
  | some count =>
    decide (count ≠ 0) && decide (count ≤ 48) &&
      decide (∀ index : Fin 48, index.val < count.toNat →
        (pack.cellVoltageV index).isSome = true ∧
          freshTime (pack.cellFrameS ⟨index.val / 3, row_lt index⟩) now timeout = true)

end PackState

end RobotDriver.Bms
