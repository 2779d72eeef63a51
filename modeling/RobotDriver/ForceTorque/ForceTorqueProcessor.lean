import RobotDriver.Lib.Double
import RobotDriver.Lib.Fallible

/-!
# The force/torque processor

One sample of the sensor becomes six raw integers and, while the calibration may be used, a
wrench. A processor that has seen the sensor in operation latches its departure. A value whose
validity flag is false is never read, so flag and value are one `Option` here.
-/

namespace RobotDriver.ForceTorque

variable {K : Type*}

/-- The product of a raw value and a scale factor, which may overflow. -/
class Scaling (K : Type*) where
  scaled : ℤ → Double K → Double K

inductive AuxiliaryPolicy
  | none
  | allExactIntegersInRange
  deriving DecidableEq, Repr

def maximumAuxiliaryCount : ℕ := 6

structure ForceTorqueSample (K : Type*) where
  values : Fin 6 → Double K
  auxiliary : List (Double K)

structure ForceTorqueProcessorConfig (K : Type*) where
  scaleFactors : Fin 6 → Double K
  auxiliaryPolicy : AuxiliaryPolicy
  auxiliaryCount : ℕ
  minimumAuxiliaryValue : ℤ
  maximumAuxiliaryValue : ℤ
  calibrationValid : Bool

structure ForceTorqueOutcome (K : Type*) where
  raw : Option (Fin 6 → ℤ)
  wrench : Option (Fin 6 → Double K)
  runtimeInvalidated : Bool
  invalidatedThisCycle : Bool

def int32Min : ℤ := -2 ^ 31

def int32Max : ℤ := 2 ^ 31 - 1

section Exact

variable [Field K] [LinearOrder K] [FloorRing K]

def trunc (x : K) : ℤ := if 0 ≤ x then ⌊x⌋ else ⌈x⌉

def exactInt32 : Double K → Option ℤ
  | .finite x =>
    if x < int32Min ∨ int32Max < x ∨ (trunc x : K) ≠ x then none else some (trunc x)
  | _ => none

theorem exactInt32_spec [IsStrictOrderedRing K] {value : Double K} {n : ℤ}
    (h : exactInt32 value = some n) :
    value = .finite (n : K) ∧ int32Min ≤ n ∧ n ≤ int32Max := by
  cases value with
  | finite x =>
    simp only [exactInt32] at h
    split_ifs at h with hx
    push Not at hx
    obtain ⟨hmin, hmax, hexact⟩ := hx
    rw [Option.some.injEq] at h
    rw [h] at hexact
    rw [← hexact] at hmin hmax ⊢
    exact ⟨rfl, Int.cast_le.1 hmin, Int.cast_le.1 hmax⟩
  | _ => simp [exactInt32] at h

end Exact

/-- What the constructor checks. -/
structure ForceTorqueProcessorConfig.Accepted [Zero K] (config : ForceTorqueProcessorConfig K) :
    Prop where
  count : config.auxiliaryCount ≤ maximumAuxiliaryCount
  scales : ∀ i, (config.scaleFactors i).isFinite = true ∧ config.scaleFactors i ≠ .finite 0
  range : config.auxiliaryPolicy = .allExactIntegersInRange →
    config.minimumAuxiliaryValue ≤ config.maximumAuxiliaryValue

structure ForceTorqueProcessor (K : Type*) [Zero K] where
  config : ForceTorqueProcessorConfig K
  accepted : config.Accepted
  seenOperation : Bool := false
  runtimeInvalidated : Bool := false

namespace ForceTorqueProcessor

section Create

variable [Zero K] [DecidableEq K]

def create (config : ForceTorqueProcessorConfig K) : Except String (ForceTorqueProcessor K) :=
  if hcount : config.auxiliaryCount ≤ maximumAuxiliaryCount then
    if hscales : ∀ i, (config.scaleFactors i).isFinite = true ∧
        config.scaleFactors i ≠ .finite 0 then
      if hrange : config.auxiliaryPolicy = .allExactIntegersInRange →
          config.minimumAuxiliaryValue ≤ config.maximumAuxiliaryValue then
        .ok { config, accepted := ⟨hcount, hscales, hrange⟩ }
      else .error "invalid force/torque auxiliary range"
    else .error "force/torque scale factors must be finite and nonzero"
  else .error "invalid force/torque auxiliary interface count"

theorem of_create {config : ForceTorqueProcessorConfig K} {processor : ForceTorqueProcessor K}
    (h : create config = .ok processor) : processor.config = config ∧
      processor.seenOperation = false ∧ processor.runtimeInvalidated = false := by
  unfold create at h
  split_ifs at h
  rw [← Except.ok.inj h]
  exact ⟨rfl, rfl, rfl⟩

end Create

def inOperation [DecidableEq K] [One K] [OfNat K 8] (linkUp alState : Double K) : Bool :=
  linkUp = .finite 1 ∧ alState = .finite 8

section Observe

variable [Zero K]

/-- The latches after a cycle in or out of operation. -/
def observe (processor : ForceTorqueProcessor K) (operation : Bool) : ForceTorqueProcessor K :=
  if operation then { processor with seenOperation := true }
  else if processor.seenOperation then { processor with runtimeInvalidated := true }
  else processor

def invalidatedThisCycle (processor : ForceTorqueProcessor K) (operation : Bool) : Bool :=
  !operation && processor.seenOperation && !processor.runtimeInvalidated

variable (processor : ForceTorqueProcessor K) (operation : Bool)

@[simp] theorem observe_config : (processor.observe operation).config = processor.config := by
  unfold observe
  split_ifs <;> rfl

theorem observe_seenOperation :
    (processor.observe operation).seenOperation = (operation || processor.seenOperation) := by
  unfold observe
  split_ifs <;> simp_all

theorem observe_runtimeInvalidated :
    (processor.observe operation).runtimeInvalidated =
      (processor.runtimeInvalidated || processor.invalidatedThisCycle operation) := by
  unfold observe invalidatedThisCycle
  split_ifs <;> simp_all

end Observe

variable [Field K] [LinearOrder K] [FloorRing K] [Scaling K]
  (processor : ForceTorqueProcessor K) (sample : ForceTorqueSample K) (linkUp alState : Double K)

def rawValues : Option (Fin 6 → ℤ) :=
  if ∀ i, (exactInt32 (sample.values i)).isSome = true then
    some fun i => (exactInt32 (sample.values i)).getD 0
  else none

def auxiliaryReadable : Bool :=
  sample.auxiliary.all fun value => value.isFinite &&
    (processor.config.auxiliaryPolicy = .none || (exactInt32 value).isSome)

def auxiliaryEligible : Bool :=
  sample.auxiliary.all fun value => processor.config.auxiliaryPolicy = .none ||
    (exactInt32 value).any fun n => processor.config.minimumAuxiliaryValue ≤ n ∧
      n ≤ processor.config.maximumAuxiliaryValue

def raw : Option (Fin 6 → ℤ) :=
  if sample.auxiliary.length ≠ processor.config.auxiliaryCount then none
  else if processor.auxiliaryReadable sample then rawValues sample else none

def wrenchValues (raw : Fin 6 → ℤ) : Fin 6 → Double K :=
  fun i => Scaling.scaled (raw i) (processor.config.scaleFactors i)

/-- The wrench of a cycle; the latches are those of this cycle. -/
def wrench : Option (Fin 6 → Double K) :=
  (processor.raw sample).bind fun raw =>
    if !inOperation linkUp alState || processor.runtimeInvalidated ||
        !processor.config.calibrationValid || !processor.auxiliaryEligible sample then none
    else if ∀ i, (processor.wrenchValues raw i).isFinite = true then
      some (processor.wrenchValues raw)
    else none

def process : ForceTorqueProcessor K × ForceTorqueOutcome K :=
  let next := processor.observe (inOperation linkUp alState)
  (next,
    { raw := next.raw sample
      wrench := next.wrench sample linkUp alState
      runtimeInvalidated := next.runtimeInvalidated
      invalidatedThisCycle := processor.invalidatedThisCycle (inOperation linkUp alState) })

/-- What the sample and the latches of a cycle with a wrench are like. -/
structure Measures (processor : ForceTorqueProcessor K) (sample : ForceTorqueSample K)
    (linkUp alState : Double K) : Prop where
  link : linkUp = .finite 1
  operational : alState = .finite 8
  calibrated : processor.config.calibrationValid = true
  current : processor.runtimeInvalidated = false
  exact : ∀ i, ∃ n : ℤ, sample.values i = .finite (n : K) ∧ int32Min ≤ n ∧ n ≤ int32Max
  finite : ∀ value ∈ sample.auxiliary, value.isFinite = true
  eligible : processor.config.auxiliaryPolicy = .allExactIntegersInRange →
    ∀ value ∈ sample.auxiliary, ∃ n : ℤ, value = .finite (n : K) ∧
      processor.config.minimumAuxiliaryValue ≤ n ∧ n ≤ processor.config.maximumAuxiliaryValue

variable {processor sample linkUp alState}

omit [LinearOrder K] [FloorRing K] [Scaling K] in
theorem Measures.of_observe {operation : Bool}
    (h : (processor.observe operation).Measures sample linkUp alState) :
    processor.Measures sample linkUp alState := by
  have hcurrent := h.current
  rw [observe_runtimeInvalidated, Bool.or_eq_false_iff] at hcurrent
  have hconfig := processor.observe_config operation
  have hcalibrated := h.calibrated
  have heligible := h.eligible
  rw [hconfig] at hcalibrated heligible
  exact ⟨h.link, h.operational, hcalibrated, hcurrent.1, h.exact, h.finite, heligible⟩

omit [Scaling K] in
theorem exact_of_rawValues [IsStrictOrderedRing K] {raw : Fin 6 → ℤ}
    (h : rawValues sample = some raw) (i : Fin 6) :
    sample.values i = .finite (raw i : K) ∧ int32Min ≤ raw i ∧ raw i ≤ int32Max := by
  unfold rawValues at h
  split_ifs at h with hexact
  rw [← Option.some.inj h]
  obtain ⟨n, hn⟩ := Option.isSome_iff_exists.1 (hexact i)
  have hspec := exactInt32_spec hn
  simpa only [hn, Option.getD_some] using hspec

theorem measures_of_wrench [IsStrictOrderedRing K]
    (h : (processor.wrench sample linkUp alState).isSome = true) :
    processor.Measures sample linkUp alState := by
  obtain ⟨values, hvalues⟩ := Option.isSome_iff_exists.1 h
  obtain ⟨raw, hraw, hwrench⟩ := Option.bind_eq_some_iff.1 hvalues
  split_ifs at hwrench with hblocked
  simp only [Bool.or_eq_true, Bool.not_eq_true', not_or, Bool.not_eq_false] at hblocked
  obtain ⟨⟨⟨hoperation, hcurrent⟩, hcalibrated⟩, heligible⟩ := hblocked
  obtain ⟨hlink, hal⟩ : linkUp = .finite 1 ∧ alState = .finite 8 := by
    simpa [inOperation] using hoperation
  unfold ForceTorqueProcessor.raw at hraw
  split_ifs at hraw with hlength hreadable
  rw [auxiliaryReadable, List.all_eq_true] at hreadable
  rw [auxiliaryEligible, List.all_eq_true] at heligible
  refine ⟨hlink, hal, hcalibrated, by simpa using hcurrent,
    fun i => ⟨raw i, exact_of_rawValues hraw i⟩, ?_, ?_⟩
  · intro value hvalue
    have hfinite := hreadable value hvalue
    rw [Bool.and_eq_true] at hfinite
    exact hfinite.1
  · intro hpolicy value hvalue
    have hinRange := heligible value hvalue
    simp only [hpolicy, reduceCtorEq, decide_false, Bool.false_or] at hinRange
    obtain ⟨n, hn, hrange⟩ := (Option.any_eq_true _ _).1 hinRange
    exact ⟨n, (exactInt32_spec hn).1, by simpa using hrange⟩

end ForceTorqueProcessor

end RobotDriver.ForceTorque
