import RobotDriver.Bms.DualBatteryController
import RobotDriver.Lib.LabelledRun

/-!
# What one update may do

An update latches on a broken clock, stays in the policy latch, enters it when the primary supply
is lost, or assesses both packs and advances its phase. A latched fault keeps the controller in the
isolation phases.
-/

namespace RobotDriver.Bms.DualBatteryController

open LabelledRun

variable {K : Type*} [Field K] [LinearOrder K] (c : DualBatteryController K)
  (inputs : DischargeInputs K)

section Assess

@[simp] theorem latchFault_settings (primary secondary : Bool) :
    (c.latchFault primary secondary).settings = c.settings := rfl

theorem latchFault_phase_of_isolating {c : DualBatteryController K} (h : c.phase.isolating = true)
    (primary secondary : Bool) : (c.latchFault primary secondary).phase = c.phase := if_pos h

theorem latchFault_isolating (primary secondary : Bool) :
    (c.latchFault primary secondary).phase.isolating = true := by
  by_cases h : c.phase.isolating = true
  · rwa [latchFault_phase_of_isolating h]
  · have hphase : (c.latchFault primary secondary).phase = .stoppingLoads := if_neg h
    rw [hphase]
    rfl

@[simp] theorem assess_settings : (c.assess inputs).settings = c.settings := by
  unfold assess detectFaults
  split <;> rfl

@[simp] theorem assess_commandS : (c.assess inputs).commandS = c.commandS := by
  unfold assess detectFaults
  split <;> rfl

@[simp] theorem assess_primaryIsolationAttempted :
    (c.assess inputs).primaryIsolationAttempted = c.primaryIsolationAttempted := by
  unfold assess detectFaults
  split <;> rfl

@[simp] theorem assess_secondaryIsolationAttempted :
    (c.assess inputs).secondaryIsolationAttempted = c.secondaryIsolationAttempted := by
  unfold assess detectFaults
  split <;> rfl

theorem assess_phase_of_isolating {c : DualBatteryController K} (h : c.phase.isolating = true)
    (inputs : DischargeInputs K) : (c.assess inputs).phase = c.phase := by
  unfold assess detectFaults
  split
  · exact latchFault_phase_of_isolating (c := c.noteHealthy inputs) h _ _
  · rfl

theorem assess_phase_of_waiting {c : DualBatteryController K} {inputs : DischargeInputs K}
    (h : (c.assess inputs).phase.isolating = false) :
    c.assess inputs = c.noteHealthy inputs ∧
      (c.noteHealthy inputs).detectsPrimaryFault inputs = false ∧
      (c.noteHealthy inputs).detectsSecondaryFault inputs = false := by
  unfold assess detectFaults at h ⊢
  split at h
  · rw [latchFault_isolating] at h
    contradiction
  · rename_i hnone
    rw [if_neg hnone]
    simpa using hnone

theorem assess_phase : (c.assess inputs).phase = c.phase ∨
    (c.assess inputs).phase = .stoppingLoads := by
  by_cases h : c.phase.isolating = true
  · exact .inl (assess_phase_of_isolating h inputs)
  · unfold assess detectFaults
    split
    · exact .inr (if_neg h)
    · exact .inl rfl

theorem assess_primaryFault : (c.assess inputs).primaryFault =
    (c.primaryFault || (c.noteHealthy inputs).detectsPrimaryFault inputs) := by
  unfold assess detectFaults
  split
  · rfl
  · rename_i hnone
    simp only [Bool.or_eq_true, not_or, Bool.not_eq_true] at hnone
    rw [hnone.1, Bool.or_false]
    rfl

theorem assess_secondaryFault : (c.assess inputs).secondaryFault =
    (c.secondaryFault || (c.noteHealthy inputs).detectsSecondaryFault inputs) := by
  unfold assess detectFaults
  split
  · rfl
  · rename_i hnone
    simp only [Bool.or_eq_true, not_or, Bool.not_eq_true] at hnone
    rw [hnone.2, Bool.or_false]
    rfl

/-- What makes a primary fault known once the controller handles a fault. -/
def primaryFaultKnown : Bool :=
  c.primaryFault || inputs.primary.hasFault ||
    (c.primaryHealthySeen && !c.settings.healthy inputs.primary inputs.nowS true)

theorem assess_primaryFault_of_isolating {c : DualBatteryController K}
    (h : c.phase.isolating = true) (inputs : DischargeInputs K) :
    (c.assess inputs).primaryFault = c.primaryFaultKnown inputs := by
  have hphase : (c.noteHealthy inputs).phase.waitingBeforeCommand = false := by
    change c.phase.waitingBeforeCommand = false
    cases hcase : c.phase <;> simp_all [DischargePhase.isolating,
      DischargePhase.waitingBeforeCommand]
  rw [assess_primaryFault, detectsPrimaryFault, hphase]
  change (c.primaryFault || (inputs.primary.hasFault ||
    ((c.primaryHealthySeen || c.settings.healthy inputs.primary inputs.nowS true) &&
      !c.settings.healthy inputs.primary inputs.nowS true))) = _
  rw [primaryFaultKnown]
  cases c.settings.healthy inputs.primary inputs.nowS true <;> simp [Bool.or_assoc]

end Assess

section Update

variable {c inputs}

theorem update_of_not_finite (h : inputs.nowS.isFinite = false) :
    c.update inputs = (c.latchFault true true, .stopLoads) := by
  unfold update
  rw [h]
  rfl

theorem update_of_awaiting (h : inputs.nowS.isFinite = true)
    (hphase : c.phase = .awaitingIsolationPolicy) : c.update inputs = (c, .stopLoads) := by
  unfold update
  rw [h, if_neg (by simp), if_pos hphase]

theorem update_of_lost (h : inputs.nowS.isFinite = true)
    (hlost : c.primarySupplyLost inputs = true) :
    (c.update inputs).2 = .stopLoads ∧
      (c.update inputs).1.phase = .awaitingIsolationPolicy ∧
      (c.update inputs).1.primaryFault = true ∧
      (c.update inputs).1.secondaryFault = c.secondaryFault ∧
      (c.update inputs).1.settings = c.settings ∧
      (c.update inputs).1.secondaryIsolationAttempted = c.secondaryIsolationAttempted ∧
      (c.update inputs).1.primaryIsolationAttempted = c.primaryIsolationAttempted := by
  have hphase : c.phase ≠ .awaitingIsolationPolicy := by
    intro hawait
    rw [primarySupplyLost, hawait] at hlost
    simp [DischargePhase.expectsPrimarySupply, DischargePhase.waitingBeforeCommand,
      DischargePhase.waitingForD9] at hlost
  unfold update
  rw [h, if_neg (by simp), if_neg hphase, if_pos hlost]
  exact ⟨rfl, rfl, rfl, rfl, rfl, rfl, rfl⟩

theorem update_of_assess (h : inputs.nowS.isFinite = true)
    (hphase : c.phase ≠ .awaitingIsolationPolicy) (hlost : c.primarySupplyLost inputs = false) :
    c.update inputs = (c.assess inputs).advance inputs := by
  unfold update
  rw [h, if_neg (by simp), if_neg hphase, if_neg (by simp [hlost])]

theorem not_lost_of_isolating (h : c.phase.isolating = true) (inputs : DischargeInputs K) :
    c.primarySupplyLost inputs = false := by
  unfold primarySupplyLost
  cases hcase : c.phase <;> simp_all [DischargePhase.isolating, DischargePhase.expectsPrimarySupply,
    DischargePhase.waitingBeforeCommand, DischargePhase.waitingForD9]

end Update

section Advance

/-- The relay has reported open or its command has timed out. -/
def relayOpeningOver : Bool :=
  c.settings.relayReports false inputs || c.commandExpired inputs

/-- The MOS of the pack is not confirmed off and its command is still within its timeout. -/
def mosOffAwaited (pack : PackState K) : Bool :=
  !c.mosOffConfirmed pack && c.commandPending inputs

/-- What the isolation phases do. -/
inductive Isolates : DualBatteryController K → DischargeAction → Prop
  | waitForLoads
      (phase : c.phase = .stoppingLoads ∨ c.phase = .stoppingSecondary ∨
        c.phase = .stoppingPrimary ∧ c.mosOffAwaited inputs inputs.primary = true)
      (load : c.settings.loadsSafeToSwitch inputs = false) : Isolates c .stopLoads
  | startSecondary (phase : c.phase = .stoppingLoads)
      (load : c.settings.loadsSafeToSwitch inputs = true)
      (due : c.secondaryIsolationDue = true) : Isolates (c.stopSecondary inputs).1 .disableSecondary
  | startPrimary (phase : c.phase = .stoppingLoads)
      (load : c.settings.loadsSafeToSwitch inputs = true)
      (rest : c.secondaryIsolationDue = false) (due : c.primaryIsolationDue = true) :
      Isolates (c.stopPrimary inputs).1 .disablePrimary
  | nothingDue (phase : c.phase = .stoppingLoads)
      (load : c.settings.loadsSafeToSwitch inputs = true)
      (rest : c.secondaryIsolationDue = false) (due : c.primaryIsolationDue = false) :
      Isolates { c with phase := .faultLatched } .none
  | retrySecondary (phase : c.phase = .stoppingSecondary)
      (load : c.settings.loadsSafeToSwitch inputs = true)
      (awaited : c.mosOffAwaited inputs inputs.secondary = true) : Isolates c .disableSecondary
  | openRelay (phase : c.phase = .stoppingSecondary)
      (load : c.settings.loadsSafeToSwitch inputs = true)
      (awaited : c.mosOffAwaited inputs inputs.secondary = false) :
      Isolates { c with phase := .openingRelay, commandS := some inputs.nowS } .openRelay
  | keepOpening (phase : c.phase = .openingRelay) (ended : c.relayOpeningOver inputs = false) :
      Isolates c .openRelay
  | handOver (phase : c.phase = .openingRelay) (ended : c.relayOpeningOver inputs = true)
      (due : c.primaryIsolationDue = true) : Isolates (c.stopPrimary inputs).1 .disablePrimary
  | relayOpened (phase : c.phase = .openingRelay) (ended : c.relayOpeningOver inputs = true)
      (due : c.primaryIsolationDue = false) : Isolates { c with phase := .faultLatched } .none
  | retryPrimary (phase : c.phase = .stoppingPrimary)
      (load : c.settings.loadsSafeToSwitch inputs = true)
      (awaited : c.mosOffAwaited inputs inputs.primary = true) : Isolates c .disablePrimary
  | primaryOff (phase : c.phase = .stoppingPrimary)
      (awaited : c.mosOffAwaited inputs inputs.primary = false) :
      Isolates { c with phase := .faultLatched } .none
  | reenter (phase : c.phase = .faultLatched)
      (due : (c.primaryIsolationDue || c.secondaryIsolationDue) = true) :
      Isolates { c with phase := .stoppingLoads } .stopLoads
  | hold (phase : c.phase = .faultLatched) (primary : c.primaryIsolationDue = false)
      (secondary : c.secondaryIsolationDue = false) :
      Isolates c (if c.secondaryFault then .openRelay else .none)
  | policy (phase : c.phase = .awaitingIsolationPolicy) : Isolates c .stopLoads

theorem isolates_stopLoads (h : c.phase = .stoppingLoads) :
    c.Isolates inputs (c.stopLoads inputs).1 (c.stopLoads inputs).2 := by
  unfold stopLoads
  cases hload : c.settings.loadsSafeToSwitch inputs with
  | false => exact .waitForLoads (.inl h) hload
  | true =>
    cases hsecondary : c.secondaryIsolationDue with
    | true => exact .startSecondary h hload hsecondary
    | false =>
      cases hprimary : c.primaryIsolationDue with
      | true => exact .startPrimary h hload hsecondary hprimary
      | false => exact .nothingDue h hload hsecondary hprimary

theorem isolates_awaitSecondaryOff (h : c.phase = .stoppingSecondary) :
    c.Isolates inputs (c.awaitSecondaryOff inputs).1 (c.awaitSecondaryOff inputs).2 := by
  have heq : c.awaitSecondaryOff inputs =
      if !c.settings.loadsSafeToSwitch inputs then (c, .stopLoads)
      else if c.mosOffAwaited inputs inputs.secondary = true then (c, .disableSecondary)
      else ({ c with phase := .openingRelay, commandS := some inputs.nowS }, .openRelay) := rfl
  rw [heq]
  cases hload : c.settings.loadsSafeToSwitch inputs with
  | false => exact .waitForLoads (.inr (.inl h)) hload
  | true =>
    cases hawaited : c.mosOffAwaited inputs inputs.secondary with
    | true => exact .retrySecondary h hload hawaited
    | false => exact .openRelay h hload hawaited

theorem isolates_awaitRelayOpen (h : c.phase = .openingRelay) :
    c.Isolates inputs (c.awaitRelayOpen inputs).1 (c.awaitRelayOpen inputs).2 := by
  have heq : c.awaitRelayOpen inputs = if c.relayOpeningOver inputs = true
      then c.finishRelayOpening inputs else (c, .openRelay) := by
    unfold awaitRelayOpen relayOpeningOver
    cases c.settings.relayReports false inputs <;> cases c.commandExpired inputs <;> rfl
  rw [heq]
  cases hover : c.relayOpeningOver inputs with
  | false => exact .keepOpening h hover
  | true =>
    unfold finishRelayOpening
    cases hdue : c.primaryIsolationDue with
    | true => exact .handOver h hover hdue
    | false => exact .relayOpened h hover hdue

theorem isolates_awaitPrimaryOff (h : c.phase = .stoppingPrimary) :
    c.Isolates inputs (c.awaitPrimaryOff inputs).1 (c.awaitPrimaryOff inputs).2 := by
  have heq : c.awaitPrimaryOff inputs = if c.mosOffAwaited inputs inputs.primary = true then
      if !c.settings.loadsSafeToSwitch inputs then (c, .stopLoads) else (c, .disablePrimary)
      else ({ c with phase := .faultLatched }, .none) := rfl
  rw [heq]
  cases hawaited : c.mosOffAwaited inputs inputs.primary with
  | false => exact .primaryOff h hawaited
  | true =>
    cases hload : c.settings.loadsSafeToSwitch inputs with
    | false => exact .waitForLoads (.inr (.inr ⟨h, hawaited⟩)) hload
    | true => exact .retryPrimary h hload hawaited

theorem isolates_holdFault (h : c.phase = .faultLatched) :
    c.Isolates inputs c.holdFault.1 c.holdFault.2 := by
  unfold holdFault
  cases hdue : c.primaryIsolationDue || c.secondaryIsolationDue with
  | true => exact .reenter h hdue
  | false =>
    rw [Bool.or_eq_false_iff] at hdue
    exact .hold h hdue.1 hdue.2

theorem isolates_advance (h : c.phase.isolating = true) :
    c.Isolates inputs (c.advance inputs).1 (c.advance inputs).2 := by
  unfold advance
  split
  case h_10 hphase => exact c.isolates_stopLoads inputs hphase
  case h_11 hphase => exact c.isolates_awaitSecondaryOff inputs hphase
  case h_12 hphase => exact c.isolates_awaitRelayOpen inputs hphase
  case h_13 hphase => exact c.isolates_awaitPrimaryOff inputs hphase
  case h_14 hphase => exact c.isolates_holdFault inputs hphase
  case h_15 hphase => exact .policy hphase
  all_goals
    rename_i hphase
    rw [hphase] at h
    cases h

/-- What the phases before a fault do: they stay before it, or latch a secondary fault. -/
structure Proceeds (c' : DualBatteryController K) (action : DischargeAction) : Prop where
  settings : c'.settings = c.settings
  primaryFault : c'.primaryFault = c.primaryFault
  primaryIsolationAttempted : c'.primaryIsolationAttempted = c.primaryIsolationAttempted
  secondaryIsolationAttempted : c'.secondaryIsolationAttempted = c.secondaryIsolationAttempted
  waits : (c'.phase.isolating = false ∧ c'.secondaryFault = c.secondaryFault) ∨
    c'.phase = .stoppingLoads ∧ c'.secondaryFault = true
  action : action = .none ∨ action = .stopLoads ∨
    c'.phase.isolating = false ∧ (action = .enableSecondary ∨ action = .closeRelay)

/-- What the phases before a fault do. -/
inductive Joins : DualBatteryController K → DischargeAction → Prop
  | stay (action : DischargeAction) (idle : action = .none ∨ action = .stopLoads)
      (other : c.phase ≠ .waitingForJoinConditions) : Joins c action
  | latch : Joins (c.latchFault false true) .stopLoads
  | relayOpenSeen (phase : c.phase = .waitingForRelayOpen) :
      Joins { c with phase := .waitingForPrimary } .none
  | primarySeen (phase : c.phase = .waitingForPrimary) :
      Joins { c with phase := .waitingForSecondary } .none
  | secondarySeen (phase : c.phase = .waitingForSecondary) :
      Joins { c with phase := .waitingForJoinConditions } .none
  | unstable (phase : c.phase = .waitingForJoinConditions) :
      Joins { c with stableSinceS := none } .none
  | stableFrom (phase : c.phase = .waitingForJoinConditions)
      (conditions : c.settings.joinConditions inputs = true) (fresh : c.stableSinceS = none) :
      Joins { c with stableSinceS := some inputs.nowS } .none
  | stillStable (phase : c.phase = .waitingForJoinConditions)
      (conditions : c.settings.joinConditions inputs = true) : Joins c .none
  | enable (phase : c.phase = .waitingForJoinConditions)
      (conditions : c.settings.joinConditions inputs = true) (since : Double K)
      (stable : c.stableSinceS = some since)
      (elapsed : ¬(inputs.nowS.sub since).Lt c.settings.stableS)
      (off : inputs.secondary.dischargeMosRaw = some c.settings.mosOffRaw) :
      Joins { c with commandS := some inputs.nowS, phase := .waitingForAck } .enableSecondary
  | closeAtOnce (phase : c.phase = .waitingForJoinConditions)
      (conditions : c.settings.joinConditions inputs = true) (since : Double K)
      (stable : c.stableSinceS = some since)
      (elapsed : ¬(inputs.nowS.sub since).Lt c.settings.stableS)
      (on : inputs.secondary.dischargeMosRaw ≠ some c.settings.mosOffRaw) :
      Joins { c with commandS := some inputs.nowS, phase := .waitingForRelayClosed } .closeRelay
  | acknowledged (phase : c.phase = .waitingForAck)
      (stamp : stampedAfter inputs.secondary.dischargeAckS c.commandS = true)
      (value : inputs.secondary.dischargeAckValue = some 1) :
      Joins { c with phase := .waitingForMos } .none
  | close (phase : c.phase = .waitingForMos)
      (stamp : stampedAfter inputs.secondary.mosFrameS c.commandS = true)
      (on : inputs.secondary.dischargeMosRaw = some c.settings.mosOnRaw) :
      Joins { c with commandS := some inputs.nowS, phase := .waitingForRelayClosed } .closeRelay
  | relayClosedSeen (phase : c.phase = .waitingForRelayClosed) :
      Joins { c with observationS := some inputs.nowS, phase := .observingSecondary } .none
  | observed (phase : c.phase = .observingSecondary) : Joins { c with phase := .running } .none

theorem joins_waitForJoinConditions (h : c.phase = .waitingForJoinConditions) :
    c.Joins inputs (c.waitForJoinConditions inputs).1 (c.waitForJoinConditions inputs).2 := by
  unfold waitForJoinConditions
  cases hconditions : c.settings.joinConditions inputs with
  | false => exact .unstable h
  | true =>
    rw [if_neg (by simp)]
    split
    · exact .stableFrom h hconditions ‹_›
    · rename_i since hsince
      split_ifs with helapsed hoff
      · exact .stillStable h hconditions
      · exact .enable h hconditions since hsince helapsed hoff
      · exact .closeAtOnce h hconditions since hsince helapsed hoff

theorem joins_waitForAck (h : c.phase = .waitingForAck) :
    c.Joins inputs (c.waitForAck inputs).1 (c.waitForAck inputs).2 := by
  unfold waitForAck
  split_ifs with hack
  · simp only [Bool.and_eq_true, decide_eq_true_eq] at hack
    exact .acknowledged h hack.1 hack.2
  · exact .latch
  · exact .stay _ (.inl rfl) (by rw [h]; nofun)

theorem joins_waitForMos (h : c.phase = .waitingForMos) :
    c.Joins inputs (c.waitForMos inputs).1 (c.waitForMos inputs).2 := by
  unfold waitForMos
  split_ifs with hmos
  · simp only [Bool.and_eq_true, decide_eq_true_eq] at hmos
    exact .close h hmos.1 hmos.2
  · exact .latch
  · exact .stay _ (.inl rfl) (by rw [h]; nofun)

theorem joins_waitForRelayClosed (h : c.phase = .waitingForRelayClosed) :
    c.Joins inputs (c.waitForRelayClosed inputs).1 (c.waitForRelayClosed inputs).2 := by
  unfold waitForRelayClosed
  split_ifs
  · exact .relayClosedSeen h
  · exact .latch
  · exact .stay _ (.inl rfl) (by rw [h]; nofun)

theorem joins_advance (h : c.phase.isolating = false) :
    c.Joins inputs (c.advance inputs).1 (c.advance inputs).2 := by
  unfold advance
  split
  case h_1 hphase =>
    split_ifs
    · exact .relayOpenSeen hphase
    · exact .latch
    · exact .stay _ (.inr rfl) (by rw [hphase]; nofun)
  case h_2 hphase =>
    split
    · exact .primarySeen hphase
    · exact .stay _ (.inl rfl) (by rw [hphase]; nofun)
  case h_3 hphase =>
    split
    · exact .secondarySeen hphase
    · exact .stay _ (.inl rfl) (by rw [hphase]; nofun)
  case h_4 hphase => exact c.joins_waitForJoinConditions inputs hphase
  case h_5 hphase => exact c.joins_waitForAck inputs hphase
  case h_6 hphase => exact c.joins_waitForMos inputs hphase
  case h_7 hphase => exact c.joins_waitForRelayClosed inputs hphase
  case h_8 hphase =>
    split
    · exact .observed hphase
    · exact .stay _ (.inl rfl) (by rw [hphase]; nofun)
  case h_9 hphase => exact .stay _ (.inl rfl) (by rw [hphase]; nofun)
  all_goals
    rename_i hphase
    rw [hphase] at h
    cases h

variable {c inputs}

theorem Joins.proceeds (h : c.phase.isolating = false) {c' : DualBatteryController K}
    {action : DischargeAction} (hstep : c.Joins inputs c' action) : c.Proceeds c' action := by
  cases hstep with
  | stay _ idle => exact ⟨rfl, rfl, rfl, rfl, .inl ⟨h, rfl⟩, by rcases idle with h | h <;> simp [h]⟩
  | latch =>
    exact ⟨rfl, Bool.or_false _, rfl, rfl, .inr ⟨if_neg (by simp [h]), Bool.or_true _⟩,
      .inr (.inl rfl)⟩
  | unstable | stableFrom | stillStable => exact ⟨rfl, rfl, rfl, rfl, .inl ⟨h, rfl⟩, .inl rfl⟩
  | enable => exact ⟨rfl, rfl, rfl, rfl, .inl ⟨rfl, rfl⟩, .inr (.inr ⟨rfl, .inl rfl⟩)⟩
  | closeAtOnce | close => exact ⟨rfl, rfl, rfl, rfl, .inl ⟨rfl, rfl⟩, .inr (.inr ⟨rfl, .inr rfl⟩)⟩
  | _ => exact ⟨rfl, rfl, rfl, rfl, .inl ⟨rfl, rfl⟩, .inl rfl⟩

variable (inputs) in
theorem proceeds_advance (h : c.phase.isolating = false) :
    c.Proceeds (c.advance inputs).1 (c.advance inputs).2 :=
  (c.joins_advance inputs h).proceeds h

end Advance

end RobotDriver.Bms.DualBatteryController

/-!
# Battery MOS commands under load

Every D9-off command is guarded by the load check of its own tick, except the one that is returned
when the opening of the relay hands over to the primary pack.
-/

namespace RobotDriver.Bms

open LabelledRun

namespace DischargeAction

def switchesMosOff : DischargeAction → Bool
  | disablePrimary | disableSecondary => true
  | _ => false

end DischargeAction

namespace DualBatteryController

variable {K : Type*} [Field K] [LinearOrder K] (c : DualBatteryController K)
  (inputs : DischargeInputs K)

def handsOver : Bool :=
  c.phase = .openingRelay && c.relayOpeningOver inputs && c.primaryIsolationDue

variable {c inputs}

theorem advance_of_handsOver (h : c.handsOver inputs = true) :
    (c.advance inputs).2 = .disablePrimary := by
  simp only [handsOver, Bool.and_eq_true, decide_eq_true_eq] at h
  obtain ⟨⟨hphase, hover⟩, hdue⟩ := h
  have hstep := c.isolates_advance inputs (by rw [hphase]; rfl)
  generalize (c.advance inputs).1 = c', (c.advance inputs).2 = action at hstep
  cases hstep <;> simp_all

theorem loadsSafe_or_handsOver (h : (c.advance inputs).2.switchesMosOff = true) :
    c.settings.loadsSafeToSwitch inputs = true ∨ c.handsOver inputs = true := by
  cases hphase : c.phase.isolating with
  | false =>
    rcases (proceeds_advance inputs hphase).action with haction | haction | ⟨_, haction⟩
    · simp [haction, DischargeAction.switchesMosOff] at h
    · simp [haction, DischargeAction.switchesMosOff] at h
    · rcases haction with haction | haction <;>
        simp [haction, DischargeAction.switchesMosOff] at h
  | true =>
    have hstep := c.isolates_advance inputs hphase
    generalize (c.advance inputs).1 = c', (c.advance inputs).2 = action at h hstep
    cases hstep with
    | startSecondary phase load | startPrimary phase load | retrySecondary phase load
    | retryPrimary phase load => exact .inl load
    | handOver phase ended due => exact .inr (by simp [handsOver, phase, ended, due])
    | hold => split at h <;> simp [DischargeAction.switchesMosOff] at h
    | _ => simp [DischargeAction.switchesMosOff] at h

variable (c inputs)

/-- The tick on which the relay opening hands over to the primary pack while the loads are not
known to be stopped at low current. -/
def handsOverUnderLoad : Bool :=
  inputs.nowS.isFinite && c.phase = .openingRelay && c.relayOpeningOver inputs &&
    c.primaryFaultKnown inputs && !c.primaryIsolationAttempted &&
    !c.settings.loadsSafeToSwitch inputs

theorem assess_relayOpeningOver :
    (c.assess inputs).relayOpeningOver inputs = c.relayOpeningOver inputs := by
  simp only [relayOpeningOver, commandExpired, assess_settings, assess_commandS]

theorem assess_handsOver (h : c.phase.isolating = true) : (c.assess inputs).handsOver inputs =
    (c.phase = .openingRelay && c.relayOpeningOver inputs && c.primaryFaultKnown inputs &&
      !c.primaryIsolationAttempted) := by
  rw [handsOver, primaryIsolationDue, assess_relayOpeningOver, assess_phase_of_isolating h,
    assess_primaryFault_of_isolating h, assess_primaryIsolationAttempted]
  simp only [Bool.and_assoc]

theorem action_safe_iff (c : DualBatteryController K) (inputs : DischargeInputs K) :
    ((c.action inputs).switchesMosOff = true → c.settings.loadsSafeToSwitch inputs = true) ↔
      ¬c.handsOverUnderLoad inputs = true := by
  constructor
  · intro hsafe hunder
    simp only [handsOverUnderLoad, Bool.and_eq_true, decide_eq_true_eq] at hunder
    obtain ⟨⟨⟨⟨⟨hfinite, hphase⟩, hover⟩, hknown⟩, hattempted⟩, hload⟩ := hunder
    have hisolating : c.phase.isolating = true := by rw [hphase]; rfl
    have hhands : (c.assess inputs).handsOver inputs = true := by
      rw [assess_handsOver c inputs hisolating]
      simp only [hphase, hover, hknown, hattempted, decide_true, Bool.and_self]
    have haction : c.action inputs = .disablePrimary := by
      rw [action, update_of_assess hfinite (by rw [hphase]; nofun)
        (not_lost_of_isolating hisolating inputs), advance_of_handsOver hhands]
    have := hsafe (by rw [haction]; rfl)
    simp [this] at hload
  · intro hunder hswitches
    by_contra hload
    cases hfinite : inputs.nowS.isFinite with
    | false =>
      rw [action, update_of_not_finite hfinite] at hswitches
      simp [DischargeAction.switchesMosOff] at hswitches
    | true =>
      by_cases hawait : c.phase = .awaitingIsolationPolicy
      · rw [action, update_of_awaiting hfinite hawait] at hswitches
        simp [DischargeAction.switchesMosOff] at hswitches
      cases hlost : c.primarySupplyLost inputs with
      | true =>
        rw [action, (update_of_lost hfinite hlost).1] at hswitches
        simp [DischargeAction.switchesMosOff] at hswitches
      | false =>
        rw [action, update_of_assess hfinite hawait hlost] at hswitches
        rcases loadsSafe_or_handsOver hswitches with hsafe | hhands
        · exact hload (by simpa using hsafe)
        · have hopening : (c.assess inputs).phase = .openingRelay := by
            simp only [handsOver, Bool.and_eq_true, decide_eq_true_eq] at hhands
            exact hhands.1.1
          have hphase : c.phase = .openingRelay := by
            rcases c.assess_phase inputs with h | h
            · rw [← h, hopening]
            · rw [hopening] at h
              contradiction
          rw [assess_handsOver c inputs (by rw [hphase]; rfl)] at hhands
          apply hunder
          simp only [Bool.and_eq_true] at hhands
          simp only [handsOverUnderLoad, hfinite, hhands, Bool.and_self, Bool.true_and,
            Bool.not_eq_true', Bool.not_eq_true] at hload ⊢
          simp [hload]

/-- In every run, the MOS of a pack is switched off only while the loads are safe to switch,
exactly when no relay opening hands over to the primary pack under load. -/
theorem switches_mos_off_safely_iff
    (settings : { settings : DischargeSettings K // settings.accepted = true })
    (run : List (DischargeInputs K)) :
    Along step (fun c inputs => (c.action inputs).switchesMosOff = true →
        c.settings.loadsSafeToSwitch inputs = true) (start settings) run ↔
      Along step (fun c inputs => ¬c.handsOverUnderLoad inputs = true) (start settings) run :=
  along_congr (along_of_invariant (P := fun _ => True) (fun _ _ _ => trivial)
    (fun c inputs _ => c.action_safe_iff inputs) trivial run)

end DualBatteryController

namespace Bench

/-- Both packs fault, the secondary is switched off, and the loads have started again when the
relay reports open. -/
def loadsReturnRun : List (DischargeInputs ℚ) :=
  joinRun ++
    [inputsFor (faulted (healthyPack 2 1)) (faulted (healthyPack 2 1)) true (5 / 2),
      inputsFor (faulted (healthyPack 2 1)) (faulted (healthyPack 3 0)) true 3,
      { inputsFor (faulted (healthyPack 2 1)) (faulted (healthyPack 3 0)) false 3 with
        loadsStopped := false }]

theorem primary_switched_off_under_load :
    ¬Along DualBatteryController.step (fun c inputs =>
      (c.action inputs).switchesMosOff = true → c.settings.loadsSafeToSwitch inputs = true)
      (DualBatteryController.start settings) loadsReturnRun := by
  decide +kernel

end Bench

end RobotDriver.Bms
