import RobotDriver.Bms.Isolation

/-!
# The relay commands of the battery node

The node publishes what the controller's action asks for, and between the actions it repeats the
closing command while the relay reports closed in one of the phases that hold it. Once the relay
has been ordered open, the phases that wait for the loads or for the primary pack hold it too.
-/

namespace RobotDriver.Bms

open LabelledRun

structure NodeOutputs where
  relayCommands : List Bool := []
  loadsStopRequests : List Bool := []
  primaryDischarge : List Bool := []
  secondaryDischarge : List Bool := []
  deriving DecidableEq, Repr

namespace DischargePhase

/-- The phases in which a closed relay is kept closed whatever has faulted. -/
def holdsRelay : DischargePhase → Bool
  | observingSecondary | running | stoppingLoads | stoppingSecondary | stoppingPrimary
  | awaitingIsolationPolicy => true
  | _ => false

end DischargePhase

namespace BmsNode

def holdRelay (action : DischargeAction) (phase : DischargePhase) (relayClosed : Option Bool)
    (secondaryFaulted : Bool) : Bool :=
  decide (action ≠ .openRelay) &&
    (phase = .waitingForRelayClosed ||
      relayClosed = some true &&
        (phase.holdsRelay || phase = .faultLatched && !secondaryFaulted))

def outputs (hold : Bool) (action : DischargeAction) : NodeOutputs :=
  let held := if hold then [true] else []
  match action with
  | .none => { relayCommands := held }
  | .stopLoads => { relayCommands := held, loadsStopRequests := [true] }
  | .enableSecondary => { relayCommands := held, secondaryDischarge := [true] }
  | .disableSecondary => { relayCommands := held, secondaryDischarge := [false] }
  | .disablePrimary => { relayCommands := held, primaryDischarge := [false] }
  | .closeRelay => { relayCommands := held ++ [true] }
  | .openRelay => { relayCommands := held ++ [false] }

theorem mem_outputs_false (hold : Bool) (action : DischargeAction) :
    false ∈ (outputs hold action).relayCommands ↔ action = .openRelay := by
  cases action <;> cases hold <;> simp [outputs]

theorem mem_outputs_true (hold : Bool) (action : DischargeAction) :
    true ∈ (outputs hold action).relayCommands ↔ hold = true ∨ action = .closeRelay := by
  cases action <;> cases hold <;> simp [outputs]

end BmsNode

namespace DualBatteryController

variable {K : Type*} [Field K] [LinearOrder K] (c : DualBatteryController K)
  (inputs : DischargeInputs K)

def holds : Bool :=
  BmsNode.holdRelay (c.action inputs) (c.step inputs).phase inputs.relayClosed
    (c.step inputs).secondaryFault

def updateDischargeControl : DualBatteryController K × NodeOutputs :=
  (c.step inputs, BmsNode.outputs (c.holds inputs) (c.action inputs))

def publishes (value : Bool) : Prop := value ∈ (c.updateDischargeControl inputs).2.relayCommands

instance (value : Bool) : Decidable (c.publishes inputs value) :=
  inferInstanceAs (Decidable (_ ∈ _))

def nodeStep : DualBatteryController K := (c.updateDischargeControl inputs).1

/-- With the relay ordered open and its feedback at closed, the tick goes on in a phase that holds
the relay: it waits for the loads again or turns to the primary pack. -/
def returnsToHold : Bool :=
  c.openOrdered && inputs.relayClosed = some true &&
    match c.phase with
    | .openingRelay =>
      inputs.nowS.isFinite && c.commandExpired inputs && c.primaryFaultKnown inputs &&
        !c.primaryIsolationAttempted
    | .faultLatched =>
      inputs.nowS.isFinite && c.primaryFaultKnown inputs && !c.primaryIsolationAttempted
    | .stoppingLoads =>
      !inputs.nowS.isFinite || !c.settings.loadsSafeToSwitch inputs ||
        c.primaryFaultKnown inputs && !c.primaryIsolationAttempted
    | .stoppingPrimary => !inputs.nowS.isFinite || c.mosOffAwaited inputs inputs.primary
    | _ => false

variable {c inputs}

variable (inputs) in
theorem assess_primaryIsolationDue (h : c.phase.isolating = true) :
    (c.assess inputs).primaryIsolationDue =
      (c.primaryFaultKnown inputs && !c.primaryIsolationAttempted) := by
  rw [primaryIsolationDue, assess_primaryFault_of_isolating h, assess_primaryIsolationAttempted]

theorem LatchInv.ordered (hc : c.LatchInv) (h : c.openOrdered = true) :
    c.secondaryIsolationAttempted = true ∧ c.secondaryFault = true ∧
      c.phase.isolating = true ∧ c.phase ≠ .awaitingIsolationPolicy ∧
      c.phase ≠ .stoppingSecondary := by
  simp only [openOrdered, Bool.and_eq_true, Bool.not_eq_true', decide_eq_false_iff_not] at h
  obtain ⟨hfault, hpolicy⟩ := hc.secondaryAttempted h.1
  exact ⟨h.1, hfault, hc.faulted.2 (.inr hfault), hpolicy, h.2⟩

theorem publishes_iff_of_not_finite (hc : c.LatchInv) (h : c.openOrdered = true)
    (hfinite : inputs.nowS.isFinite = false) :
    c.publishes inputs true ↔ c.returnsToHold inputs = true := by
  obtain ⟨-, -, hisolating, hpolicy, hsecondary⟩ := hc.ordered h
  have hphase : (c.latchFault true true).phase = c.phase :=
    latchFault_phase_of_isolating hisolating true true
  have hfault : (c.latchFault true true).secondaryFault = true := Bool.or_true _
  rw [publishes, updateDischargeControl, BmsNode.mem_outputs_true, holds, step, action,
    update_of_not_finite hfinite, hphase, hfault, returnsToHold, h, hfinite]
  cases hcase : c.phase <;>
    simp_all [BmsNode.holdRelay, DischargePhase.holdsRelay, DischargePhase.isolating]

theorem assess_mosOffAwaited (c : DualBatteryController K) (inputs : DischargeInputs K)
    (pack : PackState K) :
    (c.assess inputs).mosOffAwaited inputs pack = c.mosOffAwaited inputs pack := by
  simp only [mosOffAwaited, mosOffConfirmed, commandPending, assess_commandS, assess_settings]

theorem assess_relayOpeningOver_of_closed (hclosed : inputs.relayClosed = some true) :
    (c.assess inputs).relayOpeningOver inputs = c.commandExpired inputs := by
  simp [relayOpeningOver, DischargeSettings.relayReports, hclosed, commandExpired]

theorem holdRelay_iff_of_isolates (hc : c.LatchInv) (h : c.openOrdered = true)
    (hclosed : inputs.relayClosed = some true) (hfinite : inputs.nowS.isFinite = true)
    {c' : DualBatteryController K} {action : DischargeAction}
    (hstep : (c.assess inputs).Isolates inputs c' action) :
    BmsNode.holdRelay action c'.phase inputs.relayClosed c'.secondaryFault = true ↔
      c.returnsToHold inputs = true := by
  obtain ⟨hattempted, hfault, hisolating, hpolicy, hsecondary⟩ := hc.ordered h
  have hphase := assess_phase_of_isolating hisolating inputs
  have hrest : (c.assess inputs).secondaryIsolationDue = false := by
    simp [secondaryIsolationDue, hattempted]
  have hlatched : (c.assess inputs).secondaryFault = true := by
    rw [assess_secondaryFault, hfault, Bool.true_or]
  have hdue := assess_primaryIsolationDue inputs hisolating
  rw [returnsToHold, h, hclosed, hfinite]
  cases hstep with
  | waitForLoads phase load =>
    rw [hphase, assess_mosOffAwaited] at phase
    rw [assess_settings] at load
    rcases phase with phase | phase | ⟨phase, awaited⟩
    · simp [BmsNode.holdRelay, hphase, phase, load, DischargePhase.holdsRelay]
    · exact absurd phase hsecondary
    · simp [BmsNode.holdRelay, hphase, phase, awaited, DischargePhase.holdsRelay]
  | startSecondary phase load due =>
    rw [hrest] at due
    contradiction
  | startPrimary phase load rest due =>
    rw [hphase] at phase
    rw [hdue] at due
    simp [BmsNode.holdRelay, stopPrimary, phase, due, DischargePhase.holdsRelay]
  | nothingDue phase load rest due =>
    rw [hphase] at phase
    rw [hdue] at due
    rw [assess_settings] at load
    simp [BmsNode.holdRelay, phase, due, load, hlatched, DischargePhase.holdsRelay]
  | retrySecondary phase | openRelay phase =>
    rw [hphase] at phase
    exact absurd phase hsecondary
  | keepOpening phase ended =>
    rw [hphase] at phase
    rw [assess_relayOpeningOver_of_closed hclosed] at ended
    simp [BmsNode.holdRelay, phase, ended]
  | handOver phase ended due =>
    rw [hphase] at phase
    rw [assess_relayOpeningOver_of_closed hclosed] at ended
    rw [hdue, Bool.and_eq_true] at due
    simp [BmsNode.holdRelay, stopPrimary, phase, ended, due.1, due.2, DischargePhase.holdsRelay]
  | relayOpened phase ended due =>
    rw [hphase] at phase
    rw [hdue] at due
    simp [BmsNode.holdRelay, phase, Bool.and_assoc, due, hlatched, DischargePhase.holdsRelay]
  | retryPrimary phase load awaited =>
    rw [assess_mosOffAwaited] at awaited
    rw [hphase] at phase
    simp [BmsNode.holdRelay, hphase, phase, awaited, DischargePhase.holdsRelay]
  | primaryOff phase awaited =>
    rw [assess_mosOffAwaited] at awaited
    rw [hphase] at phase
    simp [BmsNode.holdRelay, phase, awaited, hlatched, DischargePhase.holdsRelay]
  | reenter phase due =>
    rw [hphase] at phase
    rw [hrest, Bool.or_false, hdue] at due
    simp [BmsNode.holdRelay, phase, due, DischargePhase.holdsRelay]
  | hold phase due rest =>
    rw [hphase] at phase
    rw [hdue] at due
    simp [BmsNode.holdRelay, phase, due, hlatched]
  | policy phase =>
    rw [hphase] at phase
    exact absurd phase hpolicy

theorem publishes_iff (hc : c.LatchInv) (h : c.openOrdered = true) :
    c.publishes inputs true ↔ c.returnsToHold inputs = true := by
  cases hfinite : inputs.nowS.isFinite with
  | false => exact publishes_iff_of_not_finite hc h hfinite
  | true =>
    obtain ⟨-, -, hisolating, hpolicy, -⟩ := hc.ordered h
    have hstays := isolating_step hisolating inputs
    have hjoins : c.action inputs ≠ .closeRelay := by
      intro haction
      simp [haction, DischargeAction.joins] at hstays
    rw [publishes, updateDischargeControl, BmsNode.mem_outputs_true, or_iff_left hjoins]
    by_cases hclosed : inputs.relayClosed = some true
    · exact holdRelay_iff_of_isolates hc h hclosed hfinite
        (isolates_update hfinite hisolating hpolicy)
    · have hwaiting : (c.step inputs).phase ≠ .waitingForRelayClosed := by
        intro hphase
        simp [hphase, DischargePhase.isolating] at hstays
      simp [holds, BmsNode.holdRelay, returnsToHold, hclosed, hwaiting]

/-- In every run of the node, the relay is never commanded closed after it was commanded open,
exactly when no tick after the opening returns to a phase that holds a relay reported closed. -/
theorem relay_never_reclosed_iff
    (settings : { settings : DischargeSettings K // settings.accepted = true })
    (run : List (DischargeInputs K)) :
    NeverAfter nodeStep (fun c inputs => c.publishes inputs false)
        (fun c inputs => c.publishes inputs true) (start settings) run ↔
      Along nodeStep (fun c inputs => ¬c.returnsToHold inputs = true) (start settings) run := by
  have hinv : ∀ (c : DualBatteryController K) inputs, c.LatchInv → (c.nodeStep inputs).LatchInv :=
    fun c inputs hc => hc.step inputs
  have hflag : ∀ (c : DualBatteryController K) inputs, c.LatchInv →
      ((c.nodeStep inputs).openOrdered = true ↔
        c.openOrdered = true ∨ c.publishes inputs false) := by
    intro c inputs hc
    rw [publishes, updateDischargeControl, BmsNode.mem_outputs_false]
    exact openOrdered_step hc inputs
  rw [@neverAfter_iff_along _ _ _ _ _ (fun c => c.openOrdered = true) _ hinv hflag _
    (latchInv_start settings) nofun run]
  refine along_congr (along_of_invariant hinv (fun c inputs hc => ?_) (latchInv_start settings) run)
  by_cases h : c.openOrdered = true
  · rw [publishes_iff hc h]
    exact ⟨fun himp => himp h, fun hnot _ => hnot⟩
  · simp [returnsToHold, h]

end DualBatteryController

namespace Bench

def openingTick : DischargeInputs ℚ :=
  inputsFor (faulted (healthyPack 4 1)) (faulted (healthyPack 4 0)) true 4

/-- The relay sticks at closed until its command has timed out. -/
def stuckTick : DischargeInputs ℚ :=
  inputsFor (faulted (healthyPack 4 1)) (faulted (healthyPack 4 0)) true 5

theorem stuck_relay_is_reclosed :
    ¬NeverAfter DualBatteryController.nodeStep (fun c inputs => c.publishes inputs false)
      (fun c inputs => c.publishes inputs true) (DualBatteryController.start settings)
      (joinRun ++ [faultTick 3, openingTick, stuckTick]) := by
  intro hnever
  exact hnever (joinRun ++ [faultTick 3]) openingTick [] stuckTick [] rfl (by decide +kernel)
    (by decide +kernel)

end Bench

end RobotDriver.Bms
