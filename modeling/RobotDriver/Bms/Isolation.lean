import Mathlib.Algebra.Order.Archimedean.Basic
import RobotDriver.Bms.FaultHandling
import RobotDriver.Lib.Progress

/-!
# Isolation of faulted packs

A latched fault is never left again. Each pack is commanded off at most once, and while the loads
stay safe to switch every wait of the isolation ends with its confirmation or its timeout, so the
controller settles with every faulted pack commanded off.
-/

namespace RobotDriver.Bms

open LabelledRun

namespace DischargePhase

/-- The phases that wait for the effect of a command. -/
def awaitsCommand : DischargePhase → Bool
  | stoppingSecondary | openingRelay | stoppingPrimary => true
  | _ => false

end DischargePhase

namespace DischargeAction

def joins : DischargeAction → Bool
  | enableSecondary | closeRelay => true
  | _ => false

end DischargeAction

namespace DualBatteryController

variable {K : Type*} [Field K] [LinearOrder K]

structure LatchInv (c : DualBatteryController K) : Prop where
  faulted : c.phase.isolating = true ↔ c.primaryFault = true ∨ c.secondaryFault = true
  primaryAttempted : c.primaryIsolationAttempted = true → c.primaryFault = true
  secondaryAttempted : c.secondaryIsolationAttempted = true →
    c.secondaryFault = true ∧ c.phase ≠ .awaitingIsolationPolicy
  secondaryPhase : c.phase = .stoppingSecondary ∨ c.phase = .openingRelay →
    c.secondaryIsolationAttempted = true
  primaryPhase : c.phase = .stoppingPrimary → c.primaryIsolationAttempted = true
  command : c.phase.awaitsCommand = true → ∃ at_, c.commandS = some (.finite at_)

variable {c : DualBatteryController K} {inputs : DischargeInputs K}

theorem latchInv_start
    (settings : { settings : DischargeSettings K // settings.accepted = true }) :
    LatchInv (start settings) where
  faulted := by simp [start, DischargePhase.isolating]
  primaryAttempted := nofun
  secondaryAttempted := nofun
  secondaryPhase := by simp [start]
  primaryPhase := nofun
  command := nofun

namespace LatchInv

theorem no_fault (h : c.LatchInv) (hphase : c.phase.isolating = false) :
    c.primaryFault = false ∧ c.secondaryFault = false ∧
      c.primaryIsolationAttempted = false ∧ c.secondaryIsolationAttempted = false := by
  have hfault := h.faulted
  rw [hphase] at hfault
  have hprimary : c.primaryFault = false := by
    by_contra hcontra
    exact absurd (hfault.2 (.inl (by simpa using hcontra))) (by simp)
  have hsecondary : c.secondaryFault = false := by
    by_contra hcontra
    exact absurd (hfault.2 (.inr (by simpa using hcontra))) (by simp)
  refine ⟨hprimary, hsecondary, ?_, ?_⟩
  · by_contra hcontra
    have := h.primaryAttempted (by simpa using hcontra)
    simp [hprimary] at this
  · by_contra hcontra
    have := (h.secondaryAttempted (by simpa using hcontra)).1
    simp [hsecondary] at this

theorem of_waiting (hphase : c.phase.isolating = false) (hprimary : c.primaryFault = false)
    (hsecondary : c.secondaryFault = false) (hattempted : c.primaryIsolationAttempted = false)
    (hattempted' : c.secondaryIsolationAttempted = false) : c.LatchInv where
  faulted := by simp [hphase, hprimary, hsecondary]
  primaryAttempted := by simp [hattempted]
  secondaryAttempted := by simp [hattempted']
  secondaryPhase := by
    rintro (h | h) <;> simp [h, DischargePhase.isolating] at hphase
  primaryPhase h := by simp [h, DischargePhase.isolating] at hphase
  command h := by
    cases hcase : c.phase <;>
      simp_all [DischargePhase.isolating, DischargePhase.awaitsCommand]

theorem of_first_fault (hphase : c.phase = .stoppingLoads ∨ c.phase = .awaitingIsolationPolicy)
    (hfault : c.primaryFault = true ∨ c.secondaryFault = true)
    (hattempted : c.primaryIsolationAttempted = false)
    (hattempted' : c.secondaryIsolationAttempted = false) : c.LatchInv where
  faulted := by rcases hphase with h | h <;> simp [h, DischargePhase.isolating, hfault]
  primaryAttempted := by simp [hattempted]
  secondaryAttempted := by simp [hattempted']
  secondaryPhase := by rcases hphase with h | h <;> simp [h]
  primaryPhase := by rcases hphase with h | h <;> simp [h]
  command := by rcases hphase with h | h <;> simp [h, DischargePhase.awaitsCommand]

theorem latchFault (h : c.LatchInv) {primary secondary : Bool}
    (hfault : (primary || secondary) = true) : (c.latchFault primary secondary).LatchInv := by
  cases hphase : c.phase.isolating with
  | false =>
    obtain ⟨hprimary, hsecondary, hattempted, hattempted'⟩ := h.no_fault hphase
    refine of_first_fault (.inl (if_neg (by simp [hphase]))) ?_ hattempted hattempted'
    change (c.primaryFault || primary) = true ∨ (c.secondaryFault || secondary) = true
    simpa [hprimary, hsecondary] using hfault
  | true =>
    have hsame : (c.latchFault primary secondary).phase = c.phase :=
      latchFault_phase_of_isolating hphase primary secondary
    refine ⟨?_, fun hattempted => ?_, fun hattempted => ?_, ?_, ?_, ?_⟩
    · rw [hsame, hphase]
      change true = true ↔ (c.primaryFault || primary) = true ∨ (c.secondaryFault || secondary) = true
      simp only [Bool.or_eq_true, true_iff] at hfault ⊢
      tauto
    · change (c.primaryFault || primary) = true
      rw [h.primaryAttempted hattempted, Bool.true_or]
    · rw [hsame]
      obtain ⟨hsecondary, hpolicy⟩ := h.secondaryAttempted hattempted
      refine ⟨?_, hpolicy⟩
      change (c.secondaryFault || secondary) = true
      rw [hsecondary, Bool.true_or]
    · rw [hsame]
      exact h.secondaryPhase
    · rw [hsame]
      exact h.primaryPhase
    · rw [hsame]
      exact h.command

theorem noteHealthy (h : c.LatchInv) (inputs : DischargeInputs K) :
    (c.noteHealthy inputs).LatchInv :=
  ⟨h.faulted, h.primaryAttempted, h.secondaryAttempted, h.secondaryPhase, h.primaryPhase, h.command⟩

theorem assess (h : c.LatchInv) (inputs : DischargeInputs K) : (c.assess inputs).LatchInv := by
  unfold DualBatteryController.assess detectFaults
  split
  · exact (h.noteHealthy inputs).latchFault ‹_›
  · exact h.noteHealthy inputs

theorem proceeds (h : c.LatchInv) (hphase : c.phase.isolating = false)
    {c' : DualBatteryController K} {action : DischargeAction} (hstep : c.Proceeds c' action) :
    c'.LatchInv := by
  obtain ⟨hprimary, hsecondary, hattempted, hattempted'⟩ := h.no_fault hphase
  rw [← hstep.primaryIsolationAttempted] at hattempted
  rw [← hstep.secondaryIsolationAttempted] at hattempted'
  rcases hstep.waits with ⟨hwaits, hsame⟩ | ⟨hstopping, hfault⟩
  · exact of_waiting hwaits (by rw [hstep.primaryFault, hprimary]) (by rw [hsame, hsecondary])
      hattempted hattempted'
  · exact of_first_fault (.inl hstopping) (.inr hfault) hattempted hattempted'

theorem isolates (h : c.LatchInv) (hfinite : inputs.nowS.isFinite = true)
    (hphase : c.phase.isolating = true) {c' : DualBatteryController K} {action : DischargeAction}
    (hstep : c.Isolates inputs c' action) : c'.LatchInv := by
  obtain ⟨now, hnow⟩ := Double.exists_of_isFinite hfinite
  have hfault := h.faulted.1 hphase
  have hmoved : ∀ phase : DischargePhase, phase = .stoppingLoads ∨ phase = .faultLatched →
      ({ c with phase := phase } : DualBatteryController K).LatchInv := by
    intro phase hcase
    refine ⟨?_, h.primaryAttempted, fun hattempted => ⟨(h.secondaryAttempted hattempted).1, ?_⟩, ?_,
      ?_, ?_⟩ <;>
    rcases hcase with rfl | rfl <;>
    simp [DischargePhase.isolating, DischargePhase.awaitsCommand, hfault]
  cases hstep with
  | startSecondary phase load due =>
    simp only [secondaryIsolationDue, Bool.and_eq_true] at due
    exact ⟨by simp [stopSecondary, DischargePhase.isolating, hfault], h.primaryAttempted,
      fun _ => ⟨due.1, by rintro ⟨⟩⟩, fun _ => rfl, by rintro ⟨⟩,
      fun _ => ⟨now, congrArg some hnow⟩⟩
  | startPrimary phase load rest due | handOver phase ended due =>
    simp only [primaryIsolationDue, Bool.and_eq_true] at due
    exact ⟨by simp [stopPrimary, DischargePhase.isolating, hfault], fun _ => due.1,
      fun hattempted => ⟨(h.secondaryAttempted hattempted).1, by rintro ⟨⟩⟩, by simp [stopPrimary],
      fun _ => rfl, fun _ => ⟨now, congrArg some hnow⟩⟩
  | openRelay phase load awaited =>
    exact ⟨by simp [DischargePhase.isolating, hfault], h.primaryAttempted,
      fun hattempted => ⟨(h.secondaryAttempted hattempted).1, by rintro ⟨⟩⟩,
      fun _ => h.secondaryPhase (.inl phase), by rintro ⟨⟩, fun _ => ⟨now, congrArg some hnow⟩⟩
  | nothingDue | relayOpened | primaryOff => exact hmoved _ (.inr rfl)
  | reenter => exact hmoved _ (.inl rfl)
  | _ => exact h

theorem step (h : c.LatchInv) (inputs : DischargeInputs K) : (c.step inputs).LatchInv := by
  unfold DualBatteryController.step
  cases hfinite : inputs.nowS.isFinite with
  | false =>
    rw [update_of_not_finite hfinite]
    exact h.latchFault rfl
  | true =>
    by_cases hawait : c.phase = .awaitingIsolationPolicy
    · rw [update_of_awaiting hfinite hawait]
      exact h
    cases hlost : c.primarySupplyLost inputs with
    | true =>
      have hphase : c.phase.isolating = false := by
        by_contra hcontra
        have := not_lost_of_isolating (by simpa using hcontra) inputs
        simp [this] at hlost
      obtain ⟨-, -, hattempted, hattempted'⟩ := h.no_fault hphase
      obtain ⟨-, hpolicy, hfault, -, -, hsame, hsame'⟩ := update_of_lost hfinite hlost
      exact of_first_fault (.inr hpolicy) (.inl hfault) (by rw [hsame', hattempted])
        (by rw [hsame, hattempted'])
    | false =>
      rw [update_of_assess hfinite hawait hlost]
      cases hphase : (c.assess inputs).phase.isolating with
      | false => exact (h.assess inputs).proceeds hphase (proceeds_advance inputs hphase)
      | true =>
        exact (h.assess inputs).isolates hfinite hphase ((c.assess inputs).isolates_advance _ hphase)

theorem run (h : c.LatchInv) (run : List (DischargeInputs K)) :
    (LabelledRun.run DualBatteryController.step c run).LatchInv :=
  invariant_all (P := LatchInv) (fun _ inputs hc => hc.step inputs) h run

end LatchInv

section Step

theorem isolates_update (hfinite : inputs.nowS.isFinite = true)
    (hphase : c.phase.isolating = true) (hawait : c.phase ≠ .awaitingIsolationPolicy) :
    (c.assess inputs).Isolates inputs (c.step inputs) (c.action inputs) := by
  rw [step, action, update_of_assess hfinite hawait (not_lost_of_isolating hphase inputs)]
  exact (c.assess inputs).isolates_advance inputs
    (by rw [assess_phase_of_isolating hphase, hphase])

theorem Isolates.stays {c' : DualBatteryController K} {action : DischargeAction}
    (hphase : c.phase.isolating = true) (h : c.Isolates inputs c' action) :
    c'.phase.isolating = true ∧ action.joins = false := by
  cases h with
  | hold => exact ⟨hphase, by split <;> rfl⟩
  | waitForLoads | retrySecondary | keepOpening | retryPrimary | policy => exact ⟨hphase, rfl⟩
  | _ => exact ⟨rfl, rfl⟩

theorem isolating_step (hphase : c.phase.isolating = true) (inputs : DischargeInputs K) :
    (c.step inputs).phase.isolating = true ∧ (c.action inputs).joins = false := by
  cases hfinite : inputs.nowS.isFinite with
  | false =>
    rw [step, action, update_of_not_finite hfinite]
    exact ⟨c.latchFault_isolating true true, rfl⟩
  | true =>
    by_cases hawait : c.phase = .awaitingIsolationPolicy
    · rw [step, action, update_of_awaiting hfinite hawait]
      exact ⟨hphase, rfl⟩
    · exact (isolates_update hfinite hphase hawait).stays
        (by rw [assess_phase_of_isolating hphase, hphase])

theorem Isolates.attempts {c' : DualBatteryController K} {action : DischargeAction}
    (h : c.Isolates inputs c' action) :
    (c'.secondaryIsolationAttempted = c.secondaryIsolationAttempted ∨
        action = .disableSecondary) ∧
      (c'.primaryIsolationAttempted = c.primaryIsolationAttempted ∨ action = .disablePrimary) := by
  cases h with
  | startSecondary => exact ⟨.inr rfl, .inl rfl⟩
  | startPrimary | handOver => exact ⟨.inl rfl, .inr rfl⟩
  | _ => exact ⟨.inl rfl, .inl rfl⟩

theorem attempts_step (c : DualBatteryController K) (inputs : DischargeInputs K) :
    ((c.step inputs).secondaryIsolationAttempted = c.secondaryIsolationAttempted ∨
        c.action inputs = .disableSecondary) ∧
      ((c.step inputs).primaryIsolationAttempted = c.primaryIsolationAttempted ∨
        c.action inputs = .disablePrimary) := by
  unfold step action
  cases hfinite : inputs.nowS.isFinite with
  | false =>
    rw [update_of_not_finite hfinite]
    exact ⟨.inl rfl, .inl rfl⟩
  | true =>
    by_cases hawait : c.phase = .awaitingIsolationPolicy
    · rw [update_of_awaiting hfinite hawait]
      exact ⟨.inl rfl, .inl rfl⟩
    cases hlost : c.primarySupplyLost inputs with
    | true =>
      obtain ⟨-, -, -, -, -, hsecondary, hprimary⟩ := update_of_lost hfinite hlost
      exact ⟨.inl hsecondary, .inl hprimary⟩
    | false =>
      rw [update_of_assess hfinite hawait hlost, ← assess_secondaryIsolationAttempted c inputs,
        ← assess_primaryIsolationAttempted c inputs]
      cases hphase : (c.assess inputs).phase.isolating with
      | false =>
        have hproceeds := proceeds_advance inputs hphase
        exact ⟨.inl hproceeds.secondaryIsolationAttempted, .inl hproceeds.primaryIsolationAttempted⟩
      | true => exact ((c.assess inputs).isolates_advance inputs hphase).attempts

/-- The relay has been ordered open. -/
def openOrdered (c : DualBatteryController K) : Bool :=
  c.secondaryIsolationAttempted && !decide (c.phase = .stoppingSecondary)

theorem openOrdered_of_not_attempted (h : c.secondaryIsolationAttempted = false) :
    c.openOrdered = false := by
  rw [openOrdered, h, Bool.false_and]

theorem LatchInv.openOrdered_congr (hc : c.LatchInv) {c' : DualBatteryController K}
    (hattempted : c'.secondaryIsolationAttempted = c.secondaryIsolationAttempted)
    (hphase : c.phase.isolating = true → c'.phase = c.phase) :
    c'.openOrdered = c.openOrdered := by
  cases hcase : c.phase.isolating with
  | true => rw [openOrdered, openOrdered, hattempted, hphase hcase]
  | false =>
    have hnot := (hc.no_fault hcase).2.2.2
    rw [openOrdered_of_not_attempted hnot, openOrdered_of_not_attempted (hattempted.trans hnot)]

theorem Isolates.openOrdered_iff (hc : c.LatchInv) {c' : DualBatteryController K}
    {action : DischargeAction} (h : c.Isolates inputs c' action) :
    c'.openOrdered = true ↔ c.openOrdered = true ∨ action = .openRelay := by
  cases h with
  | startSecondary phase load due =>
    simp only [secondaryIsolationDue, Bool.and_eq_true, Bool.not_eq_true'] at due
    simp [openOrdered, stopSecondary, due.2]
  | startPrimary phase | handOver phase => simp [openOrdered, stopPrimary, phase]
  | openRelay phase => simp [openOrdered, hc.secondaryPhase (.inl phase)]
  | keepOpening phase => simp [openOrdered, phase, hc.secondaryPhase (.inr phase)]
  | hold phase primary secondary =>
    simp only [secondaryIsolationDue, Bool.and_eq_false_iff, Bool.not_eq_false'] at secondary
    cases hfault : c.secondaryFault with
    | false => simp
    | true =>
      have hattempted : c.secondaryIsolationAttempted = true := by simpa [hfault] using secondary
      simp [openOrdered, phase, hattempted]
  | nothingDue phase | relayOpened phase | primaryOff phase | reenter phase =>
    simp [openOrdered, phase]
  | _ => simp

theorem openOrdered_step (hc : c.LatchInv) (inputs : DischargeInputs K) :
    (c.step inputs).openOrdered = true ↔
      c.openOrdered = true ∨ c.action inputs = .openRelay := by
  unfold step action
  cases hfinite : inputs.nowS.isFinite with
  | false =>
    have hsame : (c.latchFault true true).openOrdered = c.openOrdered :=
      hc.openOrdered_congr rfl fun hphase => latchFault_phase_of_isolating hphase true true
    rw [update_of_not_finite hfinite, hsame]
    simp
  | true =>
    by_cases hawait : c.phase = .awaitingIsolationPolicy
    · rw [update_of_awaiting hfinite hawait]
      simp
    cases hlost : c.primarySupplyLost inputs with
    | true =>
      obtain ⟨haction, -, -, -, -, hattempted, -⟩ := update_of_lost hfinite hlost
      have hsame : (c.update inputs).1.openOrdered = c.openOrdered :=
        hc.openOrdered_congr hattempted fun hphase => by
          rw [not_lost_of_isolating hphase inputs] at hlost
          contradiction
      rw [haction, hsame]
      simp
    | false =>
      have hsame : (c.assess inputs).openOrdered = c.openOrdered :=
        hc.openOrdered_congr (assess_secondaryIsolationAttempted c inputs)
          fun hphase => assess_phase_of_isolating hphase inputs
      rw [update_of_assess hfinite hawait hlost, ← hsame]
      cases hphase : (c.assess inputs).phase.isolating with
      | true =>
        exact ((c.assess inputs).isolates_advance inputs hphase).openOrdered_iff (hc.assess inputs)
      | false =>
        have hproceeds := proceeds_advance inputs hphase
        have hnot := ((hc.assess inputs).no_fault hphase).2.2.2
        rw [openOrdered_of_not_attempted hnot,
          openOrdered_of_not_attempted (hproceeds.secondaryIsolationAttempted.trans hnot)]
        rcases hproceeds.action with haction | haction | ⟨-, haction | haction⟩ <;> simp [haction]

@[simp] theorem step_settings (c : DualBatteryController K) (inputs : DischargeInputs K) :
    (c.step inputs).settings = c.settings := by
  unfold step
  cases hfinite : inputs.nowS.isFinite with
  | false => rw [update_of_not_finite hfinite, latchFault_settings]
  | true =>
    by_cases hawait : c.phase = .awaitingIsolationPolicy
    · rw [update_of_awaiting hfinite hawait]
    cases hlost : c.primarySupplyLost inputs with
    | true => exact (update_of_lost hfinite hlost).2.2.2.2.1
    | false =>
      rw [update_of_assess hfinite hawait hlost]
      cases hphase : (c.assess inputs).phase.isolating with
      | false => exact (proceeds_advance inputs hphase).settings.trans (assess_settings c inputs)
      | true =>
        refine Eq.trans ?_ (assess_settings c inputs)
        have hstep := (c.assess inputs).isolates_advance inputs hphase
        generalize ((c.assess inputs).advance inputs).1 = c',
          ((c.assess inputs).advance inputs).2 = action at hstep ⊢
        cases hstep <;> rfl

theorem run_settings (c : DualBatteryController K) (run : List (DischargeInputs K)) :
    (LabelledRun.run step c run).settings = c.settings :=
  invariant_all (P := fun c' : DualBatteryController K => c'.settings = c.settings)
    (fun c' inputs hc => (step_settings c' inputs).trans hc) rfl run

end Step

section Settling

/-- The fault handling is over and every latched fault has been commanded off. -/
def Settled (c : DualBatteryController K) : Prop :=
  c.phase = .faultLatched ∧ c.primaryIsolationDue = false ∧ c.secondaryIsolationDue = false

def rank (c : DualBatteryController K) : ℕ :=
  (if c.primaryIsolationAttempted then 0 else 10) +
    (if c.secondaryIsolationAttempted then 0 else 10) +
    match c.phase with
    | .stoppingSecondary => 9
    | .openingRelay => 8
    | .stoppingPrimary => 7
    | .faultLatched => 6
    | .stoppingLoads => 5
    | _ => 0

/-- The command timeouts that can still expire. -/
def timeoutsLeft (c : DualBatteryController K) : ℕ :=
  (if c.secondaryIsolationAttempted then
      if c.phase = .stoppingSecondary then 2 else if c.phase = .openingRelay then 1 else 0
    else 2) +
    if c.primaryIsolationAttempted then if c.phase = .stoppingPrimary then 1 else 0 else 1

/-- The wait of an isolation phase has lasted longer than the command timeout. -/
def timesOut (c : DualBatteryController K) (inputs : DischargeInputs K) : Bool :=
  c.phase.awaitsCommand && c.commandExpired inputs

theorem not_expired_of_pending (h : c.commandPending inputs = true) :
    c.commandExpired inputs = false := by
  unfold commandPending at h
  unfold commandExpired
  cases hcommand : c.commandS with
  | none => rfl
  | some command =>
    simp only [hcommand, Option.any_some, decide_eq_true_eq] at h
    simp only [Option.any_some, decide_eq_false_iff_not]
    exact fun hlt => hlt.2 h

theorem not_expired_of_awaited {pack : PackState K} (h : c.mosOffAwaited inputs pack = true) :
    c.commandExpired inputs = false := by
  rw [mosOffAwaited, Bool.and_eq_true] at h
  exact not_expired_of_pending h.2

theorem Isolates.progress (hc : c.LatchInv) (hphase : c.phase ≠ .awaitingIsolationPolicy)
    (hload : c.settings.loadsSafeToSwitch inputs = true) {c' : DualBatteryController K}
    {action : DischargeAction} (h : c.Isolates inputs c' action) :
    c'.Settled ∨ c'.rank < c.rank ∨
      c' = c ∧ c.phase.awaitsCommand = true ∧ c.commandExpired inputs = false := by
  cases h with
  | waitForLoads phase load =>
    rw [hload] at load
    contradiction
  | startSecondary phase load due =>
    simp only [secondaryIsolationDue, Bool.and_eq_true, Bool.not_eq_true'] at due
    refine .inr (.inl ?_)
    cases hprimary : c.primaryIsolationAttempted <;>
      simp [rank, stopSecondary, phase, due.2, hprimary]
  | startPrimary phase load rest due | handOver phase ended due =>
    simp only [primaryIsolationDue, Bool.and_eq_true, Bool.not_eq_true'] at due
    refine .inr (.inl ?_)
    cases hsecondary : c.secondaryIsolationAttempted <;>
      simp [rank, stopPrimary, phase, due.2, hsecondary]
  | nothingDue phase load rest due => exact .inl ⟨rfl, due, rest⟩
  | retrySecondary phase load awaited | retryPrimary phase load awaited =>
    exact .inr (.inr ⟨rfl, by rw [phase]; rfl, not_expired_of_awaited awaited⟩)
  | openRelay phase | primaryOff phase | reenter phase =>
    exact .inr (.inl (by simp only [rank, phase]; omega))
  | keepOpening phase ended =>
    rw [relayOpeningOver, Bool.or_eq_false_iff] at ended
    exact .inr (.inr ⟨rfl, by rw [phase]; rfl, ended.2⟩)
  | relayOpened phase ended due =>
    have hattempted := hc.secondaryPhase (.inr phase)
    exact .inl ⟨rfl, due, by simp [secondaryIsolationDue, hattempted]⟩
  | hold phase primary secondary => exact .inl ⟨phase, primary, secondary⟩
  | policy phase => exact absurd phase hphase

theorem Isolates.timeouts (hc : c.LatchInv)
    (hload : c.settings.loadsSafeToSwitch inputs = true) {c' : DualBatteryController K}
    {action : DischargeAction} (h : c.Isolates inputs c' action) :
    c'.timeoutsLeft ≤ c.timeoutsLeft ∧
      (c.timesOut inputs = true → c'.timeoutsLeft < c.timeoutsLeft) := by
  cases h with
  | waitForLoads phase load =>
    rw [hload] at load
    contradiction
  | startSecondary phase load due =>
    simp only [secondaryIsolationDue, Bool.and_eq_true, Bool.not_eq_true'] at due
    simp [timeoutsLeft, stopSecondary, timesOut, phase, due.2, DischargePhase.awaitsCommand]
  | startPrimary phase load rest due =>
    simp only [primaryIsolationDue, Bool.and_eq_true, Bool.not_eq_true'] at due
    simp [timeoutsLeft, stopPrimary, timesOut, phase, due.2, DischargePhase.awaitsCommand]
  | nothingDue phase | reenter phase =>
    simp [timeoutsLeft, timesOut, phase, DischargePhase.awaitsCommand]
  | retrySecondary phase load awaited | retryPrimary phase load awaited =>
    simp [timesOut, not_expired_of_awaited awaited]
  | openRelay phase =>
    simp [timeoutsLeft, timesOut, phase, hc.secondaryPhase (.inl phase)]
  | keepOpening phase ended =>
    rw [relayOpeningOver, Bool.or_eq_false_iff] at ended
    simp [timesOut, ended.2]
  | handOver phase ended due =>
    simp only [primaryIsolationDue, Bool.and_eq_true, Bool.not_eq_true'] at due
    simp [timeoutsLeft, stopPrimary, timesOut, phase, due.2, hc.secondaryPhase (.inr phase)]
  | relayOpened phase =>
    simp [timeoutsLeft, timesOut, phase, hc.secondaryPhase (.inr phase)]
  | primaryOff phase =>
    simp [timeoutsLeft, timesOut, phase, hc.primaryPhase phase]
  | hold phase | policy phase => simp [timesOut, phase, DischargePhase.awaitsCommand]

theorem finite_of_loadsSafe (hload : c.settings.loadsSafeToSwitch inputs = true) :
    inputs.nowS.isFinite = true := by
  simp only [DischargeSettings.loadsSafeToSwitch, Bool.and_eq_true] at hload
  have hfresh := hload.1.1.1.1.1.1.2
  unfold DischargeSettings.feedbackFresh at hfresh
  split at hfresh
  · contradiction
  · simp only [Bool.and_eq_true] at hfresh
    exact hfresh.1.1.1

/-- A fault is being handled, and its isolation is not left to a policy. -/
structure Handling (c : DualBatteryController K) : Prop where
  inv : c.LatchInv
  isolating : c.phase.isolating = true
  decided : c.phase ≠ .awaitingIsolationPolicy

theorem Isolates.decided {c' : DualBatteryController K} {action : DischargeAction}
    (hphase : c.phase ≠ .awaitingIsolationPolicy) (h : c.Isolates inputs c' action) :
    c'.phase ≠ .awaitingIsolationPolicy := by
  cases h with
  | waitForLoads | retrySecondary | keepOpening | retryPrimary | hold | policy => exact hphase
  | _ => nofun

namespace Handling

theorem assess (h : c.Handling) (inputs : DischargeInputs K) : (c.assess inputs).Handling := by
  have hsame := assess_phase_of_isolating h.isolating inputs
  exact ⟨h.inv.assess inputs, by rw [hsame, h.isolating], by rw [hsame]; exact h.decided⟩

theorem isolates (h : c.Handling) (hload : c.settings.loadsSafeToSwitch inputs = true) :
    (c.assess inputs).Isolates inputs (c.step inputs) (c.action inputs) :=
  isolates_update (finite_of_loadsSafe hload) h.isolating h.decided

theorem step (h : c.Handling) (hload : c.settings.loadsSafeToSwitch inputs = true) :
    (c.step inputs).Handling :=
  ⟨h.inv.step inputs, (isolating_step h.isolating inputs).1,
    (h.isolates hload).decided (h.assess inputs).decided⟩

theorem assess_rank (h : c.Handling) (inputs : DischargeInputs K) :
    (c.assess inputs).rank = c.rank := by
  simp only [rank, assess_primaryIsolationAttempted, assess_secondaryIsolationAttempted,
    assess_phase_of_isolating h.isolating inputs]

theorem assess_timeoutsLeft (h : c.Handling) (inputs : DischargeInputs K) :
    (c.assess inputs).timeoutsLeft = c.timeoutsLeft := by
  simp only [timeoutsLeft, assess_primaryIsolationAttempted, assess_secondaryIsolationAttempted,
    assess_phase_of_isolating h.isolating inputs]

theorem assess_commandExpired (c : DualBatteryController K) (inputs : DischargeInputs K) :
    (c.assess inputs).commandExpired inputs = c.commandExpired inputs := by
  simp only [commandExpired, assess_commandS, assess_settings]

theorem progress (h : c.Handling) (hload : c.settings.loadsSafeToSwitch inputs = true) :
    (c.step inputs).Settled ∨ (c.step inputs).rank < c.rank ∨
      (c.step inputs).phase = c.phase ∧ (c.step inputs).commandS = c.commandS ∧
        (c.step inputs).rank = c.rank ∧ c.phase.awaitsCommand = true ∧
        c.commandExpired inputs = false := by
  have hphase := assess_phase_of_isolating h.isolating inputs
  have hstep := (h.isolates hload).progress (h.assess inputs).inv (h.assess inputs).decided
    (by rwa [assess_settings])
  rw [h.assess_rank, hphase, assess_commandExpired] at hstep
  rcases hstep with hsettled | hrank | ⟨hsame, hawaits, hexpired⟩
  · exact .inl hsettled
  · exact .inr (.inl hrank)
  · refine .inr (.inr ⟨?_, ?_, ?_, hawaits, hexpired⟩)
    · rw [hsame, hphase]
    · rw [hsame, assess_commandS]
    · rw [hsame, h.assess_rank]

theorem timeouts (h : c.Handling) (hload : c.settings.loadsSafeToSwitch inputs = true) :
    (c.step inputs).timeoutsLeft ≤ c.timeoutsLeft ∧
      (c.timesOut inputs = true → (c.step inputs).timeoutsLeft < c.timeoutsLeft) := by
  have hstep := (h.isolates hload).timeouts (h.assess inputs).inv (by rwa [assess_settings])
  rwa [h.assess_timeoutsLeft, timesOut, assess_commandExpired,
    assess_phase_of_isolating h.isolating inputs] at hstep

end Handling

theorem timeoutsLeft_le (c : DualBatteryController K) : c.timeoutsLeft ≤ 3 := by
  unfold timeoutsLeft
  split_ifs <;> omega

end Settling

section Stream

variable (inputs : ℕ → DischargeInputs K)

def firstInputs (n : ℕ) : List (DischargeInputs K) := (List.range n).map inputs

omit [Field K] [LinearOrder K] in
theorem firstInputs_succ (n : ℕ) :
    firstInputs inputs (n + 1) = firstInputs inputs n ++ [inputs n] := by
  rw [firstInputs, List.range_succ, List.map_append, List.map_singleton, firstInputs]

def after (c : DualBatteryController K) (n : ℕ) : DualBatteryController K :=
  LabelledRun.run step c (firstInputs inputs n)

theorem after_succ (c : DualBatteryController K) (n : ℕ) :
    after inputs c (n + 1) = (after inputs c n).step (inputs n) := by
  rw [after, firstInputs_succ, run_snoc, after]

theorem after_settings (c : DualBatteryController K) (n : ℕ) :
    (after inputs c n).settings = c.settings := run_settings c _

variable {inputs} {c : DualBatteryController K}

theorem loadsSafe_after (hload : ∀ n, c.settings.loadsSafeToSwitch (inputs n) = true) (n : ℕ) :
    (after inputs c n).settings.loadsSafeToSwitch (inputs n) = true := by
  rw [after_settings, hload n]

theorem Handling.after (h : c.Handling)
    (hload : ∀ n, c.settings.loadsSafeToSwitch (inputs n) = true) (n : ℕ) :
    (after inputs c n).Handling := by
  induction n with
  | zero => exact h
  | succ n ih =>
    rw [after_succ]
    exact ih.step (loadsSafe_after hload n)

/-- Time passes every bound. -/
def TimeAdvances (inputs : ℕ → DischargeInputs K) : Prop :=
  ∃ time : ℕ → K, (∀ n, (inputs n).nowS = .finite (time n)) ∧ Monotone time ∧ ∀ t, ∃ n, t < time n

theorem commandTimeout_finite (c : DualBatteryController K) :
    ∃ timeout, c.settings.commandTimeoutS = .finite timeout := by
  have haccepted := c.settings_accepted
  simp only [DischargeSettings.accepted, positive, Bool.and_eq_true] at haccepted
  exact Double.exists_of_isFinite haccepted.1.1.1.1.1.1.1.1.1.1.1.1.1.2.1

variable [IsStrictOrderedRing K]

theorem Handling.moves (h : c.Handling)
    (hload : ∀ n, c.settings.loadsSafeToSwitch (inputs n) = true) (htime : TimeAdvances inputs)
    (i : ℕ) : ∃ j, i < j ∧ ((DualBatteryController.after inputs c j).Settled ∨
      (DualBatteryController.after inputs c j).rank <
        (DualBatteryController.after inputs c i).rank) := by
  obtain ⟨time, hnow, hmono, hbound⟩ := htime
  by_contra hnever
  push Not at hnever
  have hstays : ∀ j, i ≤ j →
      (DualBatteryController.after inputs c j).commandS =
          (DualBatteryController.after inputs c i).commandS ∧
        (DualBatteryController.after inputs c j).rank =
          (DualBatteryController.after inputs c i).rank ∧
        (DualBatteryController.after inputs c j).phase.awaitsCommand = true ∧
        (DualBatteryController.after inputs c j).commandExpired (inputs j) = false := by
    intro j hj
    have hstep : ∀ j, i ≤ j → _ := fun j _ =>
      (h.after hload j).progress (loadsSafe_after hload j)
    simp only [← after_succ] at hstep
    induction j, hj using Nat.le_induction with
    | base =>
      rcases hstep i le_rfl with hsettled | hrank | ⟨-, -, -, hawaits, hexpired⟩
      · exact absurd hsettled (hnever (i + 1) (by omega)).1
      · exact absurd hrank (not_lt.2 (hnever (i + 1) (by omega)).2)
      · exact ⟨rfl, rfl, hawaits, hexpired⟩
    | succ j hj ih =>
      obtain ⟨hcommand, hrank, -, -⟩ := ih
      have hhere : (DualBatteryController.after inputs c (j + 1)).commandS =
          (DualBatteryController.after inputs c i).commandS ∧
          (DualBatteryController.after inputs c (j + 1)).rank =
          (DualBatteryController.after inputs c i).rank := by
        rcases hstep j hj with hsettled | hless | ⟨-, hcommand', hrank', -, -⟩
        · exact absurd hsettled (hnever (j + 1) (by omega)).1
        · exact absurd (hrank ▸ hless) (not_lt.2 (hnever (j + 1) (by omega)).2)
        · exact ⟨hcommand'.trans hcommand, hrank'.trans hrank⟩
      rcases hstep (j + 1) (by omega) with hsettled | hless | ⟨-, -, -, hawaits, hexpired⟩
      · exact absurd hsettled (hnever (j + 1 + 1) (by omega)).1
      · exact absurd (hhere.2 ▸ hless) (not_lt.2 (hnever (j + 1 + 1) (by omega)).2)
      · exact ⟨hhere.1, hhere.2, hawaits, hexpired⟩
  obtain ⟨at_, hat⟩ := (h.after hload i).inv.command (hstays i le_rfl).2.2.1
  obtain ⟨timeout, htimeout⟩ := commandTimeout_finite c
  obtain ⟨n, hn⟩ := hbound (at_ + timeout)
  have hlate : at_ + timeout < time (max i n) := hn.trans_le (hmono (le_max_right i n))
  obtain ⟨hcommand, -, -, hexpired⟩ := hstays (max i n) (le_max_left i n)
  rw [commandExpired, hcommand, hat, after_settings, htimeout, hnow] at hexpired
  simp only [Option.any_some, Double.sub_finite, Double.lt_finite, decide_eq_false_iff_not,
    not_lt] at hexpired
  linarith

omit [IsStrictOrderedRing K] in
theorem Handling.count_timesOut_le (h : c.Handling)
    (hload : ∀ n, c.settings.loadsSafeToSwitch (inputs n) = true) (n : ℕ) :
    Nat.count (fun k => (DualBatteryController.after inputs c k).timesOut (inputs k) = true) n ≤
      3 := by
  have hstep : ∀ k, _ := fun k =>
    (h.after hload k).timeouts (loadsSafe_after hload k)
  simp only [← after_succ] at hstep
  have hcount := Progress.count_add_rank_le (n := n)
    (fun k => (DualBatteryController.after inputs c k).timeoutsLeft)
    (fun k _ => (hstep k).1) (fun k _ => (hstep k).2)
  have hfirst := timeoutsLeft_le (DualBatteryController.after inputs c 0)
  omega

theorem Handling.settles (h : c.Handling)
    (hload : ∀ n, c.settings.loadsSafeToSwitch (inputs n) = true) (htime : TimeAdvances inputs) :
    ∃ n, (DualBatteryController.after inputs c n).Settled := by
  obtain ⟨n, -, hn⟩ := Progress.eventually_of_rank
    (fun k => (DualBatteryController.after inputs c k).rank)
    (fun k => (DualBatteryController.after inputs c k).Settled) 0
    fun i _ _ => h.moves hload htime i
  exact ⟨n, hn⟩

end Stream

section Returned

/-- Some tick of the run has returned the action. -/
def Returned (c : DualBatteryController K) (run : List (DischargeInputs K))
    (action : DischargeAction) : Prop :=
  ∃ before inputs rest, run = before ++ inputs :: rest ∧
    (LabelledRun.run step c before).action inputs = action

theorem returned_of_entry {P : DualBatteryController K → Prop} {action : DischargeAction}
    {c : DualBatteryController K} {run : List (DischargeInputs K)}
    (hentry : ∀ c inputs, c.LatchInv → ¬P c → P (c.step inputs) → c.action inputs = action)
    (hc : c.LatchInv) (hstart : ¬P c) (h : P (LabelledRun.run step c run)) :
    Returned c run action := by
  obtain ⟨before, inputs, rest, rfl, hbefore, hafter⟩ := exists_entry hstart h
  have hentered := hafter [] rest rfl
  rw [run_snoc] at hentered
  exact ⟨before, inputs, rest, rfl, hentry _ inputs (hc.run before) hbefore hentered⟩

variable (settings : { settings : DischargeSettings K // settings.accepted = true })
  {run : List (DischargeInputs K)}

theorem returned_disablePrimary
    (h : (LabelledRun.run step (start settings) run).primaryIsolationAttempted = true) :
    Returned (start settings) run .disablePrimary := by
  refine returned_of_entry (P := fun c => c.primaryIsolationAttempted = true) ?_
    (latchInv_start settings) nofun h
  intro c inputs _ hbefore hafter
  refine (attempts_step c inputs).2.resolve_left fun hsame => ?_
  rw [hsame] at hafter
  exact hbefore hafter

theorem returned_disableSecondary
    (h : (LabelledRun.run step (start settings) run).secondaryIsolationAttempted = true) :
    Returned (start settings) run .disableSecondary := by
  refine returned_of_entry (P := fun c => c.secondaryIsolationAttempted = true) ?_
    (latchInv_start settings) nofun h
  intro c inputs _ hbefore hafter
  refine (attempts_step c inputs).1.resolve_left fun hsame => ?_
  rw [hsame] at hafter
  exact hbefore hafter

theorem returned_openRelay
    (h : (LabelledRun.run step (start settings) run).openOrdered = true) :
    Returned (start settings) run .openRelay := by
  refine returned_of_entry (P := fun c => c.openOrdered = true) ?_
    (latchInv_start settings) nofun h
  intro c inputs hc hbefore hafter
  exact ((openOrdered_step hc inputs).1 hafter).resolve_left hbefore

theorem Settled.returned (hsettled : (LabelledRun.run step (start settings) run).Settled) :
    ((LabelledRun.run step (start settings) run).primaryFault = true →
        Returned (start settings) run .disablePrimary) ∧
      ((LabelledRun.run step (start settings) run).secondaryFault = true →
        Returned (start settings) run .disableSecondary ∧
          Returned (start settings) run .openRelay) := by
  obtain ⟨hphase, hprimary, hsecondary⟩ := hsettled
  simp only [primaryIsolationDue, secondaryIsolationDue, Bool.and_eq_false_iff,
    Bool.not_eq_false'] at hprimary hsecondary
  refine ⟨fun hfault => returned_disablePrimary settings (by simpa [hfault] using hprimary),
    fun hfault => ?_⟩
  have hattempted : (LabelledRun.run step (start settings) run).secondaryIsolationAttempted =
      true := by simpa [hfault] using hsecondary
  exact ⟨returned_disableSecondary settings hattempted,
    returned_openRelay settings (by simp [openOrdered, hattempted, hphase])⟩

end Returned

/-- A pack fault is latched, or the isolation is left to a policy. -/
def faultKnown (c : DualBatteryController K) : Bool :=
  c.primaryFault || c.secondaryFault || c.phase = .awaitingIsolationPolicy

theorem LatchInv.isolating_of_faultKnown (h : c.LatchInv) (hfault : c.faultKnown = true) :
    c.phase.isolating = true := by
  simp only [faultKnown, Bool.or_eq_true, decide_eq_true_eq] at hfault
  rcases hfault with hfault | hphase
  · exact h.faulted.2 hfault
  · rw [hphase]
    rfl

/-- Once a fault is latched the packs are never joined again, and while the loads stay safe to
switch and time advances every faulted pack is isolated after at most three expired timeouts. -/
theorem faults_never_recover [IsStrictOrderedRing K]
    (settings : { settings : DischargeSettings K // settings.accepted = true })
    (before : List (DischargeInputs K))
    (hfault : (run step (start settings) before).faultKnown = true) :
    (∀ rest, Along step (fun c inputs => (c.action inputs).joins = false ∧
        (c.step inputs).phase.isolating = true) (run step (start settings) before) rest) ∧
      ((run step (start settings) before).phase ≠ .awaitingIsolationPolicy →
        ∀ inputs : ℕ → DischargeInputs K,
          (∀ n, settings.val.loadsSafeToSwitch (inputs n) = true) → TimeAdvances inputs →
          (∃ n, (run step (start settings) (before ++ firstInputs inputs n)).phase =
              .faultLatched ∧
            ((run step (start settings) (before ++ firstInputs inputs n)).primaryFault = true →
              Returned (start settings) (before ++ firstInputs inputs n) .disablePrimary) ∧
            ((run step (start settings) (before ++ firstInputs inputs n)).secondaryFault = true →
              Returned (start settings) (before ++ firstInputs inputs n) .disableSecondary ∧
                Returned (start settings) (before ++ firstInputs inputs n) .openRelay)) ∧
          ∀ n, Nat.count (fun k => (after inputs (run step (start settings) before) k).timesOut
            (inputs k) = true) n ≤ 3) := by
  have hinv := (latchInv_start settings).run before
  have hisolating := hinv.isolating_of_faultKnown hfault
  refine ⟨fun rest => along_of_invariant (P := fun c => c.phase.isolating = true)
    (fun c inputs hc => (isolating_step hc inputs).1)
    (fun c inputs hc => (isolating_step hc inputs).symm) hisolating rest, ?_⟩
  intro hdecided inputs hload htime
  have hhandling : (run step (start settings) before).Handling := ⟨hinv, hisolating, hdecided⟩
  have hload' : ∀ n, (run step (start settings) before).settings.loadsSafeToSwitch (inputs n) =
      true := by
    intro n
    rw [run_settings]
    exact hload n
  refine ⟨?_, hhandling.count_timesOut_le hload'⟩
  obtain ⟨n, hsettled⟩ := hhandling.settles hload' htime
  rw [after, ← run_append] at hsettled
  exact ⟨n, hsettled.1, hsettled.returned settings⟩

end DualBatteryController

namespace Bench

def faultTick (now : ℚ) : DischargeInputs ℚ :=
  inputsFor (faulted (healthyPack now 1)) (faulted (healthyPack now 1)) true now

theorem loadsSafe_faultTick (now : ℚ) :
    settings.val.loadsSafeToSwitch (faultTick now) = true := by
  simp [DischargeSettings.loadsSafeToSwitch, DischargeSettings.feedbackFresh, freshTime,
    BmsSample.isFresh, DischargeSettings.lowCurrent, absCurrent, faultTick, faulted, inputsFor,
    healthyPack, settings, Double.isFinite]

theorem faults_settle_on_bench :
    (DualBatteryController.Returned (DualBatteryController.start settings) joinRun .closeRelay) ∧
    ∃ n, (run DualBatteryController.step (DualBatteryController.start settings)
      (joinRun ++ [faultTick 3] ++
        DualBatteryController.firstInputs (fun n => faultTick (4 + n)) n)).phase =
      .faultLatched := by
  refine ⟨⟨joinRun.take 6, joinRun[6], joinRun.drop 7, rfl, by decide +kernel⟩, ?_⟩
  have hfault := DualBatteryController.faults_never_recover settings (joinRun ++ [faultTick 3])
    (by decide +kernel)
  obtain ⟨n, hphase, -⟩ := (hfault.2 (by decide +kernel) (fun n => faultTick (4 + n))
    (fun n => loadsSafe_faultTick _) ⟨fun n => 4 + n, fun _ => rfl,
      fun a b hab => by simpa using hab, fun t => by
        obtain ⟨n, hn⟩ := exists_nat_gt t
        exact ⟨n, by linarith⟩⟩).1
  exact ⟨n, hphase⟩

end Bench

end RobotDriver.Bms
