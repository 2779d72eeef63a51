import RobotDriver.Bms.Isolation

/-!
# Joining the secondary pack

The packs are joined only on a tick that shows every join condition. The conditions have held for
the whole stable window before the first command, and the relay is closed after a D9 command only
once the command has been acknowledged and the MOS has been seen on.
-/

namespace RobotDriver.Bms

open LabelledRun

namespace DischargePhase

/-- How far the join has come; the isolation comes last. -/
def stage : DischargePhase → ℕ
  | waitingForRelayOpen => 0
  | waitingForPrimary => 1
  | waitingForSecondary => 2
  | waitingForJoinConditions => 3
  | waitingForAck => 4
  | waitingForMos => 5
  | waitingForRelayClosed => 6
  | observingSecondary => 7
  | running => 8
  | _ => 9

theorem stage_of_isolating {phase : DischargePhase} (h : phase.isolating = true) :
    phase.stage = 9 := by
  cases phase <;> simp_all [isolating, stage]

theorem stage_le (phase : DischargePhase) : phase.stage ≤ 9 := by
  cases phase <;> simp [stage]

end DischargePhase

variable {K : Type*} [Field K] [LinearOrder K]

/-- What a tick shows that is allowed to join the packs. -/
structure JoinShown (settings : DischargeSettings K) (inputs : DischargeInputs K) : Prop where
  relayOpen : inputs.relayClosed = some false
  relayFresh : settings.feedbackFresh inputs.relayFeedbackS inputs.nowS = true
  primaryMosOn : inputs.primary.dischargeMosRaw = some settings.mosOnRaw
  primaryMosFresh : settings.feedbackFresh inputs.primary.mosFrameS inputs.nowS = true
  primaryHealthy : settings.healthy inputs.primary inputs.nowS true = true
  secondaryHealthy : settings.healthy inputs.secondary inputs.nowS true = true
  voltage : (voltageDelta inputs).Le settings.maxVoltageDeltaV
  primaryCurrent : (absCurrent inputs.primary).Le settings.maxAbsCurrentA
  secondaryCurrent : (absCurrent inputs.secondary).Le settings.maxAbsCurrentA
  loadsStopped : inputs.loadsStopped = true
  loadsFresh : settings.feedbackFresh inputs.loadsStoppedS inputs.nowS = true
  authorized : inputs.controlAuthorized = true

namespace DischargeSettings

variable {settings : DischargeSettings K} {inputs : DischargeInputs K}

theorem joinShown_of_joinConditions (h : settings.joinConditions inputs = true) :
    JoinShown settings inputs := by
  simp only [joinConditions, joinInterlocks, lowCurrent, Bool.and_eq_true,
    decide_eq_true_eq] at h
  obtain ⟨⟨⟨⟨⟨⟨⟨⟨⟨hauthorized, hstopped⟩, hfresh⟩, ⟨⟨hon, hmos⟩, hopen⟩, hrelay⟩, hprimary⟩,
    hsecondary⟩, -⟩, hvoltage⟩, hcurrent⟩, hcurrent'⟩ := h
  exact ⟨hopen, hrelay, hon, hmos, hprimary, hsecondary, hvoltage, hcurrent, hcurrent', hstopped,
    hfresh, hauthorized⟩

theorem finite_of_feedbackFresh {stamp : Option (Double K)} {now : Double K}
    (h : settings.feedbackFresh stamp now = true) : now.isFinite = true := by
  unfold feedbackFresh at h
  split at h
  · contradiction
  · simp only [Bool.and_eq_true] at h
    exact h.1.1.1

theorem measured_of_healthy {pack : PackState K} {now : Double K} {mos : Bool}
    (h : settings.healthy pack now mos = true) :
    (∃ voltage, pack.sample.voltageV = some (.finite voltage)) ∧
      ∃ current, pack.sample.currentA = some (.finite current) := by
  simp only [healthy, Bool.and_eq_true] at h
  obtain ⟨⟨⟨⟨⟨-, hvoltage⟩, hcurrent⟩, -⟩, -⟩, -⟩ := h
  obtain ⟨voltage, heq, hfinite⟩ := (Option.any_eq_true _ _).1 hvoltage
  obtain ⟨current, heq', hfinite'⟩ := (Option.any_eq_true _ _).1 hcurrent
  obtain ⟨x, rfl⟩ := Double.exists_of_isFinite hfinite
  obtain ⟨y, rfl⟩ := Double.exists_of_isFinite hfinite'
  exact ⟨⟨x, heq⟩, ⟨y, heq'⟩⟩

theorem limits_finite (h : settings.accepted = true) :
    (∃ delta, settings.maxVoltageDeltaV = .finite delta) ∧
      (∃ current, settings.maxAbsCurrentA = .finite current) ∧
        ∃ stable, settings.stableS = .finite stable := by
  simp only [accepted, positive, nonnegative, Bool.and_eq_true] at h
  exact ⟨Double.exists_of_isFinite h.1.1.1.1.1.1.1.1.1.1.2.1,
    Double.exists_of_isFinite h.1.1.1.1.1.1.1.2.1,
    Double.exists_of_isFinite h.1.1.1.1.1.1.1.1.1.1.1.2.1⟩

end DischargeSettings

omit [Field K] in
theorem le_of_not_lt_finite {x y : Double K} {a b : K} (hx : x = .finite a) (hy : y = .finite b)
    (h : ¬y.Lt x) : x.Le y := by
  subst hx hy
  rw [Double.lt_finite] at h
  exact not_lt.1 h

namespace DualBatteryController

variable {c : DualBatteryController K} {inputs : DischargeInputs K}

theorem joins_step (h : (c.step inputs).phase.isolating = false) :
    c.phase.isolating = false ∧
      (c.noteHealthy inputs).detectsPrimaryFault inputs = false ∧
      (c.noteHealthy inputs).detectsSecondaryFault inputs = false ∧
      (c.noteHealthy inputs).Joins inputs (c.step inputs) (c.action inputs) := by
  have hbefore : c.phase.isolating = false := by
    by_contra hcontra
    rw [(isolating_step (by simpa using hcontra) inputs).1] at h
    contradiction
  have hfinite : inputs.nowS.isFinite = true := by
    by_contra hcontra
    rw [step, update_of_not_finite (by simpa using hcontra), latchFault_isolating] at h
    contradiction
  have hawait : c.phase ≠ .awaitingIsolationPolicy := by
    intro hcontra
    rw [hcontra] at hbefore
    contradiction
  have hlost : c.primarySupplyLost inputs = false := by
    by_contra hcontra
    rw [step, (update_of_lost hfinite (by simpa using hcontra)).2.1] at h
    contradiction
  have hupdate := update_of_assess hfinite hawait hlost
  have hassess : (c.assess inputs).phase.isolating = false := by
    by_contra hcontra
    have hstep := (c.assess inputs).isolates_advance inputs (by simpa using hcontra)
    rw [step, hupdate, (hstep.stays (by simpa using hcontra)).1] at h
    contradiction
  obtain ⟨hsame, hprimary, hsecondary⟩ := assess_phase_of_waiting hassess
  rw [hsame] at hassess hupdate
  refine ⟨hbefore, hprimary, hsecondary, ?_⟩
  rw [step, action, hupdate]
  exact (c.noteHealthy inputs).joins_advance inputs hassess

theorem waits_of_joins (h : (c.action inputs).joins = true) :
    (c.step inputs).phase.isolating = false := by
  by_contra hcontra
  unfold action at h
  cases hfinite : inputs.nowS.isFinite with
  | false =>
    rw [update_of_not_finite hfinite] at h
    contradiction
  | true =>
    by_cases hawait : c.phase = .awaitingIsolationPolicy
    · rw [update_of_awaiting hfinite hawait] at h
      contradiction
    cases hlost : c.primarySupplyLost inputs with
    | true =>
      rw [(update_of_lost hfinite hlost).1] at h
      contradiction
    | false =>
      have hupdate := update_of_assess hfinite hawait hlost
      rw [hupdate] at h
      cases hphase : (c.assess inputs).phase.isolating with
      | true =>
        rw [(((c.assess inputs).isolates_advance inputs hphase).stays hphase).2] at h
        contradiction
      | false =>
        rw [step, hupdate] at hcontra
        rcases (proceeds_advance inputs hphase).action with
          haction | haction | ⟨hwaits, -⟩
        · simp [haction, DischargeAction.joins] at h
        · simp [haction, DischargeAction.joins] at h
        · exact hcontra hwaits

theorem Joins.stage_le {c' : DualBatteryController K} {action : DischargeAction}
    (h : c.Joins inputs c' action) : c.phase.stage ≤ c'.phase.stage := by
  cases h with
  | latch =>
    have hlatched : (c.latchFault false true).phase.stage = 9 :=
      DischargePhase.stage_of_isolating (c.latchFault_isolating false true)
    rw [hlatched]
    exact DischargePhase.stage_le _
  | stay | unstable | stableFrom | stillStable => exact le_rfl
  | relayOpenSeen phase | primarySeen phase | secondarySeen phase | enable phase
  | closeAtOnce phase | acknowledged phase | close phase | relayClosedSeen phase
  | observed phase =>
    simp [phase, DischargePhase.stage]

theorem stage_le_step (c : DualBatteryController K) (inputs : DischargeInputs K) :
    c.phase.stage ≤ (c.step inputs).phase.stage := by
  cases hphase : (c.step inputs).phase.isolating with
  | true =>
    rw [DischargePhase.stage_of_isolating hphase]
    exact DischargePhase.stage_le _
  | false =>
    obtain ⟨-, -, -, hjoins⟩ := joins_step hphase
    exact Joins.stage_le (c := c.noteHealthy inputs) hjoins

/-- Both packs have been seen healthy once the D9 command has been sent. -/
def SeenInv (c : DualBatteryController K) : Prop :=
  c.phase.waitingForD9 = true → c.primaryHealthySeen = true ∧ c.secondaryHealthySeen = true

theorem SeenInv.step (hc : c.SeenInv) (inputs : DischargeInputs K) : (c.step inputs).SeenInv := by
  intro hphase
  have hwaits : (c.step inputs).phase.isolating = false := by
    cases hcase : (c.step inputs).phase <;>
      simp_all [DischargePhase.waitingForD9, DischargePhase.isolating]
  obtain ⟨-, -, -, hjoins⟩ := joins_step hwaits
  have hnoted : c.phase.waitingForD9 = true →
      (c.noteHealthy inputs).primaryHealthySeen = true ∧
        (c.noteHealthy inputs).secondaryHealthySeen = true := by
    intro h
    obtain ⟨hprimary, hsecondary⟩ := hc h
    exact ⟨by rw [noteHealthy, hprimary, Bool.true_or], by rw [noteHealthy, hsecondary, Bool.true_or]⟩
  generalize c.step inputs = c', c.action inputs = action at hphase hjoins
  cases hjoins with
  | stay | unstable | stableFrom | stillStable => exact hnoted hphase
  | enable phase conditions =>
    have hshown := DischargeSettings.joinShown_of_joinConditions conditions
    have hprimary : c.settings.healthy inputs.primary inputs.nowS true = true := hshown.primaryHealthy
    have hsecondary : c.settings.healthy inputs.secondary inputs.nowS true = true :=
      hshown.secondaryHealthy
    exact ⟨by simp [noteHealthy, hprimary], by simp [noteHealthy, hsecondary]⟩
  | acknowledged phase =>
    have hack : c.phase = .waitingForAck := phase
    exact hnoted (by rw [hack]; rfl)
  | latch =>
    have hlatched := (c.noteHealthy inputs).latchFault_isolating false true
    cases hcase : ((c.noteHealthy inputs).latchFault false true).phase <;>
      simp_all [DischargePhase.waitingForD9, DischargePhase.isolating]
  | _ => contradiction

theorem seenInv_run
    (settings : { settings : DischargeSettings K // settings.accepted = true })
    (run : List (DischargeInputs K)) :
    (LabelledRun.run DualBatteryController.step (start settings) run).SeenInv :=
  invariant_all (P := SeenInv) (fun _ inputs hc => hc.step inputs)
    (by simp [SeenInv, start, DischargePhase.waitingForD9]) run

theorem joinShown_of_handshake (hseen : c.SeenInv) (hphase : c.phase.waitingForD9 = true)
    (hprimary : (c.noteHealthy inputs).detectsPrimaryFault inputs = false)
    (hsecondary : (c.noteHealthy inputs).detectsSecondaryFault inputs = false) :
    JoinShown c.settings inputs := by
  have hjoining : c.phase.joining = true ∧ c.phase.waitingBeforeCommand = false := by
    cases hcase : c.phase <;> simp_all [DischargePhase.waitingForD9, DischargePhase.joining,
      DischargePhase.waitingBeforeCommand]
  obtain ⟨hseenPrimary, hseenSecondary⟩ := hseen hphase
  have hhealthy : c.settings.healthy inputs.primary inputs.nowS true = true := by
    simp only [detectsPrimaryFault, noteHealthy, hseenPrimary, hjoining.2, Bool.true_or,
      Bool.true_and, Bool.or_eq_false_iff, Bool.not_false, Bool.not_eq_false'] at hprimary
    exact hprimary.2
  simp only [detectsSecondaryFault, noteHealthy, hseenSecondary, hphase, hjoining.1, hjoining.2,
    Bool.true_or, Bool.true_and, Bool.or_eq_false_iff, Bool.not_eq_false'] at hsecondary
  obtain ⟨⟨⟨⟨⟨⟨⟨-, hhealthy'⟩, hinterlocks⟩, -⟩, hbroken⟩, hauthorized⟩, -⟩, -⟩ := hsecondary
  simp only [joinBroken, hjoining.1, hhealthy, hhealthy', Bool.true_and, Bool.or_eq_false_iff,
    decide_eq_false_iff_not, Bool.not_eq_false'] at hbroken
  obtain ⟨⟨⟨⟨hvoltage, hcurrent⟩, hcurrent'⟩, hstopped⟩, hfresh⟩ := hbroken
  simp only [DischargeSettings.joinInterlocks, Bool.and_eq_true, decide_eq_true_eq] at hinterlocks
  obtain ⟨⟨⟨hon, hmos⟩, hopen⟩, hrelay⟩ := hinterlocks
  obtain ⟨⟨x, hx⟩, a, ha⟩ := DischargeSettings.measured_of_healthy hhealthy
  obtain ⟨⟨y, hy⟩, b, hb⟩ := DischargeSettings.measured_of_healthy hhealthy'
  obtain ⟨⟨delta, hdelta⟩, ⟨limit, hlimit⟩, -⟩ := DischargeSettings.limits_finite c.settings_accepted
  have hdifference : voltageDelta inputs = .finite |x - y| := by
    rw [voltageDelta, hx, hy]
    rfl
  have hprimaryCurrent : absCurrent inputs.primary = .finite |a| := by
    rw [absCurrent, ha]
    rfl
  have hsecondaryCurrent : absCurrent inputs.secondary = .finite |b| := by
    rw [absCurrent, hb]
    rfl
  exact ⟨hopen, hrelay, hon, hmos, hhealthy, hhealthy',
    le_of_not_lt_finite hdifference hdelta hvoltage,
    le_of_not_lt_finite hprimaryCurrent hlimit hcurrent,
    le_of_not_lt_finite hsecondaryCurrent hlimit hcurrent', hstopped, hfresh, hauthorized⟩

variable (settings : { settings : DischargeSettings K // settings.accepted = true })

/-- The history ends with a window of ticks that meet the join conditions, the first at `since`. -/
def StableWindow (history : List (DischargeInputs K)) (since : Double K) : Prop :=
  ∃ before first window, history = before ++ first :: window ∧ first.nowS = since ∧
    ∀ tick ∈ first :: window, settings.val.joinConditions tick = true

variable {settings}

theorem StableWindow.snoc {history : List (DischargeInputs K)} {since : Double K}
    (h : StableWindow settings history since)
    (hconditions : settings.val.joinConditions inputs = true) :
    StableWindow settings (history ++ [inputs]) since := by
  obtain ⟨before, first, window, rfl, hfirst, hall⟩ := h
  refine ⟨before, first, window ++ [inputs], by simp, hfirst, fun tick htick => ?_⟩
  rw [← List.cons_append, List.mem_append, List.mem_singleton] at htick
  rcases htick with htick | rfl
  · exact hall tick htick
  · exact hconditions

structure WindowInv (settings : { settings : DischargeSettings K // settings.accepted = true })
    (history : List (DischargeInputs K)) (c : DualBatteryController K) : Prop where
  settings_eq : c.settings = settings.val
  early : c.phase.stage < 3 → c.stableSinceS = none
  window : c.phase = .waitingForJoinConditions → ∀ since, c.stableSinceS = some since →
    StableWindow settings history since

theorem stableSince_of_noteHealthy {since : Double K}
    (h : (c.noteHealthy inputs).stableSinceS = some since) : c.stableSinceS = some since := by
  simp only [noteHealthy] at h
  split at h
  · contradiction
  · exact h

theorem WindowInv.step {history : List (DischargeInputs K)} (hc : WindowInv settings history c)
    (inputs : DischargeInputs K) :
    WindowInv settings (history ++ [inputs]) (c.step inputs) := by
  have hsettings : (c.step inputs).settings = settings.val :=
    (step_settings c inputs).trans hc.settings_eq
  cases hwaits : (c.step inputs).phase.isolating with
  | true =>
    refine ⟨hsettings, fun hstage => ?_, fun hphase => ?_⟩
    · rw [DischargePhase.stage_of_isolating hwaits] at hstage
      omega
    · rw [hphase] at hwaits
      contradiction
  | false =>
    obtain ⟨-, -, -, hjoins⟩ := joins_step hwaits
    have hearly : c.phase.stage < 3 → (c.noteHealthy inputs).stableSinceS = none := by
      intro hstage
      cases hnoted : (c.noteHealthy inputs).stableSinceS with
      | none => rfl
      | some since => exact absurd (hc.early hstage) (by simp [stableSince_of_noteHealthy hnoted])
    generalize c.step inputs = c', c.action inputs = action at hsettings hwaits hjoins ⊢
    cases hjoins with
    | stay _ idle other => exact ⟨hsettings, hearly, fun hphase => absurd hphase other⟩
    | latch =>
      rw [latchFault_isolating] at hwaits
      contradiction
    | relayOpenSeen phase | primarySeen phase =>
      have hstage : c.phase.stage < 3 := by
        change c.phase = _ at phase
        simp [phase, DischargePhase.stage]
      exact ⟨hsettings, fun _ => hearly hstage, nofun⟩
    | secondarySeen phase =>
      have hstage : c.phase.stage < 3 := by
        change c.phase = _ at phase
        simp [phase, DischargePhase.stage]
      refine ⟨hsettings, fun _ => hearly hstage, fun _ since hsince => ?_⟩
      change (c.noteHealthy inputs).stableSinceS = some since at hsince
      rw [hearly hstage] at hsince
      contradiction
    | unstable => exact ⟨hsettings, fun _ => rfl, nofun⟩
    | stableFrom phase conditions =>
      change c.settings.joinConditions inputs = true at conditions
      rw [hc.settings_eq] at conditions
      refine ⟨hsettings, fun hstage => ?_, fun _ since hsince => ?_⟩
      · simp [phase, DischargePhase.stage] at hstage
      · cases hsince
        exact ⟨history, inputs, [], rfl, rfl, by simpa using conditions⟩
    | stillStable phase conditions =>
      change c.settings.joinConditions inputs = true at conditions
      rw [hc.settings_eq] at conditions
      refine ⟨hsettings, fun hstage => ?_, fun hphase since hsince => ?_⟩
      · simp [phase, DischargePhase.stage] at hstage
      · exact (hc.window hphase since (stableSince_of_noteHealthy hsince)).snoc conditions
    | _ => exact ⟨hsettings, fun hstage => by simp [DischargePhase.stage] at hstage, nofun⟩

variable (settings) in
theorem windowInv_run (history : List (DischargeInputs K)) :
    WindowInv settings history
      (LabelledRun.run DualBatteryController.step (start settings) history) := by
  induction history using List.reverseRecOn with
  | nil => exact ⟨rfl, fun _ => rfl, nofun⟩
  | append_singleton history inputs ih =>
    rw [run_snoc]
    exact ih.step inputs

/-- A tick that reports the D9 acknowledge of value 1, stamped after `command`. -/
def acknowledges (command : Double K) (tick : DischargeInputs K) : Prop :=
  stampedAfter tick.secondary.dischargeAckS (some command) = true ∧
    tick.secondary.dischargeAckValue = some 1

/-- What has followed an enabling tick of the history. -/
structure Enabled (c : DualBatteryController K) (enable : DischargeInputs K)
    (between : List (DischargeInputs K)) : Prop where
  stage : 4 ≤ c.phase.stage
  command : c.phase.waitingForD9 = true → c.commandS = some enable.nowS
  acknowledged : c.phase = .waitingForMos → ∃ tick ∈ between, acknowledges enable.nowS tick

theorem enabled_of_action (haction : c.action inputs = .enableSecondary) :
    Enabled (c.step inputs) inputs [] := by
  have hjoined : (c.action inputs).joins = true := by
    rw [haction]
    rfl
  have hwaits := waits_of_joins hjoined
  obtain ⟨-, -, -, hjoins⟩ := joins_step hwaits
  rw [haction] at hjoins
  generalize c.step inputs = c' at hjoins
  cases hjoins with
  | stay _ idle => simp at idle
  | enable => exact ⟨by simp [DischargePhase.stage], fun _ => rfl, nofun⟩

theorem Enabled.step {enable : DischargeInputs K} {between : List (DischargeInputs K)}
    (h : Enabled c enable between) (inputs : DischargeInputs K) :
    Enabled (c.step inputs) enable (between ++ [inputs]) := by
  have hstage := h.stage.trans (stage_le_step c inputs)
  cases hwaits : (c.step inputs).phase.isolating with
  | true =>
    refine ⟨hstage, fun hphase => ?_, fun hphase => ?_⟩
    · cases hcase : (c.step inputs).phase <;>
        simp_all [DischargePhase.waitingForD9, DischargePhase.isolating]
    · rw [hphase] at hwaits
      contradiction
  | false =>
    obtain ⟨-, -, -, hjoins⟩ := joins_step hwaits
    have hlater : c.phase ≠ .waitingForJoinConditions := by
      intro hphase
      have := h.stage
      rw [hphase] at this
      simp [DischargePhase.stage] at this
    generalize c.step inputs = c', c.action inputs = action at hstage hwaits hjoins ⊢
    cases hjoins with
    | stay =>
      refine ⟨hstage, h.command, fun hphase => ?_⟩
      obtain ⟨tick, htick, hack⟩ := h.acknowledged hphase
      exact ⟨tick, List.mem_append_left _ htick, hack⟩
    | latch =>
      rw [latchFault_isolating] at hwaits
      contradiction
    | acknowledged phase stamp value =>
      have hcommand : c.commandS = some enable.nowS := by
        change c.phase = _ at phase
        exact h.command (by rw [phase]; rfl)
      refine ⟨hstage, fun _ => hcommand, fun _ => ⟨inputs, by simp, ?_, value⟩⟩
      rw [← hcommand]
      exact stamp
    | unstable phase | stableFrom phase | stillStable phase | enable phase | closeAtOnce phase =>
      exact absurd phase hlater
    | relayOpenSeen phase | primarySeen phase | secondarySeen phase =>
      change c.phase = _ at phase
      have := h.stage
      simp [phase, DischargePhase.stage] at this
    | _ => exact ⟨hstage, by rintro ⟨⟩, by rintro ⟨⟩⟩

theorem enabled_run (history : List (DischargeInputs K)) :
    ∀ before enable between, history = before ++ enable :: between →
      (LabelledRun.run DualBatteryController.step (start settings) before).action enable =
        .enableSecondary →
      Enabled (LabelledRun.run DualBatteryController.step (start settings) history) enable
        between := by
  induction history using List.reverseRecOn with
  | nil =>
    intro before enable between hsplit
    simp at hsplit
  | append_singleton history inputs ih =>
    intro before enable between hsplit haction
    rw [run_snoc]
    rcases between.eq_nil_or_concat with rfl | ⟨between', last, rfl⟩
    · obtain ⟨rfl, hlast⟩ := List.append_inj' hsplit rfl
      cases hlast
      exact enabled_of_action haction
    · rw [List.concat_eq_append, ← List.cons_append, ← List.append_assoc] at hsplit
      obtain ⟨rfl, hlast⟩ := List.append_inj' hsplit rfl
      cases hlast
      rw [List.concat_eq_append]
      exact (ih before enable between' rfl haction).step inputs

theorem phase_of_joins (h : (c.action inputs).joins = true) :
    c.phase = .waitingForJoinConditions ∨ c.phase = .waitingForMos := by
  have hjoins := (joins_step (waits_of_joins h)).2.2.2
  generalize c.step inputs = c', c.action inputs = action at h hjoins
  cases hjoins with
  | stay _ idle => rcases idle with rfl | rfl <;> contradiction
  | enable phase | closeAtOnce phase => exact .inl phase
  | close phase => exact .inr phase
  | _ => contradiction

theorem joins_of_stable (h : (c.action inputs).joins = true)
    (hphase : c.phase = .waitingForJoinConditions) :
    c.settings.joinConditions inputs = true ∧
      ∃ since, c.stableSinceS = some since ∧ ¬(inputs.nowS.sub since).Lt c.settings.stableS := by
  have hjoins := (joins_step (waits_of_joins h)).2.2.2
  generalize c.step inputs = c', c.action inputs = action at h hjoins
  cases hjoins with
  | stay _ _ other => exact absurd hphase other
  | enable _ conditions since stable elapsed | closeAtOnce _ conditions since stable elapsed =>
    exact ⟨conditions, since, stableSince_of_noteHealthy stable, elapsed⟩
  | close phase =>
    change c.phase = _ at phase
    rw [hphase] at phase
    contradiction
  | _ => contradiction

theorem close_of_mos (h : (c.action inputs).joins = true) (hphase : c.phase = .waitingForMos) :
    stampedAfter inputs.secondary.mosFrameS c.commandS = true ∧
      inputs.secondary.dischargeMosRaw = some c.settings.mosOnRaw := by
  have hjoins := (joins_step (waits_of_joins h)).2.2.2
  generalize c.step inputs = c', c.action inputs = action at h hjoins
  cases hjoins with
  | stay _ idle => rcases idle with rfl | rfl <;> contradiction
  | enable phase | closeAtOnce phase =>
    change c.phase = _ at phase
    rw [hphase] at phase
    contradiction
  | close phase stamp on => exact ⟨stamp, on⟩
  | _ => contradiction

theorem returned_of_handshake {history : List (DischargeInputs K)}
    (h : (run step (start settings) history).phase.waitingForD9 = true) :
    Returned (start settings) history .enableSecondary := by
  refine returned_of_entry (P := fun c => c.phase.waitingForD9 = true) ?_ (latchInv_start settings)
    nofun h
  intro c inputs _ hbefore hafter
  have hwaits : (c.step inputs).phase.isolating = false := by
    cases hcase : (c.step inputs).phase <;>
      simp_all [DischargePhase.waitingForD9, DischargePhase.isolating]
  obtain ⟨-, -, -, hjoins⟩ := joins_step hwaits
  generalize c.step inputs = c', c.action inputs = action at hwaits hafter hjoins ⊢
  cases hjoins with
  | stay | unstable | stableFrom | stillStable => exact absurd hafter hbefore
  | latch =>
    rw [latchFault_isolating] at hwaits
    contradiction
  | enable => rfl
  | acknowledged phase =>
    change c.phase = _ at phase
    exact absurd (by rw [phase]; rfl) hbefore
  | _ => contradiction

theorem joinShown_of_joins {history : List (DischargeInputs K)}
    (h : ((run step (start settings) history).action inputs).joins = true) :
    JoinShown settings.val inputs := by
  have hsettings : (run step (start settings) history).settings = settings.val :=
    run_settings (start settings) history
  rcases phase_of_joins h with hphase | hphase
  · have hconditions := (joins_of_stable h hphase).1
    rw [hsettings] at hconditions
    exact DischargeSettings.joinShown_of_joinConditions hconditions
  · obtain ⟨-, hprimary, hsecondary, -⟩ := joins_step (waits_of_joins h)
    rw [← hsettings]
    exact joinShown_of_handshake (seenInv_run settings history) (by rw [hphase]; rfl) hprimary
      hsecondary

theorem faultKnown_of_joins {history : List (DischargeInputs K)}
    (h : ((run step (start settings) history).action inputs).joins = true)
    {before rest : List (DischargeInputs K)} (hsplit : history = before ++ rest) :
    (run step (start settings) before).faultKnown = false := by
  by_contra hfault
  have hisolating := ((latchInv_start settings).run before).isolating_of_faultKnown
    (by simpa using hfault)
  have hstays : (run step (start settings) history).phase.isolating = true := by
    rw [hsplit, run_append]
    exact invariant_all (P := fun c : DualBatteryController K => c.phase.isolating = true)
      (fun c inputs hc => (isolating_step hc inputs).1) hisolating rest
  rw [(isolating_step hstays inputs).2] at h
  contradiction

theorem window_of_joins {history : List (DischargeInputs K)}
    (h : ((run step (start settings) history).action inputs).joins = true)
    (hfirst : ∀ command : DischargeAction, command.joins = true →
      ¬Returned (start settings) history command) :
    ∃ before first window, history = before ++ first :: window ∧
      (∀ tick ∈ first :: window ++ [inputs], settings.val.joinConditions tick = true) ∧
      settings.val.stableS.Le (inputs.nowS.sub first.nowS) := by
  have hinv := windowInv_run settings history
  rcases phase_of_joins h with hphase | hphase
  · obtain ⟨hconditions, since, hsince, helapsed⟩ := joins_of_stable h hphase
    rw [hinv.settings_eq] at hconditions helapsed
    obtain ⟨before, first, window, rfl, rfl, hall⟩ := hinv.window hphase since hsince
    have hmet : ∀ tick ∈ first :: window ++ [inputs], settings.val.joinConditions tick = true := by
      intro tick htick
      rw [List.mem_append, List.mem_singleton] at htick
      rcases htick with htick | rfl
      · exact hall tick htick
      · exact hconditions
    refine ⟨before, first, window, rfl, hmet, ?_⟩
    have hnow : ∀ tick, settings.val.joinConditions tick = true → ∃ now, tick.nowS = .finite now :=
      fun tick htick => Double.exists_of_isFinite (DischargeSettings.finite_of_feedbackFresh
        (DischargeSettings.joinShown_of_joinConditions htick).loadsFresh)
    obtain ⟨now, hnow'⟩ := hnow inputs hconditions
    obtain ⟨since, hsince'⟩ := hnow first (hall first (by simp))
    obtain ⟨-, -, stable, hstable⟩ := DischargeSettings.limits_finite settings.property
    rw [hnow', hsince', Double.sub_finite] at helapsed ⊢
    exact le_of_not_lt_finite hstable rfl helapsed
  · exact absurd (returned_of_handshake (by rw [hphase]; rfl)) (hfirst _ rfl)

theorem handshake_of_close {history : List (DischargeInputs K)}
    (h : (run step (start settings) history).action inputs = .closeRelay)
    {before between : List (DischargeInputs K)} {enable : DischargeInputs K}
    (hsplit : history = before ++ enable :: between)
    (henable : (run step (start settings) before).action enable = .enableSecondary) :
    (∃ tick ∈ between, acknowledges enable.nowS tick) ∧
      stampedAfter inputs.secondary.mosFrameS (some enable.nowS) = true ∧
      inputs.secondary.dischargeMosRaw = some settings.val.mosOnRaw := by
  have hjoins : ((run step (start settings) history).action inputs).joins = true := by rw [h]; rfl
  have henabled := enabled_run history before enable between hsplit henable
  rcases phase_of_joins hjoins with hphase | hphase
  · have := henabled.stage
    rw [hphase] at this
    simp [DischargePhase.stage] at this
  · obtain ⟨hstamp, hon⟩ := close_of_mos hjoins hphase
    rw [henabled.command (by rw [hphase]; rfl)] at hstamp
    rw [run_settings] at hon
    exact ⟨henabled.acknowledged hphase, hstamp, hon⟩

/-- Whenever a tick commands the join, it shows every join condition and no fault was latched
before; the first such command follows a stable window, and a closing after a D9 command follows
its acknowledge and the MOS. -/
theorem joined_only_under_all_conditions
    (settings : { settings : DischargeSettings K // settings.accepted = true })
    (history : List (DischargeInputs K)) (inputs : DischargeInputs K)
    (h : (run step (start settings) history).action inputs = .enableSecondary ∨
      (run step (start settings) history).action inputs = .closeRelay) :
    JoinShown settings.val inputs ∧
      (∀ before rest, history = before ++ rest →
        (run step (start settings) before).faultKnown = false) ∧
      ((¬Returned (start settings) history .enableSecondary ∧
          ¬Returned (start settings) history .closeRelay) →
        ∃ before first window, history = before ++ first :: window ∧
          (∀ tick ∈ first :: window ++ [inputs], settings.val.joinConditions tick = true) ∧
          settings.val.stableS.Le (inputs.nowS.sub first.nowS)) ∧
      ((run step (start settings) history).action inputs = .closeRelay →
        ∀ before enable between, history = before ++ enable :: between →
          (run step (start settings) before).action enable = .enableSecondary →
          (∃ tick ∈ between, acknowledges enable.nowS tick) ∧
            stampedAfter inputs.secondary.mosFrameS (some enable.nowS) = true ∧
            inputs.secondary.dischargeMosRaw = some settings.val.mosOnRaw) := by
  have hjoins : ((run step (start settings) history).action inputs).joins = true := by
    rcases h with h | h <;> rw [h] <;> rfl
  refine ⟨joinShown_of_joins hjoins, fun before rest => faultKnown_of_joins hjoins,
    fun hfirst => window_of_joins hjoins fun command hcommand => ?_,
    fun hclose before enable between => handshake_of_close hclose⟩
  cases command with
  | enableSecondary => exact hfirst.1
  | closeRelay => exact hfirst.2
  | _ => contradiction

end DualBatteryController

namespace Bench

theorem relay_closes_on_bench : ∃ inputs : DischargeInputs ℚ,
    JoinShown settings.val inputs ∧
      (run DualBatteryController.step (DualBatteryController.start settings)
        (joinRun.take 6)).action inputs = .closeRelay := by
  have hclose : (run DualBatteryController.step (DualBatteryController.start settings)
      (joinRun.take 6)).action joinRun[6] = .closeRelay := by decide +kernel
  exact ⟨joinRun[6], (DualBatteryController.joined_only_under_all_conditions settings
    (joinRun.take 6) joinRun[6] (.inr hclose)).1, hclose⟩

end Bench

end RobotDriver.Bms
