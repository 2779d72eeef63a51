import RobotDriver.Ethercat.CspPreseed
import RobotDriver.Ethercat.ErrorLatch

/-!
# The takeover of a position axis

An axis fixed to the position mode holds the position it measured when it was disabled last, until
a controller takes over with a command near both the measurement and the hold. Beside the axis
stand that reading, the target taken over since, and the position at which a switch from the
velocity mode was asked for.
-/

namespace RobotDriver.Ethercat

open LabelledRun (Along run)

/-- The mode is not switched, and is the position mode. -/
def KincoConfig.FixedCsp {K : Type*} [Field K] [LinearOrder K] (config : KincoConfig K) : Prop :=
  config.modeSwitching = false ∧ config.startupMode = kCsp

namespace KincoCyclicModeSlave

variable {K : Type*} [Field K] [LinearOrder K]

/-- The hold and its owner are kept, a latched error stays and no mode is requested. -/
structure Stays (s t : KincoCyclicModeSlave K) : Prop where
  hold : t.holdPositionRaw = s.holdPositionRaw
  owned : t.positionOwned = true → s.positionOwned = true
  latched : s.errorLatched = true → t.errorLatched = true
  flight : t.modeRequestInFlight = true → s.modeRequestInFlight = true ∧
    t.modeRequestTarget = s.modeRequestTarget ∧ t.cspSeedRaw = s.cspSeedRaw

theorem Stays.refl (s : KincoCyclicModeSlave K) : s.Stays s := ⟨rfl, id, id, fun h => ⟨h, rfl, rfl⟩⟩

theorem Stays.trans {s t u : KincoCyclicModeSlave K} (h : s.Stays t) (h' : t.Stays u) :
    s.Stays u where
  hold := h'.hold.trans h.hold
  owned := h.owned ∘ h'.owned
  latched := h'.latched ∘ h.latched
  flight hflight := by
    obtain ⟨hmiddle, htarget, hseed⟩ := h'.flight hflight
    obtain ⟨hfirst, htarget', hseed'⟩ := h.flight hmiddle
    exact ⟨hfirst, htarget.trans htarget', hseed.trans hseed'⟩

/-- In addition no command is taken, and the position put out is the hold. -/
structure Rests (s t : KincoCyclicModeSlave K) : Prop extends s.Stays t where
  fresh : s.states.commandFresh = false → t.states.commandFresh = false
  position : s.output.position = s.holdPositionRaw → t.output.position = s.holdPositionRaw

theorem Rests.trans {s t u : KincoCyclicModeSlave K} (h : s.Rests t) (h' : t.Rests u) :
    s.Rests u where
  toStays := h.toStays.trans h'.toStays
  fresh := h'.fresh ∘ h.fresh
  position hposition := (h'.position ((h.position hposition).trans h.hold.symm)).trans h.hold

section Leaves

variable (s : KincoCyclicModeSlave K)

theorem rests_clearHandoff (error : Bool) : s.Rests (s.clearHandoff error) where
  hold := rfl
  owned := id
  latched h := by simp [clearHandoff, h]
  flight h := (Bool.false_ne_true h).elim
  fresh _ := rfl
  position := id

theorem rests_loseSeed (error : Bool) : s.Rests (s.loseSeed error) :=
  Rests.trans (t := { s with startupSeedSent := false })
    ⟨⟨rfl, id, id, fun h => ⟨h, rfl, rfl⟩⟩, id, id⟩ (rests_clearHandoff _ error)

theorem stays_processInputs (inputs : List Input) : s.Stays (s.processInputs inputs) := by
  induction inputs generalizing s with
  | nil => exact .refl s
  | cons input inputs ih =>
    refine Stays.trans ?_ (ih _)
    unfold processInput
    split_ifs
    · exact .refl s
    have hstore : s.Stays (s.store input) := by
      cases input <;> exact ⟨rfl, id, id, fun h => ⟨h, rfl, rfl⟩⟩
    refine hstore.trans ?_
    unfold countFeedback
    split_ifs
    · exact (rests_clearHandoff _ true).toStays
    · exact ⟨rfl, id, id, fun h => ⟨h, rfl, rfl⟩⟩
    · exact .refl _

theorem stays_atStart (c : KincoCycle K) : s.Stays (s.atStart c) := by
  have hread : s.Stays (s.readData c) := by
    unfold readData
    split
    · refine Stays.trans ?_ (stays_processInputs _ c.inputs)
      unfold onPdoCycleRead
      dsimp only
      split_ifs
      · exact ⟨rfl, id, id, fun h => ⟨h, rfl, rfl⟩⟩
      all_goals
        exact ⟨rfl, id, fun h => by simp [clearHandoff, h], fun h => by simp_all [clearHandoff]⟩
    · exact .refl s
  exact hread.trans ⟨rfl, id, id, fun h => ⟨h, rfl, rfl⟩⟩

theorem stays_onPdoCycleSent : s.Stays s.onPdoCycleSent :=
  s.onPdoCycleSent_kept (p := s.Stays)
    (fun _ _ _ _ _ h => h.trans ⟨rfl, id, id, fun h => ⟨h, rfl, rfl⟩⟩)
    (fun _ h => h.trans ⟨rfl, id, id, fun h => ⟨h, rfl, rfl⟩⟩)
    (fun _ h => h.trans ⟨rfl, id, id, fun h => ⟨h, rfl, rfl⟩⟩)
    (fun _ h => h.trans ⟨rfl, id, id, nofun⟩)
    (fun _ h => h.trans ⟨rfl, id, id, fun h => ⟨h, rfl, rfl⟩⟩) (.refl s)

end Leaves

variable [FloorRing K] (s : KincoCyclicModeSlave K)

/-- The start hook finds the drive disabled, or takes the seed. -/
def Reads (complete : Bool) (now : ℤ) : Prop :=
  complete = true ∧ s.Valid now ∧ (s.startupSeedSent = false ∨ s.isOperationEnabled = false)

/-- At standstill at the commanded position the switch from the velocity mode is asked for. -/
def Asks (complete : Bool) (now : ℤ) : Prop :=
  complete = true ∧ s.Valid now ∧ (s.seen now).AsksCsp

def Awaits (complete : Bool) (now : ℤ) : Prop :=
  complete = true ∧ s.Valid now ∧ (s.seen now).AwaitsCsp now

/-- The switch is answered, and hands its position over. -/
def HandsOver (complete : Bool) (now : ℤ) : Prop :=
  s.Awaits complete now ∧ s.modeDisplay = kCsp

instance (complete : Bool) (now : ℤ) : Decidable (s.Reads complete now) :=
  inferInstanceAs (Decidable (_ ∧ _ ∧ _))

instance (complete : Bool) (now : ℤ) : Decidable (s.Asks complete now) :=
  inferInstanceAs (Decidable (_ ∧ _ ∧ _))

instance (complete : Bool) (now : ℤ) : Decidable (s.Awaits complete now) :=
  inferInstanceAs (Decidable (_ ∧ _ ∧ _))

instance (complete : Bool) (now : ℤ) : Decidable (s.HandsOver complete now) :=
  inferInstanceAs (Decidable (_ ∧ _))

/-- The position is within the tolerance of the measured one. -/
def Near (raw : ℤ) : Prop := |(raw : K) - s.actualPositionRaw| ≤ s.toleranceCounts

/-- What the start hook makes of the hold of an axis fixed to the position mode. -/
inductive Moves (complete : Bool) (now : ℤ) (t : KincoCyclicModeSlave K) : Prop
  | reads (reads : s.Reads complete now) (hold : t.holdPositionRaw = s.actualPositionRaw)
      (owned : t.positionOwned = true → t.errorLatched = true)
      (flight : t.modeRequestInFlight = true → s.modeRequestInFlight = true ∧
        t.modeRequestTarget = s.modeRequestTarget ∧ t.cspSeedRaw = s.cspSeedRaw)
  | stays (aside : ¬s.Reads complete now) (fresh : t.states.commandFresh = false)
      (unanswered : ¬s.HandsOver complete now) (stays : s.Stays t)
      (position : s.holdKnown = true → t.output.position = s.holdPositionRaw)
  | asks (aside : ¬s.Reads complete now) (fresh : t.states.commandFresh = false)
      (asks : s.Asks complete now) (hold : t.holdPositionRaw = s.holdPositionRaw)
      (owned : t.positionOwned = true → s.positionOwned = true)
      (unlatched : s.errorLatched = false)
      (position : t.output.position = s.actualPositionRaw)
      (flight : t.modeRequestInFlight = true → t.modeRequestTarget = kCsp ∧
        t.cspSeedRaw = s.actualPositionRaw)
  | awaits (aside : ¬s.Reads complete now) (fresh : t.states.commandFresh = false)
      (awaits : s.Awaits complete now) (unanswered : s.modeDisplay ≠ kCsp) (stays : s.Stays t)
      (position : t.output.position = s.cspSeedRaw)
  | handsOver (aside : ¬s.Reads complete now) (handsOver : s.HandsOver complete now)
      (hold : t.holdPositionRaw = s.cspSeedRaw) (position : t.output.position = s.cspSeedRaw)
      (landed : t.modeRequestInFlight = false)
  | takes (aside : ¬s.Reads complete now) (fresh : t.states.commandFresh = true) (target : ℤ)
      (command : s.validPositionCommand = some target) (display : s.modeDisplay = kCsp)
      (unlatched : s.errorLatched = false)
      (near : s.positionOwned = false → s.Near s.holdPositionRaw ∧ s.Near target)
      (hold : t.holdPositionRaw = target) (position : t.output.position = target)
      (landed : t.modeRequestInFlight = false)

omit [FloorRing K] in
theorem rests_inhibitOperation : s.Rests s.inhibitOperation :=
  ⟨⟨rfl, id, id, fun h => ⟨h, rfl, rfl⟩⟩, id, id⟩

theorem rests_confirmStartupMode (now : ℤ) : s.Rests (s.confirmStartupMode now) := by
  have hwait : s.Rests (s.waitForStartupMode now) := by
    unfold waitForStartupMode
    split_ifs <;> exact ⟨⟨rfl, id, id, fun h => ⟨h, rfl, rfl⟩⟩, id, id⟩
  refine hwait.trans ?_
  unfold confirmStartupMode
  dsimp only
  split_ifs
  · exact rests_clearHandoff _ true
  · exact ⟨⟨rfl, id, id, fun h => ⟨h, rfl, rfl⟩⟩, id, fun _ => rfl⟩

theorem rests_or_takes :
    s.Rests s.takePosition ∨ ∃ target, s.validPositionCommand = some target ∧
      s.takePosition = s.ownPosition target ∧
      (s.positionOwned = false → s.Near s.holdPositionRaw ∧ s.Near target) := by
  have hrefuse : s.Rests s.refuseTakeover :=
    (s.rests_clearHandoff true).trans (rests_inhibitOperation _)
  unfold takePosition
  split_ifs with hfar hnone
  · exact .inl hrefuse
  · exact .inl ⟨.refl s, id, id⟩
  · split
    · exact .inl hrefuse
    next target hcommand =>
      split_ifs with hjump
      · exact .inl hrefuse
      · refine .inr ⟨target, hcommand, rfl, fun hunowned => ?_⟩
        simp only [hunowned, Bool.not_false, Bool.true_and, farFrom, decide_eq_true_eq,
          not_lt] at hfar hjump
        exact ⟨hfar, hjump⟩

theorem desiredMode_of_fixed (h : s.config.FixedCsp) : s.desiredMode = kCsp := by
  rw [desiredMode, h.1, Bool.false_and, if_neg Bool.false_ne_true, h.2]

variable {s} in
theorem Moves.of_rests {complete : Bool} {now : ℤ} {t : KincoCyclicModeSlave K}
    (aside : ¬s.Reads complete now) (unanswered : ¬s.HandsOver complete now)
    (h : (s.prepare complete now).Rests t) : s.Moves complete now t :=
  .stays aside (h.fresh rfl) unanswered ⟨h.hold, h.owned, h.latched, h.flight⟩
    fun hknown => h.position (if_pos hknown)

theorem rests_seen (now : ℤ) : (s.prepare true now).Rests (s.seen now) :=
  ⟨⟨rfl, id, id, fun h => ⟨h, rfl, rfl⟩⟩, id, id⟩

theorem not_reads_of_enabled {now : ℤ} (seeded : s.startupSeedSent = true)
    (enabled : s.isOperationEnabled = true) : ¬s.Reads true now := by
  rintro ⟨-, -, hunseeded | hdisabled⟩
  · exact ne_true_of_eq_false hunseeded seeded
  · exact ne_true_of_eq_false hdisabled enabled

omit [FloorRing K] in
theorem rests_enterEnabled : s.Rests s.enterEnabled where
  hold := rfl
  owned h := (Bool.and_eq_true _ _ ▸ h).1
  latched := id
  flight h := ⟨h, rfl, rfl⟩
  fresh := id
  position := id

theorem moves_operate (now : ℤ) (valid : s.Valid now) (hfixed : s.config.FixedCsp)
    (hflight : s.modeRequestInFlight = true → s.modeRequestTarget = kCsp)
    (hoperates : (s.seen now).Operates) :
    s.Moves true now ((s.seen now).enterEnabled.operate now) := by
  have haside : ¬s.Reads true now := s.not_reads_of_enabled hoperates.seeded hoperates.enabled
  have hdesired : (s.seen now).enterEnabled.desiredMode = kCsp := desiredMode_of_fixed _ hfixed
  have henter := (s.rests_seen now).trans (rests_enterEnabled _)
  unfold operate
  by_cases hawaited : (s.seen now).enterEnabled.modeRequestInFlight = true
  · rw [if_pos hawaited, awaitMode]
    have htarget : (s.seen now).enterEnabled.modeRequestTarget = kCsp := hflight hawaited
    by_cases hwithdrawn : (s.seen now).enterEnabled.requestWithdrawn now = true
    · rw [if_pos hwithdrawn]
      refine .of_rests haside ?_ (henter.trans (rests_clearHandoff _ true))
      rintro ⟨⟨-, -, -, -, hstands, -⟩, -⟩
      exact ne_true_of_eq_false hstands hwithdrawn
    have hawaits : s.Awaits true now :=
      ⟨rfl, valid, hoperates, hawaited, Bool.eq_false_iff.2 hwithdrawn, htarget⟩
    rw [if_neg hwithdrawn, if_pos htarget, awaitCsp]
    by_cases hdisplay : (s.seen now).enterEnabled.modeDisplay = kCsp
    · rw [if_pos hdisplay]
      exact .handsOver haside ⟨hawaits, hdisplay⟩ rfl rfl rfl
    · rw [if_neg hdisplay]
      exact .awaits haside rfl hawaits hdisplay
        ⟨rfl, henter.owned, id, fun h => ⟨h, rfl, rfl⟩⟩ rfl
  have hunanswered : ¬s.HandsOver true now := fun h => hawaited h.1.2.2.2.1
  rw [if_neg hawaited]
  by_cases hdisplay : s.modeDisplay = kCsp
  · have hshown : ¬(s.seen now).enterEnabled.desiredMode ≠ (s.seen now).enterEnabled.modeDisplay :=
      not_not_intro (hdesired.trans hdisplay.symm)
    rw [if_neg hshown, if_pos hdesired, followPosition]
    have hreached : (s.prepare true now).Rests ((s.seen now).enterEnabled.modeReached.putPosition
        (s.seen now).enterEnabled.modeReached.holdPositionRaw) :=
      henter.trans ⟨⟨rfl, id, id, fun h => ⟨h, rfl, rfl⟩⟩, id, fun _ => rfl⟩
    rcases rests_or_takes ((s.seen now).enterEnabled.modeReached.putPosition
        (s.seen now).enterEnabled.modeReached.holdPositionRaw) with
      hrests | ⟨target, hcommand, htakes, hnear⟩
    · exact .of_rests haside hunanswered (hreached.trans hrests)
    · rw [htakes]
      refine .takes haside rfl target hcommand hdisplay hoperates.unlatched (fun hunowned => ?_)
        rfl rfl (Bool.eq_false_iff.2 hawaited)
      have hfree : (s.seen now).enterEnabled.positionOwned = false := by
        change (s.positionOwned && _) = false
        rw [hunowned, Bool.false_and]
      exact hnear hfree
  · have hleft : (s.seen now).enterEnabled.desiredMode ≠ (s.seen now).enterEnabled.modeDisplay :=
      fun h => hdisplay (h.symm.trans hdesired)
    have hcsv : s.modeDisplay = kCsv := by
      have hdisplays := valid.displays
      simp only [displaysMode, Bool.or_eq_true, decide_eq_true_eq] at hdisplays
      exact (hdisplays.resolve_left (not_or.2 ⟨hoperates.displays, hdisplay⟩))
    rw [if_pos hleft, requestMode, if_pos ⟨hcsv, hdesired⟩, requestCsp]
    by_cases hseeds : (s.seen now).seedsCsp = true
    · have hasks : s.Asks true now := ⟨rfl, valid, hoperates, Bool.eq_false_iff.2 hawaited, hcsv,
        desiredMode_of_fixed _ hfixed, hseeds⟩
      have hseeds' : ¬(!(s.seen now).enterEnabled.seedsCsp) = true := by
        change ¬(!(s.seen now).seedsCsp) = true
        rw [hseeds]
        exact Bool.false_ne_true
      rw [if_neg hseeds']
      split_ifs
      · exact .asks haside rfl hasks rfl henter.owned hoperates.unlatched rfl
          fun h => (hawaited h).elim
      · exact .asks haside rfl hasks rfl henter.owned hoperates.unlatched rfl fun _ => ⟨rfl, rfl⟩
    · have hseeds' : (!(s.seen now).enterEnabled.seedsCsp) = true := by
        change (!(s.seen now).seedsCsp) = true
        rw [Bool.eq_false_iff.2 hseeds]
        rfl
      rw [if_pos hseeds']
      exact .of_rests haside hunanswered henter

theorem moves_seededCycle (now : ℤ) (valid : s.Valid now) (seeded : s.startupSeedSent = true)
    (hfixed : s.config.FixedCsp)
    (hflight : s.modeRequestInFlight = true → s.modeRequestTarget = kCsp) :
    s.Moves true now ((s.seen now).seededCycle now) := by
  cases henabled : s.isOperationEnabled with
  | false =>
    have htracked : (s.seen now).tracked = (s.seen now).trackDisabled :=
      if_pos (show (!s.isOperationEnabled) = true by rw [henabled]; rfl)
    have hdisabled : (!(s.seen now).trackDisabled.isOperationEnabled) = true := by
      change (!s.isOperationEnabled) = true
      rw [henabled]
      rfl
    have hreads : s.Reads true now := ⟨rfl, valid, .inr henabled⟩
    rw [seededCycle, htracked, unlatchedCycle]
    split_ifs with hlatched hleft
    · exact .reads hreads rfl (fun _ => hlatched) fun h => ⟨h, rfl, rfl⟩
    · exact (hleft.1 (desiredMode_of_fixed _ hfixed)).elim
    · exact .reads hreads rfl (by rintro ⟨⟩) (by rintro ⟨⟩)
  | true =>
    have haside : ¬s.Reads true now := s.not_reads_of_enabled seeded henabled
    have hdesired : (s.seen now).desiredMode = kCsp := desiredMode_of_fixed _ hfixed
    by_cases hoperates : (s.seen now).Operates
    · rw [seededCycle_of_operates _ now hoperates]
      exact s.moves_operate now valid hfixed hflight hoperates
    have hunanswered : ¬s.HandsOver true now := fun h => hoperates h.1.2.2.1
    have htracked : (s.seen now).tracked = s.seen now :=
      if_neg (show ¬(!s.isOperationEnabled) = true by rw [henabled]; exact Bool.false_ne_true)
    rw [seededCycle, htracked, unlatchedCycle]
    split_ifs with hlatched hleft hdown hdisplay
    · refine .of_rests haside hunanswered ((s.rests_seen now).trans ?_)
      exact Rests.trans (t := { s.seen now with
        states := { (s.seen now).states with modeRequestError := true } })
        ⟨⟨rfl, id, id, fun h => ⟨h, rfl, rfl⟩⟩, id, id⟩ (rests_inhibitOperation _)
    · exact (hleft.1 hdesired).elim
    · change (!s.isOperationEnabled) = true at hdown
      rw [henabled] at hdown
      exact (Bool.false_ne_true hdown).elim
    · exact .of_rests haside hunanswered
        ((s.rests_seen now).trans (rests_confirmStartupMode _ now))
    · exact (hoperates ⟨seeded, Bool.eq_false_iff.2 hlatched, henabled, hdisplay,
        .inl hdesired⟩).elim

theorem moves_onPdoCycleStart (complete : Bool) (now : ℤ) (hfixed : s.config.FixedCsp)
    (hflight : s.modeRequestInFlight = true → s.modeRequestTarget = kCsp) :
    s.Moves complete now (s.onPdoCycleStart complete now) := by
  have hexit := s.startExit complete now
  generalize s.onPdoCycleStart complete now = t at hexit
  cases hexit with
  | rides ride =>
    exact .of_rests (fun h => Bool.false_ne_true h.1) (fun h => Bool.false_ne_true h.1.1)
      ⟨⟨rfl, id, id, fun h => ⟨h, rfl, rfl⟩⟩, id, id⟩
  | lost strict =>
    exact .of_rests (fun h => Bool.false_ne_true h.1) (fun h => Bool.false_ne_true h.1.1)
      (rests_loseSeed _ true)
  | incomplete down =>
    have hinvalid : ¬s.Valid now := by
      intro h
      rcases down with hdown | hdown
      · exact ne_true_of_eq_false hdown h.operational
      · exact ne_true_of_eq_false hdown h.inputs
    exact .of_rests (fun h => hinvalid h.2.1) (fun h => hinvalid h.1.2.1) (rests_loseSeed _ false)
  | stale operational inputs stale =>
    have hinvalid : ¬s.Valid now := by
      intro h
      rcases stale with hstale | hstale
      · exact ne_true_of_eq_false hstale h.fresh
      · exact ne_true_of_eq_false hstale h.displays
    exact .of_rests (fun h => hinvalid h.2.1) (fun h => hinvalid h.1.2.1) (rests_loseSeed _ true)
  | seeds valid unseeded =>
    exact .reads ⟨rfl, valid, .inl unseeded⟩ rfl nofun
      fun h => ⟨h, rfl, rfl⟩
  | seeded valid seeded => exact s.moves_seededCycle now valid seeded hfixed hflight

/-! ### The measurement of the cycle -/

/-- The target that the commands and the hold alone lead to. -/
def heldTarget (complete : Bool) (now : ℤ) : ℤ :=
  if complete = true ∧ s.Valid now ∧ s.modeDisplay = kCsp ∧ s.commands.position.isNan = false then
    s.validPositionCommand.getD s.holdPositionRaw
  else s.holdPositionRaw

omit [FloorRing K] in
theorem not_requestsEnable_inhibited {P : Prop}
    (h : requestsEnable s.inhibitOperation.output.controlWord = true) : P :=
  absurd h (ne_true_of_eq_false s.inhibited_inhibitOperation.1)

theorem target_takePosition (h : requestsEnable s.takePosition.output.controlWord = true) :
    s.takePosition.output.position =
      if s.commands.position.isNan = false then s.validPositionCommand.getD s.holdPositionRaw
      else s.output.position := by
  unfold takePosition at h ⊢
  by_cases hfar : (!s.positionOwned && s.farFrom s.holdPositionRaw) = true
  · rw [if_pos hfar] at h
    exact not_requestsEnable_inhibited _ h
  rw [if_neg hfar] at h ⊢
  cases hnan : s.commands.position.isNan with
  | true =>
    have hnone : s.validPositionCommand = none := by
      unfold validPositionCommand
      cases hposition : s.commands.position <;> simp_all [Double.isNan]
    simp only [hnan, hnone, Bool.true_and, Bool.true_eq_false, if_false] at h ⊢
    split_ifs at h ⊢ with howned
    · rfl
    · exact not_requestsEnable_inhibited _ h
  | false =>
    simp only [hnan, Bool.false_and, Bool.false_eq_true, if_false, if_true] at h ⊢
    cases hcommand : s.validPositionCommand with
    | none =>
      rw [hcommand] at h
      exact not_requestsEnable_inhibited _ h
    | some target =>
      simp only [hcommand] at h ⊢
      split_ifs at h ⊢ with hjump
      · exact not_requestsEnable_inhibited _ h
      · rfl

theorem target_seededCycle {now : ℤ} (valid : s.Valid now) (seeded : s.startupSeedSent = true)
    (hfixed : s.config.FixedCsp) (hknown : s.holdKnown = true)
    (henabled : s.isOperationEnabled = true) (hdisplay : s.modeDisplay ≠ kCsv)
    (hidle : s.modeRequestInFlight = false)
    (h : requestsEnable ((s.seen now).seededCycle now).output.controlWord = true) :
    ((s.seen now).seededCycle now).output.position = s.heldTarget true now := by
  have hdesired : (s.seen now).desiredMode = kCsp := desiredMode_of_fixed _ hfixed
  have hheld : (s.seen now).output.position = s.holdPositionRaw := if_pos hknown
  by_cases hoperates : (s.seen now).Operates
  · have hshown : s.modeDisplay = kCsp := by
      have hdisplays := valid.displays
      simp only [displaysMode, Bool.or_eq_true, decide_eq_true_eq] at hdisplays
      exact (hdisplays.resolve_right hdisplay).resolve_left hoperates.displays
    have hflying : ¬(s.seen now).enterEnabled.modeRequestInFlight = true :=
      Bool.eq_false_iff.1 hidle
    have hstays : ¬(s.seen now).enterEnabled.desiredMode ≠ (s.seen now).enterEnabled.modeDisplay :=
      not_not_intro (hdesired.trans hshown.symm)
    have hcsp : (s.seen now).enterEnabled.desiredMode = kCsp := hdesired
    rw [seededCycle_of_operates _ now hoperates, operate, if_neg hflying, if_neg hstays,
      if_pos hcsp, followPosition] at h ⊢
    rw [target_takePosition _ h, heldTarget]
    simp only [valid, hshown, true_and]
    rfl
  have htracked : (s.seen now).tracked = s.seen now :=
    if_neg (show ¬(!s.isOperationEnabled) = true by rw [henabled]; exact Bool.false_ne_true)
  have hdown : ¬(!(s.seen now).isOperationEnabled) = true := by
    change ¬(!s.isOperationEnabled) = true
    rw [henabled]
    exact Bool.false_ne_true
  rw [seededCycle, htracked, unlatchedCycle] at h ⊢
  split_ifs at h ⊢ with hlatched hleft hundisplayed
  · exact not_requestsEnable_inhibited _ h
  · exact (hleft.1 hdesired).elim
  · have hnone : s.modeDisplay ≠ kCsp := by
      rw [show s.modeDisplay = 0 from hundisplayed]
      decide
    rw [heldTarget, if_neg fun hall => hnone hall.2.2.1]
    exact (rests_confirmStartupMode _ now).position hheld
  · exact (hoperates ⟨seeded, Bool.eq_false_iff.2 hlatched, henabled, hundisplayed,
      .inl hdesired⟩).elim

theorem target_onPdoCycleStart (complete : Bool) (now : ℤ) (hfixed : s.config.FixedCsp)
    (hknown : s.startupSeedSent = true → s.holdKnown = true)
    (henabled : s.isOperationEnabled = true) (hdisplay : s.modeDisplay ≠ kCsv)
    (hidle : s.modeRequestInFlight = false)
    (h : requestsEnable (s.onPdoCycleStart complete now).output.controlWord = true) :
    (s.onPdoCycleStart complete now).output.position = s.heldTarget complete now := by
  have hseeded : ∀ complete,
      requestsEnable (s.prepare complete now).output.controlWord = true → s.holdKnown = true :=
    fun complete hword => hknown ((s.requestsEnable_prepare complete now).1 hword).2.1
  have hexit := s.startExit complete now
  generalize s.onPdoCycleStart complete now = t at hexit h ⊢
  cases hexit with
  | rides ride | lost strict =>
    rw [heldTarget, if_neg fun hall => Bool.false_ne_true hall.1]
    exact if_pos (hseeded false h)
  | incomplete down =>
    rw [heldTarget, if_neg]
    · exact if_pos (hseeded true h)
    · rintro ⟨-, hvalid, -⟩
      rcases down with hdown | hdown
      · exact ne_true_of_eq_false hdown hvalid.operational
      · exact ne_true_of_eq_false hdown hvalid.inputs
  | stale operational inputs stale =>
    rw [heldTarget, if_neg]
    · exact if_pos (hseeded true h)
    · rintro ⟨-, hvalid, -⟩
      rcases stale with hstale | hstale
      · exact ne_true_of_eq_false hstale hvalid.fresh
      · exact ne_true_of_eq_false hstale hvalid.displays
  | seeds valid unseeded =>
    have hword := ((s.requestsEnable_prepare true now).1 h).2.1
    exact absurd hword (ne_true_of_eq_false unseeded)
  | seeded valid seeded =>
    exact s.target_seededCycle valid seeded hfixed (hknown seeded) henabled hdisplay hidle h

def remeasured (raw : ℤ) : KincoCyclicModeSlave K := { s with actualPositionRaw := raw }

theorem heldTarget_remeasured (raw : ℤ) (complete : Bool) (now : ℤ) :
    (s.remeasured raw).heldTarget complete now = s.heldTarget complete now := by
  have hvalid : (s.remeasured raw).Valid now ↔ s.Valid now :=
    ⟨fun h => ⟨h.operational, h.inputs, h.fresh, h.displays⟩,
      fun h => ⟨h.operational, h.inputs, h.fresh, h.displays⟩⟩
  unfold heldTarget
  simp only [hvalid]
  rfl

/-! ### Runs -/

omit [FloorRing K] in
theorem config_atStart (c : KincoCycle K) : (s.atStart c).config = s.config := by
  change (s.readData c).config = s.config
  unfold readData
  split
  · refine (congrArg Bookkeeping.config (bookkeeping_processInputs _ c.inputs)).trans ?_
    unfold onPdoCycleRead
    dsimp only
    split_ifs <;> rfl
  · rfl

theorem config_cycle (c : KincoCycle K) : (s.cycle c).config = s.config := by
  have hstarted : (s.started c).config = s.config := by
    refine Eq.trans ?_ (s.config_atStart c)
    have hexit := (s.atStart c).startExit c.complete c.startAt
    change (s.atStart c).StartExit _ _ (s.started c) at hexit
    generalize s.started c = t, c.complete = complete, c.startAt = now at hexit
    cases hexit with
    | seeded valid seeded => exact congrArg Bookkeeping.config (bookkeeping_seededCycle _ now)
    | _ => rfl
  have hprocessed : ((s.started c).processInputs c.inputs).config = s.config :=
    (congrArg Bookkeeping.config (bookkeeping_processInputs _ c.inputs)).trans hstarted
  refine Eq.trans ?_ hprocessed
  by_cases hsilent : ((s.started c).processInputs c.inputs).cycleComplete = false ∨
      ((s.started c).processInputs c.inputs).isOperational = false
  · rw [cycle, onPdoCycleSent_of_silent _ hsilent]
  · simp only [not_or, Bool.not_eq_false] at hsilent
    refine (congrArg Bookkeeping.config
      (bookkeeping_onPdoCycleSent _ hsilent.1 hsilent.2)).trans ?_
    split_ifs <;> rfl

/-- A command within the limits leads to the target. -/
def Commanded (target : ℤ) : Prop :=
  ∃ value, s.commands.position = .finite value ∧ s.config.minPosition ≤ value ∧
    value ≤ s.config.maxPosition ∧ target = Double.llround
      (value * s.config.positionCountsPerUnit + s.config.positionOffsetCounts)

theorem commanded_of_valid {target : ℤ} (h : s.validPositionCommand = some target) :
    s.Commanded target := by
  unfold validPositionCommand at h
  cases hposition : s.commands.position with
  | finite value =>
    simp only [hposition] at h
    split_ifs at h with hvalid
    exact ⟨value, hposition, hvalid.1, hvalid.2.1, (Option.some_inj.1 h).symm⟩
  | _ => simp [hposition] at h

end KincoCyclicModeSlave

/-- The axis beside the position measured when it was disabled last or took its seed, the target
taken over since, and the position at which a switch was asked for. -/
structure Takeover (K : Type*) [Field K] [LinearOrder K] where
  slave : KincoCyclicModeSlave K
  reading : ℤ := 0
  taken : Option ℤ := none
  seed : ℤ := 0

namespace Takeover

variable {K : Type*} [Field K] [LinearOrder K]

/-- The set-up axis. -/
def start (config : KincoConfig K) (commands : KincoCommands K) : Takeover K where
  slave := .start config commands

def hold (r : Takeover K) : ℤ := r.taken.getD r.reading

variable [FloorRing K] (r : Takeover K)

def target (c : KincoCycle K) : ℤ := (r.slave.started c).output.position

/-- The cycle takes a command, or the position of an answered switch. -/
def Takes (c : KincoCycle K) : Prop :=
  (r.slave.started c).states.commandFresh = true ∨
    (r.slave.atStart c).HandsOver c.complete c.startAt

instance (c : KincoCycle K) : Decidable (r.Takes c) := inferInstanceAs (Decidable (_ ∨ _))

def step : KincoLabel K → Takeover K
  | .cycle c =>
    let s := r.slave.atStart c
    { slave := r.slave.cycle c
      reading := if s.Reads c.complete c.startAt then s.actualPositionRaw else r.reading
      taken :=
        if s.Reads c.complete c.startAt then none
        else if r.Takes c then some (r.target c)
        else r.taken
      seed := if s.Asks c.complete c.startAt then s.actualPositionRaw else r.seed }
  | .operational value => { r with slave := r.slave.setStateIsOperational value }

/-- The cycle enables a drive that operates. -/
def Enables (c : KincoCycle K) : Prop :=
  requestsEnable (r.slave.started c).output.controlWord = true ∧
    (r.slave.atStart c).isOperationEnabled = true

instance (c : KincoCycle K) : Decidable (r.Enables c) := inferInstanceAs (Decidable (_ ∧ _))

/-- Where the target of a cycle comes from. -/
inductive Permits (c : KincoCycle K) : ℤ → Prop
  | held : Permits c r.hold
  | command (target : ℤ) (display : (r.slave.atStart c).modeDisplay = kCsp)
      (command : (r.slave.atStart c).Commanded target)
      (near : r.taken = none →
        |(target : K) - (r.slave.atStart c).actualPositionRaw| ≤
            (r.slave.atStart c).toleranceCounts ∧
          |(target : K) - r.reading| ≤ 2 * (r.slave.atStart c).toleranceCounts) :
      Permits c target
  | seed (display : (r.slave.atStart c).modeDisplay = kCsv)
      (still : (r.slave.atStart c).stationary = true)
      (command : (r.slave.atStart c).Commanded (r.slave.atStart c).actualPositionRaw) :
      Permits c (r.slave.atStart c).actualPositionRaw
  | awaited (awaits : (r.slave.atStart c).Awaits c.complete c.startAt) : Permits c r.seed

/-- Another measurement in the cycle would lead to the same target. -/
def IgnoresMeasurement (c : KincoCycle K) : Prop :=
  (r.slave.atStart c).modeDisplay ≠ kCsv → (r.slave.atStart c).modeRequestInFlight = false →
    ∀ raw, requestsEnable (((r.slave.atStart c).remeasured raw).onPdoCycleStart c.complete
        c.startAt).output.controlWord = true →
      (((r.slave.atStart c).remeasured raw).onPdoCycleStart c.complete c.startAt).output.position =
        r.target c

def BumpLimited : KincoLabel K → Prop
  | .cycle c => r.Enables c → r.Permits c (r.target c) ∧ r.IgnoresMeasurement c
  | .operational _ => True

structure Invariant (r : Takeover K) : Prop where
  fixed : r.slave.config.FixedCsp
  settled : r.slave.startupSeedPending = false
  known : r.slave.startupSeedSent = true → r.slave.holdKnown = true
  hold : r.slave.holdPositionRaw = r.hold
  owned : r.slave.positionOwned = true → r.slave.errorLatched = false → r.taken ≠ none
  flight : r.slave.modeRequestInFlight = true →
    r.slave.modeRequestTarget = kCsp ∧ r.slave.cspSeedRaw = r.seed

variable {r}

omit [FloorRing K] in
theorem Invariant.atStart (h : r.Invariant) (c : KincoCycle K) :
    Invariant { r with slave := r.slave.atStart c } := by
  have hkeeps := r.slave.keeps_atStart c
  have hstays := r.slave.stays_atStart c
  exact {
    fixed := (r.slave.config_atStart c).symm ▸ h.fixed
    settled := hkeeps.pending.trans h.settled
    known := fun hseeded => hkeeps.known.trans (h.known (hkeeps.seeded hseeded))
    hold := hstays.hold.trans h.hold
    owned := fun howned hunlatched => by
      refine h.owned (hstays.owned howned) (Bool.eq_false_iff.2 fun hlatched => ?_)
      exact ne_true_of_eq_false hunlatched (hstays.latched hlatched)
    flight := fun hflight => by
      obtain ⟨hbefore, htarget, hseed⟩ := hstays.flight hflight
      exact ⟨htarget.trans (h.flight hbefore).1, hseed.trans (h.flight hbefore).2⟩ }

theorem Invariant.moves (h : r.Invariant) (c : KincoCycle K) :
    (r.slave.atStart c).Moves c.complete c.startAt (r.slave.started c) :=
  KincoCyclicModeSlave.moves_onPdoCycleStart _ c.complete c.startAt (h.atStart c).fixed
    fun hflight => ((h.atStart c).flight hflight).1

theorem not_asks_of_flight {s : KincoCyclicModeSlave K} {complete : Bool} {now : ℤ}
    (h : s.modeRequestInFlight = true) : ¬s.Asks complete now :=
  fun hasks => ne_true_of_eq_false hasks.2.2.2.1 h

theorem hold_of_quiet (c : KincoCycle K)
    (aside : ¬(r.slave.atStart c).Reads c.complete c.startAt) (quiet : ¬r.Takes c) :
    (r.step (.cycle c)).taken = r.taken ∧ (r.step (.cycle c)).hold = r.hold := by
  have htaken : (r.step (.cycle c)).taken = r.taken := (if_neg aside).trans (if_neg quiet)
  have hreading : (r.step (.cycle c)).reading = r.reading := if_neg aside
  refine ⟨htaken, ?_⟩
  rw [hold, htaken, hreading]
  rfl

theorem hold_of_takes (c : KincoCycle K)
    (aside : ¬(r.slave.atStart c).Reads c.complete c.startAt) (takes : r.Takes c) :
    (r.step (.cycle c)).taken = some (r.target c) ∧ (r.step (.cycle c)).hold = r.target c := by
  have htaken : (r.step (.cycle c)).taken = some (r.target c) :=
    (if_neg aside).trans (if_pos takes)
  refine ⟨htaken, ?_⟩
  rw [hold, htaken]
  rfl

theorem not_takes {c : KincoCycle K} (fresh : (r.slave.started c).states.commandFresh = false)
    (unanswered : ¬(r.slave.atStart c).HandsOver c.complete c.startAt) : ¬r.Takes c :=
  not_or.2 ⟨Bool.eq_false_iff.1 fresh, unanswered⟩

theorem Invariant.started (h : r.Invariant) (c : KincoCycle K) :
    (r.slave.started c).holdPositionRaw = (r.step (.cycle c)).hold ∧
      ((r.slave.started c).positionOwned = true → (r.slave.started c).errorLatched = false →
        (r.step (.cycle c)).taken ≠ none) ∧
      ((r.slave.started c).modeRequestInFlight = true →
        (r.slave.started c).modeRequestTarget = kCsp ∧
          (r.slave.started c).cspSeedRaw = (r.step (.cycle c)).seed) := by
  have hstart := h.atStart c
  have hkept : ∀ {t : KincoCyclicModeSlave K}, (t.modeRequestInFlight = true →
      (r.slave.atStart c).modeRequestInFlight = true ∧
        t.modeRequestTarget = (r.slave.atStart c).modeRequestTarget ∧
        t.cspSeedRaw = (r.slave.atStart c).cspSeedRaw) →
      t.modeRequestInFlight = true →
      t.modeRequestTarget = kCsp ∧ t.cspSeedRaw = (r.step (.cycle c)).seed := by
    intro t hflight ht
    obtain ⟨hbefore, htarget, hseed⟩ := hflight ht
    obtain ⟨hcsp, hheld⟩ := hstart.flight hbefore
    refine ⟨htarget.trans hcsp, hseed.trans (hheld.trans ?_)⟩
    exact (if_neg (not_asks_of_flight hbefore)).symm
  have howned : ∀ {t : KincoCyclicModeSlave K},
      (t.positionOwned = true → (r.slave.atStart c).positionOwned = true) →
      ((r.slave.atStart c).errorLatched = true → t.errorLatched = true) →
      t.positionOwned = true → t.errorLatched = false → r.taken ≠ none := by
    intro t hown hlatch howns hunlatched
    refine hstart.owned (hown howns) (Bool.eq_false_iff.2 fun hlatched => ?_)
    exact ne_true_of_eq_false hunlatched (hlatch hlatched)
  cases h.moves c with
  | reads reads hold owned flight =>
    have hreading : (r.step (.cycle c)).reading = (r.slave.atStart c).actualPositionRaw :=
      if_pos reads
    have hnone : (r.step (.cycle c)).taken = none := if_pos reads
    refine ⟨?_, fun howned hunlatched => ?_, hkept flight⟩
    · rw [hold, Takeover.hold, hnone, hreading]
      rfl
    · exact absurd (owned howned) (ne_true_of_eq_false hunlatched)
  | stays aside fresh unanswered stays position =>
    obtain ⟨htaken, hhold⟩ := hold_of_quiet c aside (not_takes fresh unanswered)
    rw [htaken, hhold]
    exact ⟨stays.hold.trans hstart.hold, howned stays.owned stays.latched, hkept stays.flight⟩
  | asks aside fresh asks hold owned unlatched position flight =>
    have hunanswered : ¬(r.slave.atStart c).HandsOver c.complete c.startAt :=
      fun hover => not_asks_of_flight (s := r.slave.atStart c) hover.1.2.2.2.1 asks
    obtain ⟨htaken, hhold⟩ := hold_of_quiet c aside (not_takes fresh hunanswered)
    have hseed : (r.step (.cycle c)).seed = (r.slave.atStart c).actualPositionRaw := if_pos asks
    rw [htaken, hhold, hseed]
    exact ⟨hold.trans hstart.hold, fun hown _ => hstart.owned (owned hown) unlatched, flight⟩
  | awaits aside fresh awaits unanswered stays position =>
    obtain ⟨htaken, hhold⟩ :=
      hold_of_quiet c aside (not_takes fresh fun hover => unanswered hover.2)
    rw [htaken, hhold]
    exact ⟨stays.hold.trans hstart.hold, howned stays.owned stays.latched, hkept stays.flight⟩
  | handsOver aside handsOver hold position landed =>
    obtain ⟨htaken, hhold⟩ := hold_of_takes c aside (.inr handsOver)
    rw [htaken, hhold]
    exact ⟨hold.trans position.symm, fun _ _ => Option.some_ne_none _,
      fun hflight => absurd hflight (ne_true_of_eq_false landed)⟩
  | takes aside fresh target command display unlatched near hold position landed =>
    obtain ⟨htaken, hhold⟩ := hold_of_takes c aside (.inl fresh)
    rw [htaken, hhold]
    exact ⟨hold.trans position.symm, fun _ _ => Option.some_ne_none _,
      fun hflight => absurd hflight (ne_true_of_eq_false landed)⟩

theorem Invariant.step (h : r.Invariant) (label : KincoLabel K) : (r.step label).Invariant := by
  cases label with
  | cycle c =>
    obtain ⟨hhold, howned, hflight⟩ := h.started c
    have hsent : (r.slave.started c).Stays (r.slave.cycle c) :=
      (KincoCyclicModeSlave.stays_processInputs _ c.inputs).trans
        (KincoCyclicModeSlave.stays_onPdoCycleSent _)
    obtain ⟨hsettled, hseeded⟩ := r.slave.cycle_remembers c h.settled h.known
    refine ⟨(r.slave.config_cycle c).symm ▸ h.fixed, hsettled, fun hseed => ?_,
      hsent.hold.trans hhold, fun hown hunlatched => ?_, fun hawaited => ?_⟩
    · have hremembers := hseeded hseed
      split_ifs at hremembers
      · exact hremembers.known
      · exact hremembers.known.trans (h.known (hremembers.seeded hseed))
    · refine howned (hsent.owned hown) (Bool.eq_false_iff.2 fun hlatched => ?_)
      exact ne_true_of_eq_false hunlatched (hsent.latched hlatched)
    · obtain ⟨hbefore, htarget, hseed⟩ := hsent.flight hawaited
      exact ⟨htarget.trans (hflight hbefore).1, hseed.trans (hflight hbefore).2⟩
  | operational value =>
    cases value with
    | true => exact ⟨h.fixed, h.settled, h.known, h.hold, h.owned, h.flight⟩
    | false =>
      exact ⟨h.fixed, rfl, nofun, h.hold,
        nofun, nofun⟩

theorem seeded_of_enables {c : KincoCycle K} (henables : r.Enables c) :
    (r.slave.atStart c).startupSeedSent = true := by
  have hword := henables.1
  have hexit := (r.slave.atStart c).startExit c.complete c.startAt
  change (r.slave.atStart c).StartExit _ _ (r.slave.started c) at hexit
  generalize r.slave.started c = t, c.complete = complete, c.startAt = now at hexit hword
  cases hexit with
  | seeded valid seeded => exact seeded
  | @rides now ride | @lost now strict =>
    exact (((r.slave.atStart c).requestsEnable_prepare false now).1 hword).2.1
  | _ => exact (((r.slave.atStart c).requestsEnable_prepare true now).1 hword).2.1

theorem Invariant.permits [IsStrictOrderedRing K] (h : r.Invariant) (c : KincoCycle K)
    (henables : r.Enables c) : r.Permits c (r.target c) := by
  have hstart := h.atStart c
  have hseeded := seeded_of_enables henables
  have hknown := hstart.known hseeded
  cases h.moves c with
  | reads reads hold owned flight =>
    obtain ⟨-, -, hunseeded | hdisabled⟩ := reads
    · exact absurd hseeded (ne_true_of_eq_false hunseeded)
    · exact absurd henables.2 (ne_true_of_eq_false hdisabled)
  | stays aside fresh unanswered stays position =>
    have htarget : r.target c = r.hold := (position hknown).trans hstart.hold
    exact htarget ▸ .held
  | asks aside fresh asks hold owned unlatched position flight =>
    have htarget : r.target c = (r.slave.atStart c).actualPositionRaw := position
    have hseeds := asks.2.2.2.2.2.2
    simp only [KincoCyclicModeSlave.seedsCsp, Bool.and_eq_true, decide_eq_true_eq] at hseeds
    exact htarget ▸ .seed asks.2.2.2.2.1 hseeds.2
      ((r.slave.atStart c).commanded_of_valid hseeds.1)
  | awaits aside fresh awaits unanswered stays position =>
    have htarget : r.target c = r.seed :=
      position.trans (hstart.flight awaits.2.2.2.1).2
    exact htarget ▸ .awaited awaits
  | handsOver aside handsOver hold position landed =>
    have htarget : r.target c = r.seed :=
      position.trans (hstart.flight handsOver.1.2.2.2.1).2
    exact htarget ▸ .awaited handsOver.1
  | takes aside fresh target command display unlatched near hold position landed =>
    have htarget : r.target c = target := position
    rw [htarget]
    refine .command target display ((r.slave.atStart c).commanded_of_valid command) fun hnone => ?_
    have hunowned : (r.slave.atStart c).positionOwned = false :=
      Bool.eq_false_iff.2 fun howned => hstart.owned howned unlatched hnone
    obtain ⟨hheld, hnear⟩ := near hunowned
    have hreading : (r.slave.atStart c).holdPositionRaw = r.reading := by
      rw [hstart.hold, Takeover.hold, hnone]
      rfl
    rw [hreading] at hheld
    refine ⟨hnear, ?_⟩
    have hsplit := abs_sub_le (target : K) ((r.slave.atStart c).actualPositionRaw : K) r.reading
    rw [KincoCyclicModeSlave.Near, abs_sub_comm] at hheld
    simp only [KincoCyclicModeSlave.Near] at hnear
    linarith

theorem Invariant.ignoresMeasurement (h : r.Invariant) (c : KincoCycle K)
    (henables : r.Enables c) : r.IgnoresMeasurement c := by
  have hstart := h.atStart c
  intro hdisplay hidle raw hword
  have htarget := (r.slave.atStart c).target_onPdoCycleStart c.complete c.startAt hstart.fixed
    hstart.known henables.2 hdisplay hidle henables.1
  have hother := ((r.slave.atStart c).remeasured raw).target_onPdoCycleStart c.complete c.startAt
    hstart.fixed hstart.known henables.2 hdisplay hidle hword
  rw [hother, KincoCyclicModeSlave.heldTarget_remeasured]
  exact htarget.symm

theorem Invariant.bumpLimited [IsStrictOrderedRing K] (h : r.Invariant) (label : KincoLabel K) :
    r.BumpLimited label := by
  cases label with
  | cycle c => exact fun henables => ⟨h.permits c henables, h.ignoresMeasurement c henables⟩
  | operational => exact trivial

omit [FloorRing K] in
theorem invariant_start (config : KincoConfig K) (commands : KincoCommands K)
    (hfixed : config.FixedCsp) : Invariant (.start config commands) :=
  ⟨hfixed, rfl, nofun, rfl,
    nofun, nofun⟩

/-- No cycle that enables a drive puts out anything but the position. -/
def Holds (raw : ℤ) (r : Takeover K) : KincoLabel K → Prop
  | .cycle c => r.Enables c → r.target c = raw
  | .operational _ => True

instance (raw : ℤ) (r : Takeover K) : ∀ label, Decidable (Holds raw r label)
  | .cycle _ => inferInstanceAs (Decidable (_ → _))
  | .operational _ => .isTrue trivial

end Takeover

/-- In every run of an axis fixed to the position mode, an enabled drive is sent the hold, or a
command that without a previous takeover is near both the measurement and the hold; the position
of a switch from the velocity mode is the measured one, and was commanded. -/
theorem csp_takeover_limited {K : Type*} [Field K] [LinearOrder K] [IsStrictOrderedRing K]
    [FloorRing K] (config : KincoConfig K) (commands : KincoCommands K)
    (labels : List (KincoLabel K)) (hfixed : config.FixedCsp) :
    Along Takeover.step (fun r => r.BumpLimited) (.start config commands) labels :=
  LabelledRun.along_of_invariant (P := Takeover.Invariant)
    (fun _ label hr => hr.step label) (fun _ label hr => hr.bumpLimited label)
    (Takeover.invariant_start config commands hfixed)
    labels

namespace Kinco

def fixedAxis : KincoConfig ℚ := { configuration kCsp (.inl rfl) with modeSwitching := false }

def standing (statusWord : BitVec 16) (count : ℤ) (writes : List (CommandWrite ℚ)) :
    KincoCycle ℚ where
  complete := true
  inputs := [.statusWord statusWord, .actualPosition 0, .actualVelocity 0, .modeDisplay kCsp]
  readAt := some (4000000 * count)
  writes := writes
  startAt := 4000000 * count + 1000000

def seeded : List (KincoLabel ℚ) := [.operational true, .cycle (standing 0x0021 1 [])]

/-- The first command is ten counts away from the hold. -/
def takingOver : KincoCycle ℚ :=
  standing 0x0027 2 [.controlWord (.finite 15), .position (.finite (1 / 100))]

theorem csp_takeover_limited_seeded :
    ((run Takeover.step (.start fixedAxis commands) seeded).Enables takingOver ∧
      (run Takeover.step (.start fixedAxis commands) seeded).target takingOver = 10) ∧
    Along Takeover.step (fun r => r.BumpLimited) (.start fixedAxis commands)
      (seeded ++ [.cycle takingOver]) :=
  ⟨by decide +kernel, csp_takeover_limited _ _ _ ⟨rfl, rfl⟩⟩

/-- A controller that took over at the hold asks for 3000 counts in the next cycle. -/
theorem takeover_at_hold_then_jumps :
    ¬∀ (config : KincoConfig ℚ) commands before disabled between c, config.FixedCsp →
      ((run Takeover.step (.start config commands) before).slave.atStart disabled).Reads
        disabled.complete disabled.startAt →
      Along Takeover.step
        (Takeover.Holds
          (run Takeover.step (.start config commands) (before ++ [.cycle disabled])).reading)
        (run Takeover.step (.start config commands) (before ++ [.cycle disabled])) between →
      (run Takeover.step (.start config commands)
        (before ++ [.cycle disabled] ++ between)).Enables c →
      (run Takeover.step (.start config commands)
          (before ++ [.cycle disabled] ++ between)).target c =
        (run Takeover.step (.start config commands) (before ++ [.cycle disabled])).reading ∨
      ((run Takeover.step (.start config commands)
          (before ++ [.cycle disabled] ++ between)).slave.atStart c).Near
        ((run Takeover.step (.start config commands)
          (before ++ [.cycle disabled] ++ between)).target c) := by
  intro h
  have hrun := h fixedAxis commands seeded (standing 0x0021 2 [.controlWord (.finite 15)])
    [.cycle (standing 0x0027 3 [.position (.finite 0)])]
    (standing 0x0027 4 [.position (.finite 3)]) ⟨rfl, rfl⟩ (by decide +kernel) (by decide +kernel)
    (by decide +kernel)
  revert hrun
  simp only [KincoCyclicModeSlave.Near]
  decide +kernel

end Kinco

end RobotDriver.Ethercat
