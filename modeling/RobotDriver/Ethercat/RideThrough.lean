import RobotDriver.Ethercat.KincoRun

/-!
# Lost cycles that are ridden through

A lost cycle repeats the velocity and the mode that were sent last, and puts the hold out as its
position. The last position sent is the hold unless that cycle was part of a mode handoff.
-/

namespace RobotDriver.Ethercat

open LabelledRun (Along run)

namespace KincoCyclicModeSlave

variable {K : Type*} [Field K] [LinearOrder K] [FloorRing K] (s : KincoCyclicModeSlave K)

/-- The position of an enabled axis that waits for a mode, asks for one, or follows the
coordinator in velocity mode. -/
def operatingHandoff (now : ℤ) : Option ℤ :=
  if s.modeRequestInFlight then
    if s.requestWithdrawn now then none
    else if s.modeRequestTarget = kCsp then some s.cspSeedRaw
    else some s.csvHoldRaw
  else if s.desiredMode ≠ s.modeDisplay then
    if s.modeDisplay = kCsv ∧ s.desiredMode = kCsp then
      if s.seedsCsp then some s.actualPositionRaw else none
    else if s.modeDisplay = kCsp ∧ s.desiredMode = kCsv then s.validPositionCommand
    else none
  else if s.desiredMode = kCsp then none
  else if s.coordinatesPosition then some s.pending.position
  else none

/-- The seeded cycle gets through to the mode of an enabled axis. -/
structure Operates : Prop where
  seeded : s.startupSeedSent = true
  unlatched : s.errorLatched = false
  enabled : s.isOperationEnabled = true
  displays : s.modeDisplay ≠ 0
  desires : s.desiredMode = kCsp ∨ s.desiredMode = kCsv

theorem operates_iff : s.Operates ↔ s.startupSeedSent = true ∧ s.errorLatched = false ∧
    s.isOperationEnabled = true ∧ s.modeDisplay ≠ 0 ∧
    (s.desiredMode = kCsp ∨ s.desiredMode = kCsv) :=
  ⟨fun h => ⟨h.seeded, h.unlatched, h.enabled, h.displays, h.desires⟩,
    fun ⟨h₁, h₂, h₃, h₄, h₅⟩ => ⟨h₁, h₂, h₃, h₄, h₅⟩⟩

instance : Decidable s.Operates := decidable_of_iff' _ s.operates_iff

/-- The handoff position of a cycle, if there is one. -/
def handoffPosition (now : ℤ) : Option ℤ := if s.Operates then s.operatingHandoff now else none

theorem operates_ageFeedback (now : ℤ) : (s.ageFeedback now).Operates ↔ s.Operates := by
  rw [operates_iff, operates_iff]
  exact Iff.rfl

theorem handoffPosition_ageFeedback (now : ℤ) :
    (s.ageFeedback now).handoffPosition now = s.handoffPosition now := by
  simp only [handoffPosition, operates_ageFeedback]
  rfl

theorem position_awaitMode (now : ℤ) (hhold : s.output.position = s.holdPositionRaw)
    (hflight : s.modeRequestInFlight = true) :
    (s.awaitMode now).output.position =
      (s.operatingHandoff now).getD (s.awaitMode now).holdPositionRaw := by
  simp only [awaitMode, operatingHandoff, hflight, if_true]
  split_ifs
  · exact hhold
  · simp only [awaitCsp, Option.getD_some]
    split_ifs <;> rfl
  · rfl

theorem position_requestMode (now : ℤ) (hhold : s.output.position = s.holdPositionRaw)
    (hflight : s.modeRequestInFlight = false) (hmode : s.desiredMode ≠ s.modeDisplay) :
    (s.requestMode now).output.position =
      (s.operatingHandoff now).getD (s.requestMode now).holdPositionRaw := by
  simp only [requestMode, operatingHandoff, hflight, Bool.false_eq_true, if_false, if_pos hmode]
  split_ifs
  · simp only [requestCsp, *, Bool.not_true, Bool.false_eq_true, if_false]
    split_ifs <;> rfl
  · simp [requestCsp, *]
  · unfold requestCsv
    split <;> simp_all [sendRequest, invalidateVelocityCommand, clearHandoff]
  · exact hhold

theorem position_takePosition (hhold : s.output.position = s.holdPositionRaw) :
    s.takePosition.output.position = s.takePosition.holdPositionRaw := by
  unfold takePosition
  split_ifs
  · exact hhold
  · exact hhold
  · split
    · exact hhold
    · split_ifs
      · exact hhold
      · rfl

theorem position_followVelocity :
    s.followVelocity.output.position = s.coordinated.output.position ∧
      s.followVelocity.holdPositionRaw = s.holdPositionRaw := by
  have hcoordinated : s.coordinated.holdPositionRaw = s.holdPositionRaw := by
    unfold coordinated
    split_ifs <;> rfl
  rw [← hcoordinated, followVelocity, takeVelocity]
  split_ifs
  · exact ⟨rfl, rfl⟩
  · split <;> exact ⟨rfl, rfl⟩

theorem position_operate (now : ℤ) (hhold : s.output.position = s.holdPositionRaw) :
    (s.operate now).output.position =
      (s.operatingHandoff now).getD (s.operate now).holdPositionRaw := by
  cases hflight : s.modeRequestInFlight with
  | true =>
    rw [operate, if_pos hflight]
    exact s.position_awaitMode now hhold hflight
  | false =>
    have hidle : ¬s.modeRequestInFlight = true := by simp [hflight]
    by_cases hmode : s.desiredMode ≠ s.modeDisplay
    · rw [operate, if_neg hidle, if_pos hmode]
      exact s.position_requestMode now hhold hflight hmode
    rw [operate, if_neg hidle, if_neg hmode, operatingHandoff, if_neg hidle, if_neg hmode]
    by_cases hcsp : s.desiredMode = kCsp
    · rw [if_pos hcsp, if_pos hcsp]
      exact position_takePosition (s.modeReached.putPosition s.holdPositionRaw) rfl
    · obtain ⟨hposition, hkept⟩ := s.modeReached.position_followVelocity
      rw [if_neg hcsp, if_neg hcsp, hposition, hkept]
      by_cases hcoordinates : s.coordinatesPosition = true
      · have hput : s.modeReached.coordinated = s.modeReached.putPosition s.pending.position :=
          if_pos hcoordinates
        rw [hput, if_pos hcoordinates]
        rfl
      · have hkeep : s.modeReached.coordinated = s.modeReached := if_neg hcoordinates
        rw [hkeep, if_neg hcoordinates]
        exact hhold

theorem position_seededCycle (now : ℤ) (hseeded : s.startupSeedSent = true)
    (hhold : s.output.position = s.holdPositionRaw) :
    (s.seededCycle now).output.position =
      (s.handoffPosition now).getD (s.seededCycle now).holdPositionRaw := by
  cases henabled : s.isOperationEnabled with
  | false =>
    have htracked : s.tracked = s.trackDisabled := if_pos (by simp [henabled])
    have hdisabled : s.trackDisabled.isOperationEnabled = false := henabled
    have hnone : s.handoffPosition now = none :=
      if_neg fun h => ne_true_of_eq_false henabled h.enabled
    rw [hnone, seededCycle, htracked, unlatchedCycle]
    simp only [hdisabled, Bool.not_false, if_true]
    split_ifs <;> rfl
  | true =>
    have htracked : s.tracked = s := if_neg (by simp [henabled])
    rw [seededCycle, htracked, unlatchedCycle, handoffPosition]
    by_cases hlatched : s.errorLatched = true
    · rw [if_pos hlatched, if_neg fun h => ne_true_of_eq_false h.unlatched hlatched]
      exact hhold
    rw [if_neg hlatched]
    by_cases hmode : s.desiredMode ≠ kCsp ∧ s.desiredMode ≠ kCsv
    · rw [if_pos hmode, if_neg fun h => h.desires.elim hmode.1 hmode.2]
      exact hhold
    rw [if_neg hmode, if_neg (by simp [henabled])]
    by_cases hdisplay : s.modeDisplay = 0
    · rw [if_pos hdisplay, if_neg fun h => h.displays hdisplay]
      unfold confirmStartupMode waitForStartupMode
      dsimp only
      split_ifs <;> first | exact hhold | rfl
    · have hoperates : s.Operates := ⟨hseeded, Bool.eq_false_iff.2 hlatched, henabled, hdisplay,
        (not_and_or.1 hmode).imp not_not.1 not_not.1⟩
      rw [if_neg hdisplay, if_pos hoperates]
      exact s.enterEnabled.position_operate now hhold

theorem holdKnown_operate (now : ℤ) (hknown : s.holdKnown = true) :
    (s.operate now).holdKnown = true := by
  unfold operate
  split_ifs
  · unfold awaitMode awaitCsp
    dsimp only
    split_ifs <;> exact hknown
  · unfold requestMode requestCsp requestCsv
    split_ifs
    · exact hknown
    · exact hknown
    · exact hknown
    · split <;> exact hknown
    · exact hknown
  · unfold followPosition takePosition
    split_ifs
    · exact hknown
    · exact hknown
    · split
      · exact hknown
      · split_ifs <;> exact hknown
  · have hcoordinated : s.modeReached.coordinated.holdKnown = true := by
      unfold coordinated
      split_ifs <;> exact hknown
    unfold followVelocity takeVelocity
    split_ifs
    · exact hcoordinated
    · split <;> exact hcoordinated

theorem holdKnown_seededCycle (now : ℤ) (hknown : s.holdKnown = true) :
    (s.seededCycle now).holdKnown = true := by
  have htracked : s.tracked.holdKnown = true := by
    unfold tracked
    split_ifs
    · rfl
    · exact hknown
  unfold seededCycle unlatchedCycle
  split_ifs
  · exact htracked
  · exact htracked
  · exact htracked
  · unfold confirmStartupMode waitForStartupMode
    dsimp only
    split_ifs <;> exact htracked
  · exact holdKnown_operate _ now htracked

/-! ### The cycle sent last -/

/-- The hold and the records of the last sent cycle are kept, and no seed is taken. -/
structure Keeps (s t : KincoCyclicModeSlave K) : Prop where
  hold : t.holdPositionRaw = s.holdPositionRaw
  known : t.holdKnown = s.holdKnown
  velocity : t.lastSentVelocityRaw = s.lastSentVelocityRaw
  mode : t.lastSentMode = s.lastSentMode
  operational : t.isOperational = s.isOperational
  pending : t.startupSeedPending = s.startupSeedPending
  seeded : t.startupSeedSent = true → s.startupSeedSent = true

omit [FloorRing K] in
theorem Keeps.trans {s t u : KincoCyclicModeSlave K} (h : s.Keeps t) (h' : t.Keeps u) :
    s.Keeps u where
  hold := h'.hold.trans h.hold
  known := h'.known.trans h.known
  velocity := h'.velocity.trans h.velocity
  mode := h'.mode.trans h.mode
  operational := h'.operational.trans h.operational
  pending := h'.pending.trans h.pending
  seeded := h.seeded ∘ h'.seeded

omit [FloorRing K] in
theorem Keeps.of_bookkeeping {s t : KincoCyclicModeSlave K}
    (hbook : t.bookkeeping = s.bookkeeping)
    (hhold : t.holdPositionRaw = s.holdPositionRaw ∧ t.holdKnown = s.holdKnown) : s.Keeps t where
  hold := hhold.1
  known := hhold.2
  velocity := congrArg Bookkeeping.lastSentVelocityRaw hbook
  mode := congrArg Bookkeeping.lastSentMode hbook
  operational := congrArg Bookkeeping.isOperational hbook
  pending := congrArg Bookkeeping.startupSeedPending hbook
  seeded := (congrArg Bookkeeping.startupSeedSent hbook).symm.trans

omit [FloorRing K] in
theorem keeps_processInputs (inputs : List Input) : s.Keeps (s.processInputs inputs) :=
  .of_bookkeeping (s.bookkeeping_processInputs inputs) (s.hold_processInputs inputs)

omit [FloorRing K] in
theorem keeps_onPdoCycleRead (complete : Bool) (now : ℤ) :
    s.Keeps (s.onPdoCycleRead complete now) := by
  unfold onPdoCycleRead
  dsimp only
  split_ifs <;> exact ⟨rfl, rfl, rfl, rfl, rfl, rfl, by simp [clearHandoff]⟩

omit [FloorRing K] in
theorem keeps_atStart (c : KincoCycle K) : s.Keeps (s.atStart c) := by
  have hread : s.Keeps (s.readData c) := by
    unfold readData
    split
    · exact (s.keeps_onPdoCycleRead c.complete _).trans (keeps_processInputs _ c.inputs)
    · exact .of_bookkeeping rfl ⟨rfl, rfl⟩
  exact hread.trans (.of_bookkeeping rfl ⟨rfl, rfl⟩)

omit [FloorRing K] in
theorem hold_onPdoCycleSent :
    s.onPdoCycleSent.holdPositionRaw = s.holdPositionRaw ∧
      s.onPdoCycleSent.holdKnown = s.holdKnown :=
  s.onPdoCycleSent_kept
    (p := fun s' => s'.holdPositionRaw = s.holdPositionRaw ∧ s'.holdKnown = s.holdKnown)
    (fun _ _ _ _ _ h => h) (fun _ h => h) (fun _ h => h) (fun _ h => h) (fun _ h => h) ⟨rfl, rfl⟩

omit [FloorRing K] in
theorem bookkeeping_confirmSeed :
    s.confirmSeed.bookkeeping =
      if s.startupSeedPending && s.havePosition && s.haveVelocity && s.haveMode then
        { s.bookkeeping with startupSeedSent := true, startupSeedPending := false }
      else s.bookkeeping := by
  unfold confirmSeed
  dsimp only
  split_ifs <;> rfl

omit [FloorRing K] in
theorem bookkeeping_onPdoCycleSent (hcomplete : s.cycleComplete = true)
    (hoperational : s.isOperational = true) :
    s.onPdoCycleSent.bookkeeping =
      { (if s.startupSeedPending && s.havePosition && s.haveVelocity && s.haveMode then
          { s.bookkeeping with startupSeedSent := true, startupSeedPending := false }
        else s.bookkeeping) with
        lastSentVelocityRaw := s.output.velocity
        lastSentMode := s.output.mode } := by
  have hacknowledge : ∀ s : KincoCyclicModeSlave K,
      s.acknowledge.confirmSeed.bookkeeping = s.confirmSeed.bookkeeping := by
    intro s
    rw [bookkeeping_confirmSeed, bookkeeping_confirmSeed]
    unfold acknowledge
    dsimp only
    split_ifs <;> rfl
  have hpreseed : ∀ s : KincoCyclicModeSlave K, s.confirmPreseed.bookkeeping = s.bookkeeping := by
    intro s
    unfold confirmPreseed
    split_ifs <;> rfl
  have hcsv : ∀ s : KincoCyclicModeSlave K, s.confirmCsv.bookkeeping = s.bookkeeping := by
    intro s
    unfold confirmCsv
    split_ifs <;> rfl
  unfold onPdoCycleSent
  rw [if_neg (by simp [hcomplete, hoperational])]
  dsimp only
  rw [hcsv, hpreseed, hacknowledge, bookkeeping_confirmSeed]
  dsimp only
  split_ifs <;> rfl

omit [FloorRing K] in
theorem onPdoCycleSent_of_silent (h : s.cycleComplete = false ∨ s.isOperational = false) :
    s.onPdoCycleSent = s := by
  unfold onPdoCycleSent
  rw [if_pos (by simpa using h)]

omit [FloorRing K] in
theorem haveInputs_processInputs (h : s.haveInputs = true) (inputs : List Input) :
    (s.processInputs inputs).haveInputs = true := by
  induction inputs generalizing s with
  | nil => exact h
  | cons input inputs ih =>
    refine ih _ ?_
    simp only [haveInputs, Bool.and_eq_true] at h
    unfold processInput countFeedback
    split_ifs <;> cases input <;> simp [haveInputs, store, clearHandoff, h]

theorem cycleComplete_start (complete : Bool) (now : ℤ) :
    (s.onPdoCycleStart complete now).cycleComplete = complete := by
  have hexit := s.startExit complete now
  generalize s.onPdoCycleStart complete now = next at hexit
  cases hexit with
  | seeded valid seeded =>
    exact congrArg Bookkeeping.cycleComplete (bookkeeping_seededCycle _ now)
  | _ => rfl

/-- What the axis remembers of the cycle sent last. -/
structure Remembers (o : KincoOutput) (handoff : Option ℤ) : Prop where
  known : s.holdKnown = true
  velocity : o.velocity = s.lastSentVelocityRaw
  mode : o.mode = s.lastSentMode
  position : o.position = handoff.getD s.holdPositionRaw

omit [FloorRing K] in
variable {s} in
theorem Remembers.keep {t : KincoCyclicModeSlave K} {o : KincoOutput} {handoff : Option ℤ}
    (h : s.Remembers o handoff) (hkeep : s.Keeps t) : t.Remembers o handoff where
  known := hkeep.known.trans h.known
  velocity := h.velocity.trans hkeep.velocity.symm
  mode := h.mode.trans hkeep.mode.symm
  position := by rw [h.position, hkeep.hold]

omit [FloorRing K] in
theorem unseeded_onPdoCycleSent (hseeded : s.startupSeedSent = false)
    (hpending : s.startupSeedPending = false) :
    s.onPdoCycleSent.startupSeedPending = false ∧ s.onPdoCycleSent.startupSeedSent = false := by
  by_cases hsilent : s.cycleComplete = false ∨ s.isOperational = false
  · rw [s.onPdoCycleSent_of_silent hsilent]
    exact ⟨hpending, hseeded⟩
  · simp only [not_or, Bool.not_eq_false] at hsilent
    have hbook := s.bookkeeping_onPdoCycleSent hsilent.1 hsilent.2
    rw [if_neg (by simp [hpending])] at hbook
    exact ⟨(congrArg Bookkeeping.startupSeedPending hbook).trans hpending,
      (congrArg Bookkeeping.startupSeedSent hbook).trans hseeded⟩

theorem unseeded_cycle (c : KincoCycle K) (hseeded : (s.started c).startupSeedSent = false)
    (hpending : (s.started c).startupSeedPending = false) :
    (s.cycle c).startupSeedPending = false ∧ (s.cycle c).startupSeedSent = false := by
  have hkeeps := (s.started c).keeps_processInputs c.inputs
  refine unseeded_onPdoCycleSent _ (Bool.eq_false_iff.2 fun h => ?_)
    (hkeeps.pending.trans hpending)
  exact ne_true_of_eq_false hseeded (hkeeps.seeded h)

omit [FloorRing K] in
theorem remembers_onPdoCycleSent {handoff : Option ℤ} (hcomplete : s.cycleComplete = true)
    (hoperational : s.isOperational = true) (hknown : s.holdKnown = true)
    (hposition : s.output.position = handoff.getD s.holdPositionRaw) :
    s.onPdoCycleSent.Remembers s.output handoff := by
  have hbook := s.bookkeeping_onPdoCycleSent hcomplete hoperational
  obtain ⟨hhold, hkept⟩ := s.hold_onPdoCycleSent
  exact {
    known := hkept.trans hknown
    velocity := (congrArg Bookkeeping.lastSentVelocityRaw hbook).symm
    mode := (congrArg Bookkeeping.lastSentMode hbook).symm
    position := by rw [hposition, hhold] }

/-- What a start hook leaves behind. -/
inductive Starts (a : KincoCyclicModeSlave K) (complete : Bool) (now : ℤ)
    (u : KincoCyclicModeSlave K) : Prop
  | rides (lost : complete = false) (keeps : a.Keeps u)
  | unseeded (seeded : u.startupSeedSent = false)
      (pending : u.startupSeedPending = a.startupSeedPending)
  | sends (complete : complete = true) (operational : a.isOperational = true)
      (up : u.isOperational = true) (known : u.holdKnown = true)
      (position : u.output.position =
        ((a.prepare true now).handoffPosition now).getD u.holdPositionRaw)
      (pending : u.startupSeedPending = a.startupSeedPending ∨ u.haveInputs = true)

theorem starts_onPdoCycleStart (complete : Bool) (now : ℤ)
    (hknown : s.startupSeedSent = true → s.holdKnown = true) :
    s.Starts complete now (s.onPdoCycleStart complete now) := by
  have hexit := s.startExit complete now
  generalize s.onPdoCycleStart complete now = u at hexit
  cases hexit with
  | rides ride => exact .rides rfl ⟨rfl, rfl, rfl, rfl, rfl, rfl, id⟩
  | lost strict | incomplete down | stale operational inputs stale => exact .unseeded rfl rfl
  | seeds valid unseeded =>
    have hnone : (s.prepare true now).handoffPosition now = none :=
      if_neg fun h => ne_true_of_eq_false unseeded h.seeded
    refine .sends rfl valid.operational valid.operational rfl ?_ (.inr valid.inputs)
    rw [hnone]
    rfl
  | seeded valid seeded =>
    let aged := (s.prepare true now).ageFeedback now
    have hbook := aged.bookkeeping_seededCycle now
    have hknown := hknown seeded
    have hhold : aged.output.position = aged.holdPositionRaw := if_pos hknown
    have hposition := aged.position_seededCycle now seeded hhold
    rw [handoffPosition_ageFeedback] at hposition
    exact .sends rfl valid.operational
      ((congrArg Bookkeeping.isOperational hbook).trans valid.operational)
      (aged.holdKnown_seededCycle now hknown) hposition
      (.inl (congrArg Bookkeeping.startupSeedPending hbook))

theorem cycle_remembers (c : KincoCycle K) (hpending : s.startupSeedPending = false)
    (hknown : s.startupSeedSent = true → s.holdKnown = true) :
    (s.cycle c).startupSeedPending = false ∧
      ((s.cycle c).startupSeedSent = true →
        if c.complete && s.isOperational then
          (s.cycle c).Remembers (s.started c).output
            (((s.atStart c).prepare true c.startAt).handoffPosition c.startAt)
        else s.Keeps (s.cycle c)) := by
  have hatStart := s.keeps_atStart c
  have hstarts := (s.atStart c).starts_onPdoCycleStart c.complete c.startAt
    fun h => hatStart.known.trans (hknown (hatStart.seeded h))
  have hcomplete := (s.atStart c).cycleComplete_start c.complete c.startAt
  change (s.atStart c).Starts _ _ (s.started c) at hstarts
  change (s.started c).cycleComplete = _ at hcomplete
  have hprocessed := (s.started c).keeps_processInputs c.inputs
  have hinputs : ((s.started c).processInputs c.inputs).cycleComplete = c.complete :=
    (congrArg Bookkeeping.cycleComplete (bookkeeping_processInputs _ _)).trans hcomplete
  cases hstarts with
  | rides lost keeps =>
    have hsilent : s.cycle c = (s.started c).processInputs c.inputs :=
      onPdoCycleSent_of_silent _ (.inl (hinputs.trans lost))
    have hkeeps : s.Keeps (s.cycle c) := hsilent ▸ (hatStart.trans keeps).trans hprocessed
    rw [lost]
    exact ⟨hkeeps.pending.trans hpending, fun _ => hkeeps⟩
  | unseeded seeded pending =>
    have hlost := s.unseeded_cycle c seeded
      (pending.trans (hatStart.pending.trans hpending))
    exact ⟨hlost.1, fun h => absurd h (ne_true_of_eq_false hlost.2)⟩
  | sends complete operational up known position pending =>
    let sent := (s.started c).processInputs c.inputs
    have hsends : sent.cycleComplete = true := hinputs.trans complete
    have hup : sent.isOperational = true := hprocessed.operational.trans up
    have hbook := sent.bookkeeping_onPdoCycleSent hsends hup
    refine ⟨?_, fun _ => ?_⟩
    · rcases pending with hkept | hhave
      · have hidle := hprocessed.pending.trans (hkept.trans (hatStart.pending.trans hpending))
        rw [if_neg (by simp [sent, hidle])] at hbook
        exact (congrArg Bookkeeping.startupSeedPending hbook).trans hidle
      · have hhave := haveInputs_processInputs _ hhave c.inputs
        simp only [haveInputs, Bool.and_eq_true] at hhave
        refine (congrArg Bookkeeping.startupSeedPending hbook).trans ?_
        cases hidle : sent.startupSeedPending
        · simp [hidle, bookkeeping]
        · simp [sent, hhave]
    · have hcondition : (c.complete && s.isOperational) = true := by
        rw [complete, ← hatStart.operational, operational]
        rfl
      rw [if_pos hcondition]
      have hposition : sent.output.position = (((s.atStart c).prepare true
          c.startAt).handoffPosition c.startAt).getD sent.holdPositionRaw := by
        rw [output_processInputs, position, hprocessed.hold]
      have hremember := sent.remembers_onPdoCycleSent hsends hup
        (hprocessed.known.trans known) hposition
      rwa [output_processInputs] at hremember

end KincoCyclicModeSlave

/-- The axis beside the outputs sent last and the handoff position among them. -/
structure RideRun (K : Type*) [Field K] [LinearOrder K] where
  slave : KincoCyclicModeSlave K
  lastSent : Option KincoOutput := none
  handoff : Option ℤ := none

namespace RideRun

variable {K : Type*} [Field K] [LinearOrder K] [FloorRing K] (r : RideRun K)

def step : KincoLabel K → RideRun K
  | .cycle c =>
    if c.complete && r.slave.isOperational then
      { slave := r.slave.cycle c
        lastSent := some (r.slave.started c).output
        handoff := ((r.slave.atStart c).prepare true c.startAt).handoffPosition c.startAt }
    else { r with slave := r.slave.cycle c }
  | .operational value => { r with slave := r.slave.setStateIsOperational value }

/-- The lost cycle is ridden through. -/
def Rides (c : KincoCycle K) : Prop :=
  c.complete = false ∧ (r.slave.atStart c).rideThrough false = true

instance (c : KincoCycle K) : Decidable (r.Rides c) := inferInstanceAs (Decidable (_ ∧ _))

/-- A cycle that is ridden through repeats the target position, velocity and mode sent last. -/
def Repeats : KincoLabel K → Prop
  | .cycle c => r.Rides c → ∃ o ∈ r.lastSent,
      (r.slave.started c).output.position = o.position ∧
      (r.slave.started c).output.velocity = o.velocity ∧
      (r.slave.started c).output.mode = o.mode
  | .operational _ => True

instance (r : RideRun ℚ) : ∀ label, Decidable (r.Repeats label)
  | .cycle _ => inferInstanceAs (Decidable (_ → _))
  | .operational _ => .isTrue trivial

/-- A cycle that is ridden through does not follow a handoff position other than the hold. -/
def OutsideHandoff : KincoLabel K → Prop
  | .cycle c => r.Rides c → ∀ raw ∈ r.handoff, raw = r.slave.holdPositionRaw
  | .operational _ => True

structure Invariant (r : RideRun K) : Prop where
  settled : r.slave.startupSeedPending = false
  remembers : r.slave.startupSeedSent = true → ∃ o ∈ r.lastSent, r.slave.Remembers o r.handoff

omit [FloorRing K] in
theorem invariant_start (config : KincoConfig K) (commands : KincoCommands K) :
    Invariant ⟨.start config commands, none, none⟩ :=
  ⟨rfl, nofun⟩

variable {r}

theorem Invariant.step (h : r.Invariant) (label : KincoLabel K) : (r.step label).Invariant := by
  cases label with
  | cycle c =>
    obtain ⟨hsettled, hseeded⟩ := r.slave.cycle_remembers c h.settled fun hseed => by
      obtain ⟨o, _, ho⟩ := h.remembers hseed
      exact ho.known
    simp only [RideRun.step]
    split_ifs with hsends
    · refine ⟨hsettled, fun hseed => ⟨_, rfl, ?_⟩⟩
      have hremembers := hseeded hseed
      rwa [if_pos hsends] at hremembers
    · refine ⟨hsettled, fun hseed => ?_⟩
      have hkeeps := hseeded hseed
      rw [if_neg hsends] at hkeeps
      obtain ⟨o, ho, hremembers⟩ := h.remembers (hkeeps.seeded hseed)
      exact ⟨o, ho, hremembers.keep hkeeps⟩
  | operational value =>
    cases value with
    | false => exact ⟨rfl, nofun⟩
    | true =>
      refine ⟨h.settled, fun hseed => ?_⟩
      obtain ⟨o, ho, hremembers⟩ := h.remembers hseed
      exact ⟨o, ho, hremembers.known, hremembers.velocity, hremembers.mode, hremembers.position⟩

theorem Invariant.repeats_iff (h : r.Invariant) (label : KincoLabel K) :
    r.Repeats label ↔ r.OutsideHandoff label := by
  cases label with
  | cycle c =>
    refine forall_congr' fun ⟨hlost, hride⟩ => ?_
    have hkeeps := r.slave.keeps_atStart c
    have hseed : r.slave.startupSeedSent = true := by
      simp only [KincoCyclicModeSlave.rideThrough, Bool.and_eq_true] at hride
      exact hkeeps.seeded hride.1.2
    obtain ⟨o, ho, hremembers⟩ := h.remembers hseed
    have houtput : r.slave.started c =
        ((r.slave.atStart c).prepare false c.startAt).repeatLast := by
      rw [KincoCyclicModeSlave.started, hlost, KincoCyclicModeSlave.onPdoCycleStart]
      simp [hride]
    have hposition : (r.slave.started c).output.position = r.slave.holdPositionRaw := by
      rw [houtput, ← hkeeps.hold]
      exact if_pos (hkeeps.known.trans hremembers.known)
    have hvelocity : (r.slave.started c).output.velocity = o.velocity := by
      rw [houtput, hremembers.velocity, ← hkeeps.velocity]
      rfl
    have hmode : (r.slave.started c).output.mode = o.mode := by
      rw [houtput, hremembers.mode, ← hkeeps.mode]
      rfl
    rw [Option.mem_def] at ho
    simp only [ho, Option.mem_some_iff, exists_eq_left', hvelocity, hmode, hposition,
      hremembers.position, and_true]
    cases r.handoff with
    | none => simp
    | some raw => simp [eq_comm]
  | operational => exact Iff.rfl

end RideRun

/-- The cycles ridden through repeat the last outputs in exactly the runs in which none of them
follows a handoff position other than the hold. -/
theorem ride_through_repeats_iff {K : Type*} [Field K] [LinearOrder K] [FloorRing K]
    (config : KincoConfig K) (commands : KincoCommands K) (labels : List (KincoLabel K)) :
    Along RideRun.step (fun r => r.Repeats) ⟨.start config commands, none, none⟩ labels ↔
      Along RideRun.step (fun r => r.OutsideHandoff) ⟨.start config commands, none, none⟩
        labels := by
  have hstart := RideRun.invariant_start config commands
  constructor <;> intro h
  · exact .of_invariant (fun _ label hr _ => RideRun.Invariant.step hr label)
      (fun _ label hr => (hr.repeats_iff label).1) hstart h
  · exact .of_invariant (fun _ label hr _ => RideRun.Invariant.step hr label)
      (fun _ label hr => (hr.repeats_iff label).2) hstart h

namespace Kinco

/-- Seeded at 350 counts in velocity mode, the axis drifts to 370 and is asked for the position
mode there; the frame after the request is lost. -/
def lostHandoff : List (KincoLabel ℚ) :=
  [.operational true, observing 0x0021 350 kCsv 1 [],
    observing 0x0027 350 kCsv 2 [.controlWord (.finite 15)],
    observing 0x0027 370 kCsv 3 [.mode (.finite 8), .position (.finite (37 / 100))],
    observing 0x0027 370 kCsv 4 [], losing 5]

theorem loss_restores_hold :
    ¬∀ (config : KincoConfig ℚ) commands labels,
      Along RideRun.step (fun r => r.Repeats) ⟨.start config commands, none, none⟩ labels := by
  intro h
  have hrun := h (configuration kCsv (.inr rfl)) commands lostHandoff
  revert hrun
  decide +kernel

end Kinco

end RobotDriver.Ethercat
