import Mathlib.Data.List.Chain
import Mathlib.Tactic.Linarith
import RobotDriver.EnableManager.Types

/-!
# Admission of a mode switch

`validateModeSource` waits for a window of consecutive joint samples over which the group stands
still. A poll is what one turn of its loop observes. Times are nanoseconds of the steady clock, a
sample is `none` when no stable version of it could be read.
-/

namespace RobotDriver.EnableManager

/-- The parameters of the check; `holding` is the message constant of a holding rolling
controller. -/
structure StandstillLimits where
  motionJoints : ℕ
  stableIntervalCount : ℕ
  maximumSamplePeriodNs : ℕ
  sourceStateMaxAgeNs : ℕ
  feedbackAgeLimitMs : ℚ
  stableVelocityThresholds : ℕ → ℚ
  takeoverTolerances : ℕ → ℚ
  holding : ℕ
  stableIntervalCount_pos : 0 < stableIntervalCount

structure ActualSample where
  positions : ℕ → Value
  feedbackAgeMs : Value
  steadyTimeNs : ℕ
  sequence : ℕ

structure CommandSnapshot where
  valid : Bool
  positions : ℕ → Value
  receivedSteadyNs : ℕ
  controlMode : ControlMode
  rollingState : ℕ

/-- The command snapshots of both controllers and the time at which they are read. -/
structure SourceView where
  jtc : CommandSnapshot
  rolling : CommandSnapshot
  now : ℕ

structure Poll where
  expired : Bool
  abort : Bool
  owner : Owner
  phase : Phase
  sample : Option ActualSample
  view : SourceView

/-- The mode switch still owns the enabled group, and nothing asks it to stop. -/
def Poll.undisturbed (poll : Poll) : Prop :=
  poll.expired = false ∧ poll.abort = false ∧ poll.owner = .mode ∧ poll.phase = .enabled

/-- A read succeeds once a first sample has been published. -/
def readActualSample (sample : Option ActualSample) : Option ActualSample :=
  sample.filter fun s => s.sequence ≠ 0 && s.steadyTimeNs ≠ 0

def SourceView.readCommandSnapshot (view : SourceView) (mode : ControlMode) :
    Option CommandSnapshot :=
  let found := fun snapshot : CommandSnapshot =>
    if snapshot.valid && snapshot.controlMode = mode then some snapshot else none
  match mode with
  | .fjtReady => found view.jtc
  | .rollingReady => found view.rolling
  | _ => none

namespace StandstillLimits

variable (limits : StandstillLimits)

def sampleFresh (sample : ActualSample) : Bool :=
  feedbackFresh sample.feedbackAgeMs limits.feedbackAgeLimitMs

def contiguous (previous current : ActualSample) : Bool :=
  previous.steadyTimeNs < current.steadyTimeNs &&
    current.steadyTimeNs - previous.steadyTimeNs ≤ limits.maximumSamplePeriodNs

def elapsedSeconds (windowStart current : ActualSample) : ℚ :=
  ((current.steadyTimeNs - windowStart.steadyTimeNs : ℕ) : ℚ) / 1000000000

/-- The displacement rate of one axis, where it is finite. -/
def speed (windowStart current : ActualSample) (axis : ℕ) : Value :=
  match current.positions axis, windowStart.positions axis with
  | some x, some y =>
    if elapsedSeconds windowStart current = 0 then none
    else some (|x - y| / elapsedSeconds windowStart current)
  | _, _ => none

def stableActualInterval (windowStart current : ActualSample) : Bool :=
  (List.range limits.motionJoints).all fun axis =>
    (speed windowStart current axis).any (· ≤ limits.stableVelocityThresholds axis)

def sourceWithinTakeoverTolerance (source actual : ℕ → Value) : Bool :=
  (List.range limits.motionJoints).all fun axis =>
    match source axis, actual axis with
    | some x, some y => |x - y| ≤ limits.takeoverTolerances axis
    | _, _ => false

/-- The check of the source controller's state, made before and after the standstill window. The
velocity controller has no state. -/
def sourceError (source : ControlMode) (view : SourceView) : Option ModeResult :=
  if source = .velocityReady then none
  else
    match view.readCommandSnapshot source with
    | none => some .sourceStale
    | some snapshot =>
      if view.now < snapshot.receivedSteadyNs ∨
          limits.sourceStateMaxAgeNs < view.now - snapshot.receivedSteadyNs then some .sourceStale
      else if source = .rollingReady ∧ snapshot.rollingState ≠ limits.holding then
        some .sourceMoving
      else none

/-- The trajectory controller hands over its output. -/
def takeoverMatches (source : ControlMode) (view : SourceView) (current : ActualSample) : Bool :=
  source ≠ .fjtReady ||
    (view.readCommandSnapshot source).any fun snapshot =>
      limits.sourceWithinTakeoverTolerance snapshot.positions current.positions

def admitSource (source : ControlMode) (view : SourceView) (current : ActualSample) : ModeResult :=
  match limits.sourceError source view with
  | some error => error
  | none => if limits.takeoverMatches source view current then .ok else .takeoverMismatch

structure Window where
  previous : ActualSample
  windowStart : ActualSample
  windowIntervals : ℕ

def Window.restart (sample : ActualSample) : Window := ⟨sample, sample, 0⟩

def Window.extend (w : Window) (sample : ActualSample) : Window :=
  { w with previous := sample, windowIntervals := w.windowIntervals + 1 }

/-- The loop of the check; `none` when the polls end before it returns. -/
def awaitStandstill (source : ControlMode) : Window → List Poll → Option ModeResult
  | _, [] => none
  | w, poll :: polls =>
    if poll.expired then some .sourceMoving
    else if poll.abort || poll.owner ≠ .mode || poll.phase ≠ .enabled then some .notReady
    else
      match readActualSample poll.sample with
      | none => awaitStandstill source w polls
      | some current =>
        if current.sequence = w.previous.sequence then awaitStandstill source w polls
        else if !limits.sampleFresh current then some .feedbackStale
        else if !limits.contiguous w.previous current then
          awaitStandstill source (.restart current) polls
        else if w.windowIntervals + 1 < limits.stableIntervalCount then
          awaitStandstill source (w.extend current) polls
        else if !limits.stableActualInterval w.windowStart current then
          awaitStandstill source (.restart current) polls
        else some (limits.admitSource source poll.view current)

def validateModeSource (source : ControlMode) (view : SourceView) (first : Option ActualSample)
    (polls : List Poll) : Option ModeResult :=
  match limits.sourceError source view with
  | some error => some error
  | none =>
    match readActualSample first with
    | none => some .notReady
    | some sample =>
      if !limits.sampleFresh sample then some .feedbackStale
      else limits.awaitStandstill source (.restart sample) polls

section Admitted

/-- The samples that the loop takes, in order; a sample read again is skipped. -/
def samplesTaken : ActualSample → List Poll → List ActualSample
  | _, [] => []
  | previous, poll :: polls =>
    match readActualSample poll.sample with
    | none => samplesTaken previous polls
    | some current =>
      if current.sequence = previous.sequence then samplesTaken previous polls
      else current :: samplesTaken current polls

/-- The samples from the start of a window to its latest one. -/
structure Spans (samples : List ActualSample) (w : Window) : Prop where
  length : samples.length = w.windowIntervals + 1
  first : samples.head? = some w.windowStart
  last : samples.getLast? = some w.previous
  chain : samples.IsChain fun a b => limits.contiguous a b ∧ b.sequence ≠ a.sequence
  fresh : ∀ sample ∈ samples, limits.sampleFresh sample

variable {limits} {w : Window} {samples : List ActualSample} {current : ActualSample}

theorem Spans.restart (h : limits.sampleFresh current) :
    limits.Spans [current] (.restart current) :=
  ⟨rfl, rfl, rfl, List.isChain_singleton current, fun _ hs => List.mem_singleton.1 hs ▸ h⟩

theorem Spans.extend (h : limits.Spans samples w) (hfresh : limits.sampleFresh current)
    (hcontiguous : limits.contiguous w.previous current)
    (hsequence : current.sequence ≠ w.previous.sequence) :
    limits.Spans (samples ++ [current]) (w.extend current) where
  length := by
    rw [List.length_append, h.length]
    rfl
  first := by
    rw [List.head?_append, h.first]
    rfl
  last := List.getLast?_concat
  chain := by
    refine List.IsChain.append h.chain (List.isChain_singleton current) fun a ha b hb => ?_
    obtain rfl : w.previous = a := Option.some.inj (h.last.symm.trans ha)
    obtain rfl : current = b := Option.some.inj hb
    exact ⟨hcontiguous, hsequence⟩
  fresh sample hs := by
    rcases List.mem_append.1 hs with hs | hs
    · exact h.fresh sample hs
    · exact List.mem_singleton.1 hs ▸ hfresh

/-- The snapshot of a controller that has a state is fresh, a rolling controller holds, and the
output of the trajectory controller is near the measured positions. -/
structure HandsOver (limits : StandstillLimits) (source : ControlMode) (view : SourceView)
    (current : ActualSample) : Prop where
  snapshot : source ≠ .velocityReady → ∃ snapshot, view.readCommandSnapshot source = some snapshot ∧
    snapshot.receivedSteadyNs ≤ view.now ∧
    view.now - snapshot.receivedSteadyNs ≤ limits.sourceStateMaxAgeNs ∧
    (source = .rollingReady → snapshot.rollingState = limits.holding) ∧
    (source = .fjtReady →
      limits.sourceWithinTakeoverTolerance snapshot.positions current.positions)

/-- The polls of a check that ends with `kModeOk`: the last samples it took are one window of the
configured length over which the group stood still. -/
structure Admitted (limits : StandstillLimits) (source : ControlMode) (history : List ActualSample)
    (previous : ActualSample) (polls : List Poll) : Prop where
  admitted : ∃ checked last rest current earlier window, polls = checked ++ last :: rest ∧
    (∀ poll ∈ checked ++ [last], poll.undisturbed) ∧ readActualSample last.sample = some current ∧
    history ++ samplesTaken previous (checked ++ [last]) = earlier ++ window ∧
    (∃ w, limits.Spans window w ∧ w.previous = current ∧
      w.windowIntervals = limits.stableIntervalCount ∧
      limits.stableActualInterval w.windowStart current) ∧
    HandsOver limits source last.view current

theorem samplesTaken_cons_skip {previous : ActualSample} {poll : Poll} {polls : List Poll}
    (h : ∀ current, readActualSample poll.sample = some current →
      current.sequence = previous.sequence) :
    samplesTaken previous (poll :: polls) = samplesTaken previous polls := by
  rw [samplesTaken]
  cases hsample : readActualSample poll.sample with
  | none => rfl
  | some current => exact if_pos (h current hsample)

theorem samplesTaken_cons {previous : ActualSample} {poll : Poll} {polls : List Poll}
    (hsample : readActualSample poll.sample = some current)
    (h : current.sequence ≠ previous.sequence) :
    samplesTaken previous (poll :: polls) = current :: samplesTaken current polls := by
  rw [samplesTaken, hsample]
  exact if_neg h

theorem sourceError_ne_ok (source : ControlMode) (view : SourceView) :
    limits.sourceError source view ≠ some .ok := by
  unfold sourceError
  split_ifs
  · nofun
  · split
    · nofun
    · split_ifs <;> nofun

theorem exists_of_sourceError {source : ControlMode} {view : SourceView}
    (h : limits.sourceError source view = none) (hsource : source ≠ .velocityReady) :
    ∃ snapshot, view.readCommandSnapshot source = some snapshot ∧
      snapshot.receivedSteadyNs ≤ view.now ∧
      view.now - snapshot.receivedSteadyNs ≤ limits.sourceStateMaxAgeNs ∧
      (source = .rollingReady → snapshot.rollingState = limits.holding) := by
  rw [sourceError, if_neg hsource] at h
  cases hread : view.readCommandSnapshot source with
  | none =>
    rw [hread] at h
    cases h
  | some snapshot =>
    rw [hread] at h
    dsimp only at h
    split_ifs at h with hstale hmoving
    rw [not_or, not_lt, not_lt] at hstale
    exact ⟨snapshot, rfl, hstale.1, hstale.2, fun hrolling =>
      of_not_not fun hne => hmoving ⟨hrolling, hne⟩⟩

theorem handsOver_of_ok {source : ControlMode} {view : SourceView}
    (h : limits.admitSource source view current = .ok) :
    HandsOver limits source view current := by
  refine ⟨fun hsource => ?_⟩
  unfold admitSource at h
  cases herror : limits.sourceError source view with
  | some error =>
    rw [herror] at h
    exact absurd (herror.trans (congrArg some h)) (sourceError_ne_ok source view)
  | none =>
    rw [herror] at h
    dsimp only at h
    split_ifs at h with hmatches
    obtain ⟨snapshot, hread, hpast, hage, hholding⟩ := exists_of_sourceError herror hsource
    refine ⟨snapshot, hread, hpast, hage, hholding, fun hfjt => ?_⟩
    rw [takeoverMatches, hread, hfjt] at hmatches
    simpa using hmatches

variable {source : ControlMode} {history : List ActualSample} {previous : ActualSample}
  {poll : Poll} {polls : List Poll}

theorem Admitted.skip (h : Admitted limits source history previous polls)
    (hpoll : poll.undisturbed)
    (hskip : ∀ current, readActualSample poll.sample = some current →
      current.sequence = previous.sequence) :
    Admitted limits source history previous (poll :: polls) := by
  obtain ⟨checked, last, rest, current, earlier, window, rfl, hchecked, hlast, hwindow, hrest⟩ :=
    h.admitted
  refine ⟨poll :: checked, last, rest, current, earlier, window, rfl, ?_, hlast, ?_, hrest⟩
  · exact List.forall_mem_cons.2 ⟨hpoll, hchecked⟩
  · rw [List.cons_append, samplesTaken_cons_skip hskip]
    exact hwindow

theorem Admitted.take (h : Admitted limits source (history ++ [current]) current polls)
    (hpoll : poll.undisturbed) (hsample : readActualSample poll.sample = some current)
    (hsequence : current.sequence ≠ previous.sequence) :
    Admitted limits source history previous (poll :: polls) := by
  obtain ⟨checked, last, rest, sample, earlier, window, rfl, hchecked, hlast, hwindow, hrest⟩ :=
    h.admitted
  refine ⟨poll :: checked, last, rest, sample, earlier, window, rfl, ?_, hlast, ?_, hrest⟩
  · exact List.forall_mem_cons.2 ⟨hpoll, hchecked⟩
  · rw [List.cons_append, samplesTaken_cons hsample hsequence, ← hwindow, List.append_assoc,
      List.singleton_append]

theorem admitted_of_ok (before : List ActualSample) (hspans : limits.Spans samples w)
    (hopen : w.windowIntervals < limits.stableIntervalCount)
    (h : limits.awaitStandstill source w polls = some .ok) :
    Admitted limits source (before ++ samples) w.previous polls := by
  induction polls generalizing w samples before with
  | nil => cases h
  | cons poll polls ih =>
    rw [awaitStandstill] at h
    by_cases hexpired : poll.expired = true
    · rw [if_pos hexpired] at h
      cases h
    rw [if_neg hexpired] at h
    by_cases hdisturbed : (poll.abort || poll.owner ≠ .mode || poll.phase ≠ .enabled) = true
    · rw [if_pos hdisturbed] at h
      cases h
    · rw [if_neg hdisturbed] at h
      have hpoll : poll.undisturbed := by
        simp only [Bool.or_eq_true, decide_eq_true_eq, not_or, not_not] at hdisturbed
        exact ⟨eq_false_of_ne_true hexpired, eq_false_of_ne_true hdisturbed.1.1, hdisturbed.1.2,
          hdisturbed.2⟩
      cases hsample : readActualSample poll.sample with
      | none =>
        rw [hsample] at h
        exact (ih before hspans hopen h).skip hpoll fun current h' => nomatch hsample.symm.trans h'
      | some current =>
        rw [hsample] at h
        dsimp only at h
        by_cases hsame : current.sequence = w.previous.sequence
        · rw [if_pos hsame] at h
          refine (ih before hspans hopen h).skip hpoll fun sample h' => ?_
          rw [← Option.some.inj (hsample.symm.trans h')]
          exact hsame
        rw [if_neg hsame] at h
        cases hfresh : limits.sampleFresh current with
        | false =>
          rw [hfresh] at h
          cases h
        | true =>
          rw [hfresh, Bool.not_true, if_neg Bool.false_ne_true] at h
          cases hgap : limits.contiguous w.previous current with
          | false =>
            rw [hgap] at h
            exact (ih _ (.restart hfresh) limits.stableIntervalCount_pos h).take hpoll hsample hsame
          | true =>
            rw [hgap, Bool.not_true, if_neg Bool.false_ne_true] at h
            have hspans' := hspans.extend hfresh hgap hsame
            by_cases hmore : w.windowIntervals + 1 < limits.stableIntervalCount
            · rw [if_pos hmore] at h
              have hrest := ih before hspans' hmore h
              rw [← List.append_assoc] at hrest
              exact hrest.take hpoll hsample hsame
            rw [if_neg hmore] at h
            cases hstable : limits.stableActualInterval w.windowStart current with
            | false =>
              rw [hstable] at h
              exact (ih _ (.restart hfresh) limits.stableIntervalCount_pos h).take hpoll hsample
                hsame
            | true =>
              -- the window is full, and this sample ends it
              rw [hstable, Bool.not_true, if_neg Bool.false_ne_true] at h
              have hover := handsOver_of_ok (Option.some.inj h)
              refine ⟨[], poll, polls, current, before, samples ++ [current], rfl, ?_, hsample,
                ?_, ⟨w.extend current, hspans', rfl, ?_, hstable⟩, hover⟩
              · exact List.forall_mem_singleton.2 hpoll
              · rw [List.nil_append, samplesTaken_cons hsample hsame, samplesTaken,
                  List.append_assoc]
              · exact le_antisymm hopen (not_lt.1 hmore)

theorem awaitStandstill_stale (hpoll : poll.undisturbed)
    (hsample : readActualSample poll.sample = some current)
    (hsequence : current.sequence ≠ w.previous.sequence)
    (hstale : limits.sampleFresh current = false) :
    limits.awaitStandstill source w (poll :: polls) = some .feedbackStale := by
  obtain ⟨hexpired, habort, howner, hphase⟩ := hpoll
  simp [awaitStandstill, hexpired, habort, howner, hphase, hsample, hsequence, hstale]

theorem awaitStandstill_restart (hpoll : poll.undisturbed)
    (hsample : readActualSample poll.sample = some current)
    (hsequence : current.sequence ≠ w.previous.sequence) (hfresh : limits.sampleFresh current)
    (hbroken : limits.contiguous w.previous current = false ∨
      limits.stableIntervalCount ≤ w.windowIntervals + 1 ∧
        limits.stableActualInterval w.windowStart current = false) :
    limits.awaitStandstill source w (poll :: polls) =
      limits.awaitStandstill source (.restart current) polls := by
  obtain ⟨hexpired, habort, howner, hphase⟩ := hpoll
  rcases hbroken with hgap | ⟨hfull, hmoved⟩
  · simp [awaitStandstill, hexpired, habort, howner, hphase, hsample, hsequence, hfresh, hgap]
  · simp [awaitStandstill, hexpired, habort, howner, hphase, hsample, hsequence, hfresh,
      not_lt.2 hfull, hmoved]

end Admitted

/-- A mode switch is admitted only after a full window of fresh and consecutive samples whose
start-to-end displacement rate is below the thresholds; a gap or a moved window starts the count
again from the sample that shows it, and a stale sample ends the check. -/
theorem standstill_admission (source : ControlMode) (view : SourceView)
    (first : Option ActualSample) (polls : List Poll) :
    (limits.validateModeSource source view first polls = some .ok →
      ∃ sample, readActualSample first = some sample ∧ limits.sampleFresh sample ∧
        limits.sourceError source view = none ∧ Admitted limits source [sample] sample polls) ∧
    ∀ (w : Window) (poll : Poll) (current : ActualSample) (rest : List Poll), poll.undisturbed →
      readActualSample poll.sample = some current → current.sequence ≠ w.previous.sequence →
      (limits.sampleFresh current = false →
        limits.awaitStandstill source w (poll :: rest) = some .feedbackStale) ∧
      (limits.sampleFresh current → limits.contiguous w.previous current = false ∨
        limits.stableIntervalCount ≤ w.windowIntervals + 1 ∧
          limits.stableActualInterval w.windowStart current = false →
        limits.awaitStandstill source w (poll :: rest) =
          limits.awaitStandstill source (.restart current) rest) := by
  constructor
  · intro h
    rw [validateModeSource] at h
    cases herror : limits.sourceError source view with
    | some error =>
      rw [herror] at h
      exact absurd (herror.trans h) (sourceError_ne_ok source view)
    | none =>
      rw [herror] at h
      dsimp only at h
      cases hfirst : readActualSample first with
      | none =>
        rw [hfirst] at h
        cases h
      | some sample =>
        rw [hfirst] at h
        dsimp only at h
        cases hfresh : limits.sampleFresh sample with
        | false =>
          rw [hfresh] at h
          cases h
        | true =>
          rw [hfresh, Bool.not_true, if_neg Bool.false_ne_true] at h
          exact ⟨sample, rfl, hfresh, rfl, admitted_of_ok []
            (Spans.restart hfresh) limits.stableIntervalCount_pos h⟩
  · intro w poll current rest hpoll hsample hsequence
    exact ⟨awaitStandstill_stale hpoll hsample hsequence,
      awaitStandstill_restart hpoll hsample hsequence⟩

section Swing

/-- One joint, a window of two intervals and half a radian per second. -/
def swingLimits : StandstillLimits where
  motionJoints := 1
  stableIntervalCount := 2
  maximumSamplePeriodNs := 2000000000
  sourceStateMaxAgeNs := 0
  feedbackAgeLimitMs := 10
  stableVelocityThresholds _ := 1 / 2
  takeoverTolerances _ := 0
  holding := 0
  stableIntervalCount_pos := Nat.two_pos

def swingSample (position : ℚ) (second : ℕ) : ActualSample where
  positions _ := some position
  feedbackAgeMs := some 0
  steadyTimeNs := second * 1000000000
  sequence := second

def swingView : SourceView where
  jtc := ⟨false, fun _ => none, 0, .disabled, 0⟩
  rolling := ⟨false, fun _ => none, 0, .disabled, 0⟩
  now := 0

def swingPoll (position : ℚ) (second : ℕ) : Poll where
  expired := false
  abort := false
  owner := .mode
  phase := .enabled
  sample := some (swingSample position second)
  view := swingView

/-- An axis that swings by a radian in each interval and ends where the window started is admitted,
although no interval is still. -/
theorem standstill_per_interval :
    ¬ ∀ (limits : StandstillLimits) (source : ControlMode) (view : SourceView)
      (sample : ActualSample) (polls : List Poll),
      limits.validateModeSource source view (some sample) polls = some .ok →
      ∃ earlier window, sample :: samplesTaken sample polls = earlier ++ window ∧
        window.length = limits.stableIntervalCount + 1 ∧
        window.IsChain fun a b => limits.stableActualInterval a b := by
  intro h
  obtain ⟨earlier, window, heq, hlength, hchain⟩ := h swingLimits .velocityReady swingView
    (swingSample 0 1) [swingPoll 1 2, swingPoll 0 3] (by decide +kernel)
  have htaken : samplesTaken (swingSample 0 1) [swingPoll 1 2, swingPoll 0 3] =
      [swingSample 1 2, swingSample 0 3] := rfl
  rw [htaken] at heq
  have hempty : earlier = [] := by
    have := congrArg List.length heq
    rw [List.length_append, hlength] at this
    exact List.length_eq_zero_iff.1 (by simpa [swingLimits] using this)
  rw [hempty, List.nil_append] at heq
  rw [← heq, List.isChain_cons_cons] at hchain
  exact absurd hchain.1 (by decide +kernel)

end Swing

end StandstillLimits

end RobotDriver.EnableManager
