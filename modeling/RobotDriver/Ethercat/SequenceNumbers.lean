import RobotDriver.Ethercat.PdoChannels
import RobotDriver.Ethercat.RideThrough

/-!
# Sequence numbers of the cyclic-mode axis

A sequence is confirmed in the cycle that sends every component commanded with it. The feedback
is counted at each input channel once the four objects that are waited for have been received,
and every cycle but the first passes over the channels with all of them received.
-/

namespace RobotDriver.Ethercat

open LabelledRun (Along run)

/-- What the axis counts, and what it has received. -/
structure Counters where
  havePosition : Bool
  haveVelocity : Bool
  haveStatus : Bool
  haveMode : Bool
  feedbackSequence : ℕ
  sentSequence : ℕ
  pending : Pending
  publishedFeedback : ℕ
  publishedSent : ℕ

def kSequenceLimit : ℕ := 9007199254740991

/-- The objects that a cycle waits for. -/
def InputObject.required : InputObject → Bool
  | .errorWord1 | .errorWord2 => false
  | _ => true

namespace Counters

variable (c : Counters)

/-- Nothing is missing of the object. -/
def has : InputObject → Bool
  | .statusWord => c.haveStatus
  | .actualPosition => c.havePosition
  | .actualVelocity => c.haveVelocity
  | .modeDisplay => c.haveMode
  | .errorWord1 | .errorWord2 => true

def received : Bool := c.havePosition && c.haveVelocity && c.haveStatus && c.haveMode

def clear : Counters :=
  { c with havePosition := false, haveVelocity := false, haveStatus := false, haveMode := false }

def store : InputObject → Counters
  | .statusWord => { c with haveStatus := true }
  | .actualPosition => { c with havePosition := true }
  | .actualVelocity => { c with haveVelocity := true }
  | .modeDisplay => { c with haveMode := true }
  | .errorWord1 | .errorWord2 => c

def count : Counters :=
  if c.received then
    if kSequenceLimit ≤ c.feedbackSequence then c
    else
      { c with
        feedbackSequence := c.feedbackSequence + 1
        publishedFeedback := c.feedbackSequence + 1 }
  else c

def receive (object : InputObject) : Counters := (c.store object).count

def receiveAll (objects : List InputObject) : Counters := objects.foldl receive c

/-- The channels at which everything has been received. -/
def counted : Counters → List InputObject → ℕ
  | _, [] => 0
  | c, object :: objects =>
    (if (c.store object).received then 1 else 0) + (c.receive object).counted objects

theorem received_iff : c.received = true ↔ ∀ object, c.has object = true := by
  simp only [received, Bool.and_eq_true]
  constructor
  · rintro ⟨⟨⟨hposition, hvelocity⟩, hstatus⟩, hmode⟩ object
    cases object <;> first | assumption | rfl
  · intro h
    exact ⟨⟨⟨h .actualPosition, h .actualVelocity⟩, h .statusWord⟩, h .modeDisplay⟩

theorem has_store (object other : InputObject) :
    (c.store object).has other = (c.has other || decide (other = object)) := by
  cases object <;> cases other <;> simp [store, has]

theorem has_count (object : InputObject) : c.count.has object = c.has object := by
  unfold count
  split_ifs <;> rfl

theorem has_receiveAll (objects : List InputObject) (other : InputObject) :
    (c.receiveAll objects).has other = (c.has other || decide (other ∈ objects)) := by
  induction objects generalizing c with
  | nil => simp [receiveAll]
  | cons object objects ih =>
    refine (ih (c.receive object)).trans ?_
    rw [receive, has_count, has_store]
    simp [Bool.or_assoc]

theorem received_receive (object : InputObject) :
    (c.receive object).received = (c.store object).received := by
  rw [receive, Bool.eq_iff_iff, received_iff, received_iff]
  simp only [has_count]

theorem counted_snoc (objects : List InputObject) (last : InputObject) :
    c.counted (objects ++ [last]) = c.counted objects +
      if (c.receiveAll (objects ++ [last])).received then 1 else 0 := by
  induction objects generalizing c with
  | nil =>
    simp only [List.nil_append, counted, receiveAll, List.foldl_cons, List.foldl_nil,
      received_receive, Nat.zero_add, Nat.add_zero]
  | cons object objects ih =>
    simp only [List.cons_append, counted, ih, Nat.add_assoc]
    rfl

theorem counted_of_received (h : c.received = true) (objects : List InputObject) :
    c.counted objects = objects.length := by
  induction objects generalizing c with
  | nil => rfl
  | cons object objects ih =>
    have hstored : (c.store object).received = true := by
      rw [received_iff] at h ⊢
      intro other
      rw [has_store, h other, Bool.true_or]
    rw [counted, if_pos hstored, ih _ ((c.received_receive object).trans hstored)]
    exact Nat.add_comm 1 _

theorem received_mono {objects : List InputObject} {last : InputObject}
    (h : (c.receiveAll objects).received = true) :
    (c.receiveAll (objects ++ [last])).received = true := by
  rw [received_iff] at h ⊢
  intro other
  have hother := h other
  rw [has_receiveAll] at hother ⊢
  simp only [Bool.or_eq_true, decide_eq_true_eq, List.mem_append] at hother ⊢
  exact hother.imp_right .inl

theorem counted_of_missing (objects : List InputObject)
    (h : (c.receiveAll objects).received = false) : c.counted objects = 0 := by
  induction objects using List.reverseRecOn with
  | nil => rfl
  | append_singleton objects last ih =>
    have hbefore : (c.receiveAll objects).received = false :=
      Bool.eq_false_iff.2 fun hall => ne_true_of_eq_false h (c.received_mono hall)
    rw [counted_snoc, ih hbefore, h]
    rfl

theorem kept_receiveAll (objects : List InputObject) :
    (c.receiveAll objects).pending = c.pending ∧
      (c.receiveAll objects).sentSequence = c.sentSequence ∧
      (c.receiveAll objects).publishedSent = c.publishedSent := by
  induction objects generalizing c with
  | nil => exact ⟨rfl, rfl, rfl⟩
  | cons object objects ih =>
    obtain ⟨hpending, hsent, hpublished⟩ := ih (c.receive object)
    refine ⟨hpending.trans ?_, hsent.trans ?_, hpublished.trans ?_⟩ <;>
      unfold receive count <;> split_ifs <;> cases object <;> rfl

theorem feedbackSequence_receiveAll (objects : List InputObject)
    (h : c.feedbackSequence ≤ kSequenceLimit)
    (hpublished : c.publishedFeedback = c.feedbackSequence) :
    (c.receiveAll objects).feedbackSequence =
        min (c.feedbackSequence + c.counted objects) kSequenceLimit ∧
      (c.receiveAll objects).publishedFeedback = (c.receiveAll objects).feedbackSequence := by
  induction objects generalizing c with
  | nil => exact ⟨(min_eq_left h).symm, hpublished⟩
  | cons object objects ih =>
    have hstored : (c.store object).feedbackSequence = c.feedbackSequence ∧
        (c.store object).publishedFeedback = c.publishedFeedback := by
      cases object <;> exact ⟨rfl, rfl⟩
    have hreceive : (c.receive object).feedbackSequence = min (c.feedbackSequence +
          if (c.store object).received then 1 else 0) kSequenceLimit ∧
        (c.receive object).publishedFeedback = (c.receive object).feedbackSequence := by
      unfold receive count
      rw [hstored.1]
      split_ifs with hreceived hlimit
      · exact ⟨by rw [hstored.1]; omega, hstored.2.trans (hpublished.trans hstored.1.symm)⟩
      · exact ⟨by dsimp only; omega, rfl⟩
      · exact ⟨by rw [hstored.1]; omega, hstored.2.trans (hpublished.trans hstored.1.symm)⟩
    obtain ⟨hrest, hsame⟩ := ih (c.receive object) (hreceive.1 ▸ min_le_right _ _) hreceive.2
    refine ⟨hrest.trans ?_, hsame⟩
    rw [hreceive.1, counted]
    omega

end Counters

/-- The last input channel is one of the four that a cycle waits for. -/
def KincoProfile.EndsRequired (profile : KincoProfile) : Prop :=
  ∃ object ∈ profile.inputs.getLast?, object.required = true

instance (profile : KincoProfile) : Decidable profile.EndsRequired :=
  inferInstanceAs (Decidable (∃ object ∈ profile.inputs.getLast?, _))

theorem KincoProfile.two_le_length (profile : KincoProfile) :
    2 ≤ profile.inputs.length := by
  have hpair : [InputObject.statusWord, .actualPosition] ⊆ profile.inputs :=
    fun object _ => profile.mem_inputs object
  exact (List.subperm_of_subset (by decide) hpair).length_le

namespace Counters

variable (c : Counters) (profile : KincoProfile)

theorem received_inputs : (c.receiveAll profile.inputs).received = true := by
  rw [received_iff]
  intro object
  rw [has_receiveAll, decide_eq_true (profile.mem_inputs object), Bool.or_true]

theorem counted_inputs (h : ∀ object, object.required = true → c.has object = false) :
    1 ≤ c.counted profile.inputs ∧ (c.counted profile.inputs = 1 ↔ profile.EndsRequired) := by
  have hreceived := c.received_inputs profile
  have hmem := profile.mem_inputs
  have hnodup := profile.nodup_inputs
  unfold KincoProfile.EndsRequired
  generalize profile.inputs = objects at hreceived hmem hnodup ⊢
  obtain rfl | ⟨objects, last, rfl⟩ := objects.eq_nil_or_concat'
  · exact absurd (hmem .statusWord) List.not_mem_nil
  rw [counted_snoc, if_pos hreceived]
  refine ⟨by omega, ?_⟩
  have hlast : (∃ object ∈ (objects ++ [last]).getLast?, object.required = true) ↔
      last.required = true := by simp
  rw [hlast]
  constructor
  · intro hone
    by_contra hextra
    have hall : (c.receiveAll objects).received = true := by
      rw [received_iff]
      intro object
      rw [has_receiveAll, Bool.or_eq_true, decide_eq_true_eq]
      by_cases hrequired : object.required = true
      · have hother := hmem object
        rw [List.mem_append, List.mem_singleton] at hother
        exact .inr (hother.resolve_right fun heq => hextra (heq ▸ hrequired))
      · left
        cases object <;> first | rfl | exact absurd rfl hrequired
    obtain rfl | ⟨before, object, rfl⟩ := objects.eq_nil_or_concat'
    · rw [received_iff] at hall
      have hstatus := hall .statusWord
      rw [receiveAll, List.foldl_nil, h .statusWord rfl] at hstatus
      exact Bool.false_ne_true hstatus
    · rw [counted_snoc, if_pos hall] at hone
      omega
  · intro hrequired
    have hnot : last ∉ objects := by
      intro hin
      exact (List.nodup_append.1 hnodup).2.2 last hin last (List.mem_singleton_self last) rfl
    have hmissing : (c.receiveAll objects).received = false := by
      refine Bool.eq_false_iff.2 fun hall => ?_
      have hhas := (received_iff _).1 hall last
      rw [has_receiveAll, h last hrequired, decide_eq_false hnot] at hhas
      exact Bool.false_ne_true hhas
    rw [counted_of_missing _ _ hmissing]

/-- The count is below its limit and published, and either everything has been received or
nothing. -/
structure Valid (c : Counters) : Prop where
  limit : c.feedbackSequence ≤ kSequenceLimit
  published : c.publishedFeedback = c.feedbackSequence
  received : c.received = true ∨ ∀ object, object.required = true → c.has object = false

theorem Valid.clear {c : Counters} (h : c.Valid) : c.clear.Valid where
  limit := h.limit
  published := h.published
  received := .inr fun object hrequired => by cases object <;> first | rfl | cases hrequired

theorem Valid.receiveAll {c : Counters} (h : c.Valid) :
    (c.receiveAll profile.inputs).Valid ∧ (c.receiveAll profile.inputs).feedbackSequence =
      min (c.feedbackSequence + c.counted profile.inputs) kSequenceLimit := by
  obtain ⟨hcount, hpublished⟩ := c.feedbackSequence_receiveAll profile.inputs h.limit h.published
  exact ⟨⟨hcount ▸ min_le_right _ _, hpublished, .inl (c.received_inputs profile)⟩, hcount⟩

end Counters

namespace KincoCyclicModeSlave

variable {K : Type*} [Field K] [LinearOrder K]

section Counters

variable (s : KincoCyclicModeSlave K)

def counters : Counters where
  havePosition := s.havePosition
  haveVelocity := s.haveVelocity
  haveStatus := s.haveStatus
  haveMode := s.haveMode
  feedbackSequence := s.feedbackSequence
  sentSequence := s.sentSequence
  pending := s.pending
  publishedFeedback := s.states.feedbackSequence
  publishedSent := s.states.sentSequence

end Counters

variable [FloorRing K] (s : KincoCyclicModeSlave K)

theorem counters_operate (now : ℤ) : (s.operate now).counters = s.counters := by
  unfold operate
  split_ifs
  · unfold awaitMode awaitCsp
    dsimp only
    split_ifs <;> rfl
  · unfold requestMode requestCsp requestCsv
    split_ifs
    · rfl
    · rfl
    · rfl
    · split <;> rfl
    · rfl
  · unfold followPosition takePosition
    split_ifs
    · rfl
    · rfl
    · split
      · rfl
      · split_ifs <;> rfl
  · have hcoordinated : s.modeReached.coordinated.counters = s.counters := by
      unfold coordinated
      split_ifs <;> rfl
    rw [← hcoordinated]
    unfold followVelocity takeVelocity
    split_ifs
    · rfl
    · split <;> rfl

theorem counters_seededCycle (now : ℤ) : (s.seededCycle now).counters = s.counters := by
  have htracked : s.tracked.counters = s.counters := by
    unfold tracked
    split_ifs <;> rfl
  rw [seededCycle, ← htracked, unlatchedCycle]
  split_ifs
  · rfl
  · rfl
  · rfl
  · unfold confirmStartupMode waitForStartupMode
    dsimp only
    split_ifs <;> rfl
  · exact counters_operate _ now

theorem counters_onPdoCycleStart (complete : Bool) (now : ℤ) :
    (s.onPdoCycleStart complete now).counters = { s.counters with pending := s.pendingWrite } := by
  have hexit := s.startExit complete now
  generalize s.onPdoCycleStart complete now = t at hexit
  cases hexit with
  | seeded valid seeded => exact counters_seededCycle ((s.prepare true now).ageFeedback now) now
  | _ => rfl

omit [FloorRing K] in
theorem counters_processInput (image : InputImage) (object : InputObject) :
    (s.processInput (image.input object)).counters =
      if s.cycleComplete then s.counters.receive object else s.counters := by
  unfold processInput
  cases s.cycleComplete with
  | false => rfl
  | true =>
    have hstore : (s.store (image.input object)).counters = s.counters.store object := by
      cases object <;> rfl
    simp only [Bool.not_true, Bool.false_eq_true, if_false, if_true, Counters.receive, ← hstore]
    unfold countFeedback Counters.count
    have hreceived : (s.store (image.input object)).haveInputs =
        (s.store (image.input object)).counters.received := rfl
    rw [hreceived]
    have hsequence : (s.store (image.input object)).counters.feedbackSequence =
        (s.store (image.input object)).feedbackSequence := rfl
    rw [hsequence, kSequenceLimit]
    split_ifs <;> rfl

omit [FloorRing K] in
theorem counters_processInputs (image : InputImage) (objects : List InputObject) :
    (s.processInputs (objects.map image.input)).counters =
      if s.cycleComplete then s.counters.receiveAll objects else s.counters := by
  induction objects generalizing s with
  | nil => cases s.cycleComplete <;> rfl
  | cons object objects ih =>
    have hcomplete : (s.processInput (image.input object)).cycleComplete = s.cycleComplete :=
      congrArg Bookkeeping.cycleComplete (s.bookkeeping_processInput _)
    refine (ih (s.processInput (image.input object))).trans ?_
    rw [hcomplete, counters_processInput]
    cases s.cycleComplete <;> rfl

omit [FloorRing K] in
theorem counters_onPdoCycleRead (complete : Bool) (now : ℤ) :
    (s.onPdoCycleRead complete now).counters = s.counters.clear ∧
      (s.onPdoCycleRead complete now).cycleComplete = complete := by
  unfold onPdoCycleRead
  dsimp only
  split_ifs <;> exact ⟨rfl, rfl⟩

variable (profile : KincoProfile) (c : PdoCycle K)

/-- The count that the pass before the start hook leaves. -/
def countRead : Counters :=
  if c.readAt.isSome then
    if c.complete then s.counters.clear.receiveAll profile.inputs else s.counters.clear
  else s.counters

omit [FloorRing K] in
theorem counters_atStart : (s.atStart (c.toKinco profile)).counters = s.countRead profile c := by
  change (s.readData (c.toKinco profile)).counters = _
  simp only [readData, PdoCycle.toKinco, countRead]
  cases c.readAt with
  | none => rfl
  | some readAt =>
    obtain ⟨hclear, hcomplete⟩ := s.counters_onPdoCycleRead c.complete readAt
    simp only [Option.isSome_some, if_true, counters_processInputs, hclear, hcomplete]

/-- The send hook confirms the pending write. -/
def confirms : Bool :=
  s.pending.valid && !s.errorLatched && s.isOperationEnabled &&
    s.sentSequence < s.pending.sequence && s.feedbackSequence ≠ 0 &&
    (s.pending.mask &&& 1 = 0 || s.pending.velocity = s.output.velocity) &&
    (s.pending.mask &&& 2 = 0 || s.pending.position = s.output.position) &&
    (s.pending.mask &&& 4 = 0 || s.pending.mode = s.output.mode)

omit [FloorRing K] in
theorem counters_acknowledge :
    s.acknowledge.counters =
      if s.confirms then
        { s.counters with
          sentSequence := s.pending.sequence
          publishedSent := s.pending.sequence }
      else s.counters := by
  change (if s.confirms then _ else _ : KincoCyclicModeSlave K).counters = _
  split_ifs <;> rfl

omit [FloorRing K] in
theorem counters_onPdoCycleSent :
    s.onPdoCycleSent.counters = s.counters ∨
      s.cycleComplete = true ∧ s.confirms = true ∧ s.onPdoCycleSent.counters =
        { s.counters with
          sentSequence := s.pending.sequence
          publishedSent := s.pending.sequence } := by
  have hseed : ∀ s : KincoCyclicModeSlave K, s.confirmSeed.counters = s.counters := by
    intro s
    unfold confirmSeed
    dsimp only
    split_ifs <;> rfl
  have hpreseed : ∀ s : KincoCyclicModeSlave K, s.confirmPreseed.counters = s.counters := by
    intro s
    unfold confirmPreseed
    split_ifs <;> rfl
  have hcsv : ∀ s : KincoCyclicModeSlave K, s.confirmCsv.counters = s.counters := by
    intro s
    unfold confirmCsv
    split_ifs <;> rfl
  unfold onPdoCycleSent
  split_ifs with hsilent
  · exact .inl rfl
  simp only [Bool.or_eq_true, Bool.not_eq_true', not_or, Bool.not_eq_false] at hsilent
  dsimp only
  rw [hcsv, hpreseed, hseed, counters_acknowledge]
  cases hconfirms : s.confirms with
  | false => exact .inl (if_neg (Bool.eq_false_iff.1 hconfirms))
  | true => exact .inr ⟨hsilent.1, rfl, if_pos hconfirms⟩

/-- The write that leads to the output under the sequence. -/
def Commands (sequence : ℕ) (output : KincoOutput) : Prop :=
  ∃ mask, exactInteger s.commands.writeSequence 9007199254740991 = some sequence ∧
    exactInteger s.commands.writeMask 7 = some mask ∧ 0 < mask ∧
    (mask &&& 1 ≠ 0 → s.validVelocityCommand = some output.velocity) ∧
    (mask &&& 2 ≠ 0 → s.validPositionCommand = some output.position) ∧
    (mask &&& 4 ≠ 0 → s.requestedMode = output.mode)

theorem pendingWrite_of_valid (h : s.pendingWrite.valid = true) :
    exactInteger s.commands.writeSequence 9007199254740991 = some s.pendingWrite.sequence ∧
      exactInteger s.commands.writeMask 7 = some s.pendingWrite.mask ∧
      0 < s.pendingWrite.mask ∧
      (s.pendingWrite.mask &&& 1 ≠ 0 →
        s.validVelocityCommand = some s.pendingWrite.velocity) ∧
      (s.pendingWrite.mask &&& 2 ≠ 0 →
        s.validPositionCommand = some s.pendingWrite.position) ∧
      s.requestedMode = s.pendingWrite.mode := by
  unfold pendingWrite at h ⊢
  cases hsequence : exactInteger s.commands.writeSequence (9007199254740991 : K) with
  | none => simp [hsequence] at h
  | some sequence =>
    cases hmask : exactInteger s.commands.writeMask (7 : K) with
    | none => simp [hsequence, hmask] at h
    | some mask =>
      by_cases hpositive : 0 < sequence ∧ 0 < mask
      swap
      · simp [hsequence, hmask, hpositive] at h
      simp only [hsequence, hmask, if_pos hpositive] at h ⊢
      simp only [Bool.and_eq_true, Bool.or_eq_true, decide_eq_true_eq] at h
      obtain ⟨⟨hvelocity, hposition⟩, hmode⟩ := h
      refine ⟨trivial, trivial, hpositive.2, fun hselected => ?_, fun hselected => ?_, trivial⟩
      · obtain ⟨velocity, hcommand⟩ :=
          Option.isSome_iff_exists.1 (hvelocity.resolve_left hselected)
        simp only [if_neg hselected, hcommand, Option.getD_some]
      · obtain ⟨position, hcommand⟩ :=
          Option.isSome_iff_exists.1 (hposition.resolve_left hselected)
        simp only [if_neg hselected, hcommand, Option.getD_some]

theorem counters_cycle :
    ∃ t : KincoCyclicModeSlave K,
      t.counters = (if c.complete then
        { s.countRead profile c with
          pending := (s.atStart (c.toKinco profile)).pendingWrite }.receiveAll profile.inputs
      else
        { s.countRead profile c with
          pending := (s.atStart (c.toKinco profile)).pendingWrite }) ∧
      t.output = (s.started (c.toKinco profile)).output ∧
      ((s.cycle (c.toKinco profile)).counters = t.counters ∨
        c.complete = true ∧ t.confirms = true ∧
          (s.cycle (c.toKinco profile)).counters =
            { t.counters with
              sentSequence := t.pending.sequence
              publishedSent := t.pending.sequence }) := by
  have hcomplete : (s.started (c.toKinco profile)).cycleComplete = c.complete :=
    (s.atStart (c.toKinco profile)).cycleComplete_start c.complete c.startAt
  have hpassed : ((s.started (c.toKinco profile)).processInputs
      (c.toKinco profile).inputs).cycleComplete = c.complete :=
    (congrArg Bookkeeping.cycleComplete (bookkeeping_processInputs _ _)).trans hcomplete
  have hstarted := (s.atStart (c.toKinco profile)).counters_onPdoCycleStart c.complete c.startAt
  rw [counters_atStart] at hstarted
  refine ⟨(s.started (c.toKinco profile)).processInputs (c.toKinco profile).inputs, ?_,
    output_processInputs _ _, ?_⟩
  · refine (counters_processInputs _ c.inputs profile.inputs).trans ?_
    rw [hcomplete, ← hstarted]
    rfl
  · rw [← hpassed]
    exact counters_onPdoCycleSent _

end KincoCyclicModeSlave

namespace PdoSlave

variable {K : Type*} [Field K] [LinearOrder K] [FloorRing K] (profile : KincoProfile)
  (p : PdoSlave K)

/-- The confirmed sequence moves on only in a complete cycle that writes all outputs and sends
what was commanded with it, and never back. -/
structure SendSound (c : PdoCycle K) : Prop where
  le : p.slave.sentSequence ≤ (p.cycle profile c).slave.sentSequence
  advance : p.slave.sentSequence < (p.cycle profile c).slave.sentSequence →
    c.complete = true ∧ (∀ object, (p.cycle profile c).writtenOutputs object = true) ∧
      (p.slave.atStart (c.toKinco profile)).Commands (p.cycle profile c).slave.sentSequence
        (p.cycle profile c).image ∧
      (p.cycle profile c).slave.states.sentSequence = (p.cycle profile c).slave.sentSequence
  rest : (p.cycle profile c).slave.sentSequence = p.slave.sentSequence →
    (p.cycle profile c).slave.states.sentSequence = p.slave.states.sentSequence

/-- A complete cycle, which receives every object, counts once; any other cycle does not. -/
def FeedbackSound (c : PdoCycle K) : Prop :=
  (p.cycle profile c).slave.states.feedbackSequence =
    p.slave.states.feedbackSequence + if c.complete then 1 else 0

/-- The sequence numbers are sound; the bus state leaves both counters alone. -/
def Sound : PdoLabel K → Prop
  | .cycle c => p.SendSound profile c ∧ p.FeedbackSound profile c
  | .operational value =>
    (p.slave.setStateIsOperational value).sentSequence = p.slave.sentSequence ∧
      (p.slave.setStateIsOperational value).states.feedbackSequence =
        p.slave.states.feedbackSequence

/-- A complete cycle has no pass before the start hook and is the first to receive the objects,
the last of them in the last channel, or takes the counter to its limit. -/
def CountsOnce : PdoLabel K → Prop
  | .cycle c => c.complete = true →
    p.slave.feedbackSequence + 1 = kSequenceLimit ∨
      p.slave.feedbackSequence + 1 < kSequenceLimit ∧ c.readAt = none ∧
        p.slave.haveInputs = false ∧ profile.EndsRequired
  | .operational _ => True

theorem sendSound (c : PdoCycle K) : p.SendSound profile c := by
  obtain ⟨hslave, himage, hwritten⟩ := p.cycle_eq profile c
  obtain ⟨t, ht, houtput, hsent⟩ := p.slave.counters_cycle profile c
  have hread : (p.slave.countRead profile c).sentSequence = p.slave.sentSequence ∧
      (p.slave.countRead profile c).publishedSent = p.slave.states.sentSequence := by
    unfold KincoCyclicModeSlave.countRead
    split_ifs
    · exact (Counters.kept_receiveAll _ _).2
    · exact ⟨rfl, rfl⟩
    · exact ⟨rfl, rfl⟩
  have hkept : t.counters.pending = (p.slave.atStart (c.toKinco profile)).pendingWrite ∧
      t.counters.sentSequence = p.slave.sentSequence ∧
      t.counters.publishedSent = p.slave.states.sentSequence := by
    rw [ht]
    split_ifs
    · obtain ⟨hpending, hsequence, hpublished⟩ := Counters.kept_receiveAll
        { p.slave.countRead profile c with
          pending := (p.slave.atStart (c.toKinco profile)).pendingWrite } profile.inputs
      exact ⟨hpending, hsequence.trans hread.1, hpublished.trans hread.2⟩
    · exact ⟨rfl, hread⟩
  obtain ⟨hpending, hsequence, hpublished⟩ := hkept
  rcases hsent with hquiet | ⟨hcomplete, hconfirms, hnext⟩
  · have hsame : (p.cycle profile c).slave.sentSequence = p.slave.sentSequence := by
      rw [hslave]
      exact (congrArg Counters.sentSequence hquiet).trans hsequence
    refine ⟨hsame.ge, fun hadvance => (hadvance.ne hsame.symm).elim, fun _ => ?_⟩
    rw [hslave]
    exact (congrArg Counters.publishedSent hquiet).trans hpublished
  · have hadvanced : (p.cycle profile c).slave.sentSequence = t.pending.sequence ∧
        (p.cycle profile c).slave.states.sentSequence = t.pending.sequence := by
      rw [hslave]
      exact ⟨congrArg Counters.sentSequence hnext, congrArg Counters.publishedSent hnext⟩
    have hpended : t.pending = (p.slave.atStart (c.toKinco profile)).pendingWrite := hpending
    have hbefore : t.sentSequence = p.slave.sentSequence := hsequence
    simp only [KincoCyclicModeSlave.confirms, Bool.and_eq_true, Bool.or_eq_true,
      decide_eq_true_eq, hbefore] at hconfirms
    obtain ⟨⟨⟨⟨⟨⟨⟨hvalid, _⟩, _⟩, hlater⟩, _⟩, hvelocity⟩, hposition⟩, hmode⟩ := hconfirms
    rw [hpended] at hvalid
    obtain ⟨hwrite, hmask, hpositive, hrate, hplace, hrequest⟩ :=
      (p.slave.atStart (c.toKinco profile)).pendingWrite_of_valid hvalid
    rw [← hpended] at hwrite hmask hpositive hrate hplace hrequest
    refine ⟨hadvanced.1 ▸ hlater.le, fun _ => ⟨hcomplete, hwritten, ?_,
      hadvanced.2.trans hadvanced.1.symm⟩, fun hsame => (hlater.ne ?_).elim⟩
    · rw [hadvanced.1, himage, ← houtput]
      exact ⟨t.pending.mask, hwrite, hmask, hpositive,
        fun hselected => (hrate hselected).trans (congrArg some (hvelocity.resolve_left hselected)),
        fun hselected => (hplace hselected).trans (congrArg some (hposition.resolve_left hselected)),
        fun hselected => hrequest.trans (hmode.resolve_left hselected)⟩
    · rw [← hadvanced.1, hsame]

/-- The count that the pass after the start hook begins with. -/
def countStarted (c : PdoCycle K) : Counters :=
  { p.slave.countRead profile c with
    pending := (p.slave.atStart (c.toKinco profile)).pendingWrite }

theorem valid_countStarted (h : p.slave.counters.Valid) (c : PdoCycle K) :
    (p.countStarted profile c).Valid := by
  have hread : (p.slave.countRead profile c).Valid := by
    unfold KincoCyclicModeSlave.countRead
    split_ifs
    · exact (h.clear.receiveAll profile).1
    · exact h.clear
    · exact h
  exact ⟨hread.limit, hread.published, hread.received⟩

theorem valid_cycle (h : p.slave.counters.Valid) (c : PdoCycle K) :
    (p.cycle profile c).slave.counters.Valid ∧
      (p.cycle profile c).slave.feedbackSequence =
        if c.complete then
          min ((p.countStarted profile c).feedbackSequence +
            (p.countStarted profile c).counted profile.inputs) kSequenceLimit
        else (p.countStarted profile c).feedbackSequence := by
  obtain ⟨hslave, _, _⟩ := p.cycle_eq profile c
  obtain ⟨t, ht, _, hsent⟩ := p.slave.counters_cycle profile c
  change t.counters = (if c.complete then
    (p.countStarted profile c).receiveAll profile.inputs else p.countStarted profile c) at ht
  have hstarted := p.valid_countStarted profile h c
  have hvalid : t.counters.Valid ∧ t.counters.feedbackSequence =
      if c.complete then
        min ((p.countStarted profile c).feedbackSequence +
          (p.countStarted profile c).counted profile.inputs) kSequenceLimit
      else (p.countStarted profile c).feedbackSequence := by
    rw [ht]
    split_ifs
    · exact hstarted.receiveAll profile
    · exact ⟨hstarted, rfl⟩
  have hkept : (p.cycle profile c).slave.counters.Valid ∧
      (p.cycle profile c).slave.counters.feedbackSequence = t.counters.feedbackSequence := by
    rw [hslave]
    rcases hsent with hquiet | ⟨_, _, hnext⟩
    · rw [hquiet]
      exact ⟨hvalid.1, rfl⟩
    · rw [hnext]
      exact ⟨⟨hvalid.1.limit, hvalid.1.published, hvalid.1.received⟩, rfl⟩
  exact ⟨hkept.1, hkept.2.trans hvalid.2⟩

theorem feedbackSound_iff (h : p.slave.counters.Valid) (c : PdoCycle K) :
    p.FeedbackSound profile c ↔ p.CountsOnce profile (.cycle c) := by
  obtain ⟨hnext, hcount⟩ := p.valid_cycle profile h c
  have hpublished : (p.cycle profile c).slave.states.feedbackSequence =
      (p.cycle profile c).slave.feedbackSequence := hnext.published
  have hbefore : p.slave.states.feedbackSequence = p.slave.feedbackSequence := h.published
  have hlimit : p.slave.feedbackSequence ≤ kSequenceLimit := h.limit
  have hlength := profile.two_le_length
  rw [FeedbackSound, CountsOnce, hpublished, hcount, hbefore]
  have hstarted : (p.countStarted profile c).feedbackSequence =
      (p.slave.countRead profile c).feedbackSequence := rfl
  cases hcomplete : c.complete with
  | false =>
    have hread : (p.slave.countRead profile c).feedbackSequence = p.slave.feedbackSequence := by
      simp only [KincoCyclicModeSlave.countRead, hcomplete, Bool.false_eq_true, if_false]
      split_ifs <;> rfl
    simp [hstarted, hread]
  | true =>
    simp only [if_true, true_imp_iff]
    cases hread : c.readAt with
    | some readAt =>
      have hreceive := h.clear.receiveAll profile
      have hones := (p.slave.counters.clear.counted_inputs profile fun object hrequired => by
        cases object <;> first | rfl | cases hrequired).1
      have hfirst : (p.slave.countRead profile c).feedbackSequence =
          min (p.slave.feedbackSequence + p.slave.counters.clear.counted profile.inputs)
            kSequenceLimit := by
        simp only [KincoCyclicModeSlave.countRead, hread, hcomplete, Option.isSome_some, if_true]
        exact hreceive.2
      have hall : (p.countStarted profile c).received = true := by
        simp only [countStarted, KincoCyclicModeSlave.countRead, hread, hcomplete,
          Option.isSome_some, if_true]
        exact Counters.received_inputs _ profile
      rw [Counters.counted_of_received _ hall, hstarted, hfirst]
      simp only [reduceCtorEq, false_and, and_false, or_false]
      omega
    | none =>
      have hsame : p.slave.countRead profile c = p.slave.counters := by
        simp only [KincoCyclicModeSlave.countRead, hread, Option.isSome_none, Bool.false_eq_true,
          if_false]
      rw [hstarted, hsame]
      have hfed : p.slave.counters.feedbackSequence = p.slave.feedbackSequence := rfl
      have hhave : p.slave.haveInputs = p.slave.counters.received := by
        simp only [KincoCyclicModeSlave.haveInputs, Counters.received]
        rfl
      rw [hfed, hhave]
      rcases h.received with hall | hnone
      · have hall' : (p.countStarted profile c).received = true := by
          rw [countStarted, hsame]
          exact hall
        rw [Counters.counted_of_received _ hall', hall]
        simp only [Bool.true_eq_false, false_and, and_false, or_false]
        omega
      · obtain ⟨hones, hends⟩ := (p.countStarted profile c).counted_inputs profile (by
          rw [countStarted, hsame]
          intro object hrequired
          exact (hnone object hrequired))
        have hmissing : p.slave.counters.received = false := by
          refine Bool.eq_false_iff.2 fun hall => ?_
          exact Bool.false_ne_true ((hnone .statusWord rfl).symm.trans
            ((Counters.received_iff _).1 hall .statusWord))
        rw [hmissing, ← hends]
        simp only [true_and]
        omega

theorem sound_iff (h : p.slave.counters.Valid) (label : PdoLabel K) :
    p.Sound profile label ↔ p.CountsOnce profile label := by
  cases label with
  | cycle c => exact (and_iff_right (p.sendSound profile c)).trans (p.feedbackSound_iff profile h c)
  | operational value => cases value <;> exact iff_of_true ⟨rfl, rfl⟩ trivial

theorem valid_step (h : p.slave.counters.Valid) (label : PdoLabel K) :
    (p.step profile label).slave.counters.Valid := by
  cases label with
  | cycle c => exact (p.valid_cycle profile h c).1
  | operational value => cases value <;> exact ⟨h.limit, h.published, h.received⟩

omit [FloorRing K] in
theorem valid_start (config : KincoConfig K) (commands : KincoCommands K) :
    (KincoCyclicModeSlave.start config commands).counters.Valid where
  limit := Nat.zero_le _
  published := rfl
  received := .inr fun object hrequired => by cases object <;> first | rfl | cases hrequired

end PdoSlave

/-- The sequence numbers of a run are sound if and only if each of its complete cycles counts
once. -/
theorem sequence_numbers_sound_iff {K : Type*} [Field K] [LinearOrder K] [FloorRing K]
    (profile : KincoProfile) (config : KincoConfig K) (commands : KincoCommands K)
    (labels : List (PdoLabel K)) :
    Along (PdoSlave.step profile) (fun p => p.Sound profile) (.start config commands) labels ↔
      Along (PdoSlave.step profile) (fun p => p.CountsOnce profile) (.start config commands)
        labels :=
  LabelledRun.along_congr <|
    LabelledRun.along_of_invariant (P := fun p : PdoSlave K => p.slave.counters.Valid)
      (fun p label h => p.valid_step profile h label) (fun p label h => p.sound_iff profile h label)
      (PdoSlave.valid_start config commands) labels

namespace Kinco

/-- The channels in the order of the test profile. -/
def mockProfile : KincoProfile where
  channels := [.output .controlWord, .output .targetPosition, .output .targetVelocity,
    .output .modeOfOperation, .input .statusWord, .input .actualPosition, .input .actualVelocity,
    .input .modeDisplay, .input .errorWord1, .input .errorWord2]
  nodup := by decide
  mem := by rintro (object | object) <;> cases object <;> decide

def disabledAtRest : PdoCycle ℚ where
  complete := true
  inputs := ⟨0x0021#16, 350, 0, kCsv, 0, 0⟩
  readAt := some 4000000
  writes := []
  startAt := 5000000

/-- The first complete cycle counts to nine. -/
theorem cycle_counts_every_channel :
    (run (PdoSlave.step mockProfile)
      (.start (configuration kCsv (.inr rfl)) commands)
      [.operational true, .cycle disabledAtRest]).slave.states.feedbackSequence = 9 ∧
    ¬∀ (profile : KincoProfile) (config : KincoConfig ℚ) commands labels,
      Along (PdoSlave.step profile) (fun p => p.Sound profile) (.start config commands)
        labels := by
  have hnine : (run (PdoSlave.step mockProfile)
      (.start (configuration kCsv (.inr rfl)) commands)
      [.operational true, .cycle disabledAtRest]).slave.states.feedbackSequence = 9 := by
    decide +kernel
  refine ⟨hnine, fun h => ?_⟩
  have hsound := (h mockProfile (configuration kCsv (.inr rfl)) commands
    [.operational true, .cycle disabledAtRest]).2.1.2
  exact absurd (hnine.symm.trans hsound) (by decide +kernel)

end Kinco

end RobotDriver.Ethercat
