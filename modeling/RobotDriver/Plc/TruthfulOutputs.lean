import RobotDriver.Lib.LabelledRun
import RobotDriver.Plc.UnconfirmedWrites

/-!
# What the PLC bridge says about its outputs

A pump is only stopped with both valves off and both pressures released, and an answer tells what
was read back. A command that loses its coil leaves the validity of its output as the last poll has
set it, so the state published next may still call the output valid.
-/

namespace RobotDriver.Plc

open LabelledRun

def Response.NotExecuted (r : Response) : Prop := ∃ what, r.error.message = "not executed: " ++ what

def Response.Unknown (r : Response) : Prop :=
  ∃ what, r.error.message = "output state unknown: " ++ what

section Lift

variable {K : Type} {line : Line}

theorem lift_triple {α : Type} {part : Io α} {pre : Session × IoModuleNode K → Prop}
    {post : α → Session × IoModuleNode K → Prop} {fail : String → Session × IoModuleNode K → Prop}
    (h : ∀ node, Triple (fun s => pre (s, node)) part (fun a s => post a (s, node))
      (fun e s => fail e (s, node))) : Triple pre (lift part) post fail := by
  rintro ⟨s, node⟩ hs
  obtain ⟨hok, herror⟩ := h node s hs
  have hrun : lift part (s, node) = ((part s).1, ((part s).2, node)) := rfl
  rcases hpart : part s with ⟨result, t⟩
  rw [hpart] at hrun
  rw [hrun]
  constructor
  · intro a s' heq
    obtain ⟨rfl, rfl⟩ := Prod.mk.inj heq
    exact hok a t hpart
  · intro e s' heq
    obtain ⟨rfl, rfl⟩ := Prod.mk.inj heq
    exact herror e t hpart

theorem update_triple {f : IoModuleNode K → IoModuleNode K} {pre : Session × IoModuleNode K → Prop}
    {post : PUnit → Session × IoModuleNode K → Prop}
    {fail : String → Session × IoModuleNode K → Prop} (h : ∀ s, pre s → post ⟨⟩ (s.1, f s.2)) :
    Triple pre (update f) post fail :=
  Triple.of_modify h

theorem read_triple {function : Function} (hread : function ≠ .writeSingleCoil) (address : UInt16)
    {P : IoModuleNode K → Prop} :
    Triple (fun s => ¬WriteSent s.1.trace ∧ P s.2) (lift (readSingleBit line function address))
      (fun _ s => ¬WriteSent s.1.trace ∧ P s.2) (fun _ s => ¬WriteSent s.1.trace ∧ P s.2) :=
  lift_triple fun _ => readSingleBit_triple
    (fun _ _ _ hs _ => ⟨not_writeSent_append hs.1 hread, hs.2⟩)
    fun _ _ _ hs => ⟨not_writeSent_append hs.1 hread, hs.2⟩

end Lift

section Polling

variable {K : Type} {line : Line}

theorem readDigital_triple [LinearOrder K] {config : Config K} {P : IoModuleNode K → Prop}
    (hset : ∀ node output state, P node → P (setOutput node output state))
    (hvalid : config.vacuumConfigured = true →
      ∀ node, P node → P { node with outputValid := fun _ => true }) :
    Triple (fun s => ¬WriteSent s.1.trace ∧ P s.2) (readDigital line config)
      (fun _ s => ¬WriteSent s.1.trace ∧ P s.2) (fun _ s => ¬WriteSent s.1.trace ∧ P s.2) := by
  have hinfrared : Triple (fun s => ¬WriteSent s.1.trace ∧ P s.2)
      (readInfrared line config : PollIo K Unit)
      (fun _ s => ¬WriteSent s.1.trace ∧ P s.2) (fun _ s => ¬WriteSent s.1.trace ∧ P s.2) := by
    unfold readInfrared readIntegerParameter
    split_ifs
    · exact Triple.of_throw fun s hs => hs
    · exact (read_triple (by decide) _).bind fun _ => Triple.of_pure fun s hs => hs
  have houtputs : config.vacuumConfigured = true →
      Triple (fun s => ¬WriteSent s.1.trace ∧ P s.2) (readOutputs line config : PollIo K Unit)
        (fun _ s => ¬WriteSent s.1.trace ∧ P s.2) (fun _ s => ¬WriteSent s.1.trace ∧ P s.2) := by
    intro hvacuum
    unfold readOutputs
    refine (Triple.forM (fun output => ?_) _).bind fun _ =>
      update_triple fun s hs => ⟨hs.1, hvalid hvacuum s.2 hs.2⟩
    rw [readOutput_eq hvacuum]
    exact (read_triple (by decide) _).bind fun state =>
      update_triple fun s hs => ⟨hs.1, hset s.2 output (some state) hs.2⟩
  have hrest : Triple (fun s => ¬WriteSent s.1.trace ∧ P s.2)
      (if config.vacuumConfigured = true then readOutputs line config else pure ())
      (fun _ s => ¬WriteSent s.1.trace ∧ P s.2) (fun _ s => ¬WriteSent s.1.trace ∧ P s.2) :=
    Triple.ite houtputs fun _ => Triple.of_pure fun s hs => hs
  unfold readDigital
  exact Triple.ite (fun _ => hinfrared.bind fun _ => hrest) fun _ => hrest

variable (line) in
theorem pollDigitalModule_spec [LinearOrder K] (config : Config K) (s : Session × IoModuleNode K)
    (hwrite : ¬WriteSent s.1.trace) :
    ¬WriteSent (pollDigitalModule line config s).1.trace ∧
      (config.vacuumConfigured = true ∧
          (pollDigitalModule line config s).2.digitalFresh = true ∨
        ∀ output, (pollDigitalModule line config s).2.outputValid output = true →
          s.2.outputValid output = true) := by
  have hread : Triple
      (fun t : Session × IoModuleNode K => ¬WriteSent t.1.trace ∧
        (config.vacuumConfigured = true ∨ t.2.outputValid = s.2.outputValid))
      (readDigital line config)
      (fun _ t => ¬WriteSent t.1.trace ∧
        (config.vacuumConfigured = true ∨ t.2.outputValid = s.2.outputValid))
      (fun _ t => ¬WriteSent t.1.trace ∧
        (config.vacuumConfigured = true ∨ t.2.outputValid = s.2.outputValid)) := by
    refine readDigital_triple
      (P := fun node => config.vacuumConfigured = true ∨ node.outputValid = s.2.outputValid)
      (fun node output state h => ?_) fun hvacuum _ _ => .inl hvacuum
    cases state with
    | none => exact h
    | some state => exact h
  obtain ⟨hok, herror⟩ := hread s ⟨hwrite, .inr rfl⟩
  unfold pollDigitalModule
  split_ifs
  · exact ⟨hwrite, .inr fun _ h => h⟩
  rcases hrun : readDigital line config s with ⟨error | done, t⟩
  · exact ⟨(herror error t hrun).1, .inr fun _ h => absurd h Bool.false_ne_true⟩
  · obtain ⟨hclean, hvacuum | hkept⟩ := hok done t hrun
    · exact ⟨hclean, .inl ⟨hvacuum, rfl⟩⟩
    · refine ⟨hclean, .inr fun output h => ?_⟩
      rw [← hkept]
      exact h

variable [Field K] [FloatCast K]

theorem readPressure_triple {pressure : PressureConfig K} {now : ℤ} :
    Triple (fun s => ¬WriteSent s.trace) (readPressure line pressure now)
      (fun sample s => ¬WriteSent s.trace ∧
        (sample.valid = true → sample.pressureKpa.isFinite = true))
      (fun _ s => ¬WriteSent s.trace) := by
  have hread : Function.readInputRegisters ≠ .writeSingleCoil := by decide
  have hrequest : Triple (fun s => ¬WriteSent s.trace)
      (request line .readInputRegisters (toAddress pressure.register) 1)
      (fun _ s => ¬WriteSent s.trace) (fun _ s => ¬WriteSent s.trace) :=
    request_triple (fun s _ hs => not_writeSent_append hs hread)
      fun s _ _ hs => not_writeSent_append hs hread
  unfold readPressure
  refine hrequest.bind fun reply => ?_
  refine Triple.ite (fun _ => Triple.of_throw fun s hs => hs) fun _ => ?_
  refine Triple.ite (fun _ => Triple.of_pure fun s hs => ⟨hs, ?_⟩) fun _ => ?_
  · exact nofun
  refine Triple.ite (fun _ => Triple.of_pure fun s hs => ⟨hs, ?_⟩) fun hfinite => ?_
  · exact nofun
  · refine Triple.of_pure fun s hs => ⟨hs, fun _ => ?_⟩
    rw [Bool.not_eq_true', Bool.not_eq_false] at hfinite
    exact hfinite

variable [LinearOrder K] {config : Config K}

/-- What a pressure poll leaves of the outputs, with samples that are a number where valid. -/
structure Sampled (node before : IoModuleNode K) : Prop where
  outputValid : node.outputValid = before.outputValid
  digitalFresh : node.digitalFresh = before.digitalFresh
  finite : FiniteSamples node

theorem readPressures_triple {now : ℤ} {before : IoModuleNode K}
    (hvacuum : config.vacuumConfigured = true) :
    Triple (fun t => ¬WriteSent t.1.trace ∧ Sampled t.2 before) (readPressures line config now)
      (fun _ t => ¬WriteSent t.1.trace ∧ Sampled t.2 before)
      (fun _ t => ¬WriteSent t.1.trace ∧ Sampled t.2 before) := by
  have hsample : ∀ pressure : PressureConfig K,
      Triple (fun t => ¬WriteSent t.1.trace ∧ Sampled t.2 before)
        (lift (readPressure line pressure now))
        (fun sample t => (¬WriteSent t.1.trace ∧ Sampled t.2 before) ∧
          (sample.valid = true → sample.pressureKpa.isFinite = true))
        (fun _ t => ¬WriteSent t.1.trace ∧ Sampled t.2 before) := by
    intro pressure
    refine lift_triple fun node => ?_
    by_cases hnode : Sampled node before
    · refine readPressure_triple.weaken (fun t ht => ht.1) ?_ fun _ t ht => ⟨ht, hnode⟩
      exact fun _ t ht => ⟨⟨ht.1, hnode⟩, ht.2⟩
    · exact fun t ht => absurd ht.2 hnode
  unfold readPressures
  rw [config.left_valid hvacuum, config.right_valid hvacuum]
  refine (hsample config.left).bind fun left => ?_
  have hleft : Triple
      (fun t => (¬WriteSent t.1.trace ∧ Sampled t.2 before) ∧
        (left.valid = true → left.pressureKpa.isFinite = true))
      (update fun node => { node with leftPressure := left })
      (fun _ t => ¬WriteSent t.1.trace ∧ Sampled t.2 before)
      (fun _ t => ¬WriteSent t.1.trace ∧ Sampled t.2 before) :=
    update_triple fun t ht => ⟨ht.1.1, ht.1.2.outputValid, ht.1.2.digitalFresh, ht.2,
      ht.1.2.finite.right⟩
  refine hleft.bind fun _ => (hsample config.right).bind fun right =>
    update_triple fun t ht => ?_
  exact ⟨ht.1.1, ht.1.2.outputValid, ht.1.2.digitalFresh, ht.1.2.finite.left, ht.2⟩

variable (line config) in
theorem pollPressureChannels_spec (now : ℤ) (s : Session × IoModuleNode K)
    (hwrite : ¬WriteSent s.1.trace) :
    ¬WriteSent (pollPressureChannels line config now s).1.trace ∧
      Sampled (pollPressureChannels line config now s).2 s.2 := by
  have hreset : Sampled { s.2 with leftPressure := {}, rightPressure := {} } s.2 :=
    ⟨rfl, rfl, nofun, nofun⟩
  unfold pollPressureChannels
  dsimp only
  split_ifs with hvacuum
  · exact ⟨hwrite, hreset.outputValid, hreset.digitalFresh, hreset.finite.left,
      hreset.finite.right⟩
  rw [Bool.not_eq_true', Bool.not_eq_false] at hvacuum
  obtain ⟨hok, herror⟩ := readPressures_triple hvacuum
    (s.1, { s.2 with leftPressure := {}, rightPressure := {} }) ⟨hwrite, hreset⟩
  split
  · next done t hrun =>
    obtain ⟨hclean, hsampled⟩ := hok done t hrun
    exact ⟨hclean, hsampled.outputValid, hsampled.digitalFresh, hsampled.finite.left,
      hsampled.finite.right⟩
  · next error t hrun =>
    obtain ⟨hclean, hsampled⟩ := herror error t hrun
    exact ⟨hclean, hsampled.outputValid, hsampled.digitalFresh, hsampled.finite.left,
      hsampled.finite.right⟩

end Polling

section Command

theorem setOutput_outputValid {K : Type} (node : IoModuleNode K) (output : Output)
    (readback : Option Bool) : (setOutput node output readback).outputValid = node.outputValid := by
  cases readback with
  | none => rfl
  | some state => rfl

theorem FiniteSamples.setOutput {K : Type} {node : IoModuleNode K} (h : FiniteSamples node)
    (output : Output) (readback : Option Bool) :
    FiniteSamples (Plc.setOutput node output readback) := by
  cases readback with
  | none => exact h
  | some state => exact ⟨h.left, h.right⟩

variable {K : Type} [Field K] [LinearOrder K] {config : Config K} {line : Line}
  {node : IoModuleNode K} {output : Output} {enabled : Bool}

/-- What a command does, seen from the line and from the answer. -/
structure Commanded (config : Config K) (node : IoModuleNode K) (output : Output) (enabled : Bool)
    (line : Line) (e : Effect K) : Prop where
  guarded : Guarded config node output enabled e.trace
  outputValid : e.node.outputValid = node.outputValid
  finite : FiniteSamples e.node
  accepted : ∀ r, e.response = some r → r.accepted = true →
    LastRead (coil config output) enabled e.trace
  not_executed : ∀ r, e.response = some r → r.NotExecuted → ¬WriteSent e.trace
  unknown : (∃ r, e.response = some r ∧ r.Unknown) ↔
    UnconfirmedWrite config node output enabled line
  published : ∀ state, e.published = some state → state = publishPlcState config e.node
  unknown_published : (∃ r, e.response = some r ∧ r.Unknown) →
    e.published = some (publishPlcState config e.node)

theorem Commanded.of_known {e : Effect K} {r : Response} (hresponse : e.response = some r)
    (hguarded : Guarded config node output enabled e.trace)
    (hvalid : e.node.outputValid = node.outputValid) (hfinite : FiniteSamples e.node)
    (haccepted : r.accepted = true → LastRead (coil config output) enabled e.trace)
    (hnot : r.NotExecuted → ¬WriteSent e.trace) (hknown : ¬r.Unknown)
    (hconfirmed : ¬UnconfirmedWrite config node output enabled line)
    (hpublished : ∀ state, e.published = some state → state = publishPlcState config e.node) :
    Commanded config node output enabled line e := by
  have hunknown : ¬∃ r, e.response = some r ∧ r.Unknown := by
    rintro ⟨other, hother, h⟩
    rw [hresponse] at hother
    exact hknown (Option.some.inj hother ▸ h)
  refine ⟨hguarded, hvalid, hfinite, ?_, ?_, ?_, hpublished, (absurd · hunknown)⟩
  · intro other hother
    rw [hresponse] at hother
    exact Option.some.inj hother ▸ haccepted
  · intro other hother
    rw [hresponse] at hother
    exact Option.some.inj hother ▸ hnot
  · exact iff_of_false hunknown hconfirmed

theorem Commanded.of_exception {e : Effect K} {s : Session} {error : String} {state : Bool}
    (htrace : e.trace = s.trace)
    (hresponse : e.response = some ⟨false, state, fillError .rtPlcUnavailable
      ((if s.writeMayHaveOccurred then "output state unknown: " else "not executed: ") ++ error)
      true⟩)
    (hpublished : e.published = some (publishPlcState config e.node))
    (hended : Ended config node output enabled s)
    (hvalid : e.node.outputValid = node.outputValid) (hfinite : FiniteSamples e.node)
    (hunconfirmed : s.writeMayHaveOccurred = true ↔
      UnconfirmedWrite config node output enabled line) :
    Commanded config node output enabled line e := by
  have hunknown : (∃ r, e.response = some r ∧ r.Unknown) ↔ s.writeMayHaveOccurred = true := by
    rw [hresponse]
    constructor
    · rintro ⟨r, hr, what, hwhat⟩
      rw [← Option.some.inj hr] at hwhat
      by_contra hflag
      have hlist := congrArg String.toList hwhat
      simp [fillError, hflag] at hlist
    · intro hflag
      exact ⟨_, rfl, error, by simp only [fillError, hflag, if_true]⟩
  refine ⟨htrace ▸ hended.guarded, hvalid, hfinite, ?_, ?_, ?_, ?_, fun _ => hpublished⟩
  · intro r hr haccepted
    rw [hresponse] at hr
    rw [← Option.some.inj hr] at haccepted
    exact absurd haccepted Bool.false_ne_true
  · intro r hr hnot hsent
    rw [htrace, ← hended.written] at hsent
    rw [hresponse] at hr
    obtain ⟨what, hwhat⟩ := Option.some.inj hr ▸ hnot
    have hlist := congrArg String.toList hwhat
    simp [fillError, hsent] at hlist
  · exact hunknown.trans hunconfirmed
  · intro state hstate
    rw [hpublished] at hstate
    exact (Option.some.inj hstate).symm

theorem success_message_ne (what : String) :
    output.service ++ (if enabled then "=ON verified" else "=OFF verified") ≠
        "not executed: " ++ what ∧
      output.service ++ (if enabled then "=ON verified" else "=OFF verified") ≠
        "output state unknown: " ++ what := by
  constructor
  all_goals
    intro h
    have hlist := congrArg String.toList h
    cases output with
    | pump | leftValve | rightValve => simp [Output.service] at hlist

theorem onOutputCommand_spec (hfinite : FiniteSamples node) :
    Commanded config node output enabled line
      (onOutputCommand line config node output enabled) := by
  have hidle : Idle {} := ⟨by simp [WriteSent], rfl, rfl⟩
  unfold onOutputCommand
  cases hvacuum : config.vacuumConfigured with
  | false =>
    refine Commanded.of_known rfl (guarded_of_no_write hidle.no_write) rfl hfinite
      (by rintro ⟨⟩) (fun _ => hidle.no_write) ?_ ?_
      fun state hstate => absurd hstate (Option.some_ne_none state).symm
    · rintro ⟨what, hwhat⟩
      have hlist := congrArg String.toList hwhat
      simp [fillError] at hlist
    · exact fun h => ne_true_of_eq_false hvacuum h.1
  | true =>
    rw [if_neg (by decide)]
    obtain ⟨hok, herror⟩ := execute_triple line hvacuum hfinite {} hidle
    have hunknown := execute_error_iff line output enabled hvacuum hfinite
    rcases hrun : execute line config node output enabled {} with ⟨error | blocker, session⟩
    · have hended := herror error session hrun
      have hkept := hfinite.setOutput output session.readback
      refine Commanded.of_exception rfl rfl rfl hended
        (setOutput_outputValid node output session.readback) ⟨hkept.left, hkept.right⟩ ?_
      rw [← hunknown, hrun]
      refine ⟨fun h => ⟨error, session, rfl, h⟩, ?_⟩
      rintro ⟨e, t, hthrow, hwritten⟩
      cases hthrow
      exact hwritten
    · obtain ⟨hended, hdone, hrefused⟩ := hok blocker session hrun
      have hconfirmed : ¬UnconfirmedWrite config node output enabled line := by
        rw [← hunknown, hrun]
        rintro ⟨e, t, hthrow, -⟩
        cases hthrow
      have hkept := hfinite.setOutput output session.readback
      dsimp only
      split
      · next heq =>
        have hread := (hdone (Except.ok.inj heq)).1
        refine Commanded.of_known rfl hended.guarded
          (setOutput_outputValid node output session.readback) ⟨hkept.left, hkept.right⟩
          (fun _ => hread) ?_ ?_ hconfirmed fun state hstate => (Option.some.inj hstate).symm
        · rintro ⟨what, hwhat⟩
          exact absurd hwhat (success_message_ne what).1
        · rintro ⟨what, hwhat⟩
          exact absurd hwhat (success_message_ne what).2
      · next other hne heq =>
        have hclean := hrefused fun h => hne ((Except.ok.inj heq).symm.trans h)
        refine Commanded.of_known rfl hended.guarded
          (setOutput_outputValid node output session.readback) hkept
          (by rintro ⟨⟩) (fun _ => hclean) ?_ hconfirmed
          fun state hstate => absurd hstate (Option.some_ne_none state).symm
        rintro ⟨what, hwhat⟩
        have hlist := congrArg String.toList hwhat
        simp [fillError] at hlist
      · next error heq => cases heq

theorem onOutputCommand_unconfigured (hvacuum : config.vacuumConfigured = false) :
    (onOutputCommand line config node output enabled).trace = [] := by
  rw [onOutputCommand, hvacuum]
  rfl

theorem guarded_load_held (hvacuum : config.vacuumConfigured = true) {trace : Trace}
    (h : Guarded config node output enabled trace) {before after : Trace} {answer : Answer}
    (heq : trace =
      before ++ (⟨.writeSingleCoil, coil config .pump, coilOff⟩, answer) :: after) :
    Cleared config node before := by
  have hdistinct : coilOff ≠ coilOn := by decide
  obtain ⟨hrequest, hcleared⟩ := h before _ after heq rfl
  rw [Request.mk.injEq] at hrequest
  refine hcleared (coil_injective hvacuum hrequest.2.1).symm ?_
  cases enabled with
  | false => rfl
  | true => exact absurd hrequest.2.2 hdistinct

end Command

/-- A node with the outputs whose state is unknown since a command and not read back since. -/
structure Monitor (K : Type) where
  node : IoModuleNode K
  unknown : Output → Prop

variable {K : Type} [Field K] [LinearOrder K] [FloatCast K] (config : Config K)

/-- The command leaves this output unknown. -/
def LeavesUnknown (node : IoModuleNode K) (event : Event) (output : Output) : Prop :=
  ∃ enabled line, event = .command output enabled line ∧
    ∃ r, (step config node event).response = some r ∧ r.Unknown

/-- The event reads the output back: a poll of all outputs, or an accepted command. -/
def ReadsBack (node : IoModuleNode K) (event : Event) (output : Output) : Prop :=
  (∃ line now, event = .poll line now ∧ config.vacuumConfigured = true ∧
      (step config node event).node.digitalFresh = true) ∨
    ∃ enabled line, event = .command output enabled line ∧
      ∃ r, (step config node event).response = some r ∧ r.accepted = true

def Monitor.step (m : Monitor K) (event : Event) : Monitor K where
  node := (Plc.step config m.node event).node
  unknown output := LeavesUnknown config m.node event output ∨
    m.unknown output ∧ ¬ReadsBack config m.node event output

def Monitor.initial : Monitor K := ⟨{}, fun _ => False⟩

/-- What the bridge should keep in every callback. -/
structure Truthful (m : Monitor K) (event : Event) : Prop where
  load_held : ∀ before answer after, (Plc.step config m.node event).trace =
      before ++ (⟨.writeSingleCoil, coil config .pump, coilOff⟩, answer) :: after →
    Cleared config m.node before
  accepted : ∀ output enabled line, event = .command output enabled line →
    ∀ r, (Plc.step config m.node event).response = some r → r.accepted = true →
      LastRead (coil config output) enabled (Plc.step config m.node event).trace
  not_executed : ∀ r, (Plc.step config m.node event).response = some r → r.NotExecuted →
    ¬WriteSent (Plc.step config m.node event).trace
  unknown_invalid : ∀ state, (Plc.step config m.node event).published = some state →
    ∀ output, (m.step config event).unknown output → state.outputValid output = false

/-- A command that loses its coil finds the output marked invalid already. -/
def UnconfirmedInvalid (m : Monitor K) (event : Event) : Prop :=
  ∀ output enabled line, event = .command output enabled line →
    UnconfirmedWrite config m.node output enabled line → m.node.outputValid output = false

section Runs

variable {config}

theorem pollAllInputs_spec (line : Line) (now : ℤ) (node : IoModuleNode K) :
    ¬WriteSent (pollAllInputs line config node now).trace ∧
      FiniteSamples (pollAllInputs line config node now).node ∧
      (config.vacuumConfigured = true ∧
          (pollAllInputs line config node now).node.digitalFresh = true ∨
        ∀ output, (pollAllInputs line config node now).node.outputValid output = true →
          node.outputValid output = true) := by
  obtain ⟨hdigital, hvalid⟩ := pollDigitalModule_spec line config
    ({}, { node with digitalFresh := false, analogConnected := false }) (by simp [WriteSent])
  obtain ⟨hclean, hsampled⟩ := pollPressureChannels_spec line config now _
    hdigital
  refine ⟨hclean, hsampled.finite, ?_⟩
  rw [pollAllInputs, hsampled.outputValid, hsampled.digitalFresh]
  exact hvalid

/-- Unknown outputs are marked invalid, and valid samples carry a number. -/
structure Monitor.Sound (m : Monitor K) : Prop where
  invalid : ∀ output, m.unknown output → m.node.outputValid output = false
  finite : FiniteSamples m.node

theorem Monitor.sound_initial {K : Type} : (Monitor.initial : Monitor K).Sound :=
  ⟨fun _ => False.elim, nofun, nofun⟩

theorem unknown_of_command {m : Monitor K} {output : Output} {enabled : Bool} {line : Line}
    (hspec : Commanded config m.node output enabled line
      (Plc.step config m.node (.command output enabled line))) {other : Output}
    (h : (m.step config (.command output enabled line)).unknown other) :
    m.unknown other ∨ other = output ∧ UnconfirmedWrite config m.node output enabled line := by
  rcases h with ⟨_, _, hevent, hunknown⟩ | h
  · cases hevent
    exact .inr ⟨rfl, hspec.unknown.1 hunknown⟩
  · exact .inl h.1

theorem Monitor.Sound.invalid_step {m : Monitor K} (hm : m.Sound) {event : Event}
    (h : UnconfirmedInvalid config m event) (output : Output)
    (hunknown : (m.step config event).unknown output) :
    (m.step config event).node.outputValid output = false := by
  cases event with
  | poll line now =>
    obtain ⟨-, -, hvalid⟩ := pollAllInputs_spec line now m.node
    rcases hunknown with ⟨_, _, hevent, -⟩ | ⟨hbefore, hread⟩
    · cases hevent
    · have hkept := hvalid.resolve_left fun hfresh => hread (.inl ⟨line, now, rfl, hfresh⟩)
      rw [← Bool.not_eq_true]
      intro hmarked
      exact absurd (hkept output hmarked) (Bool.not_eq_true _ ▸ hm.invalid output hbefore)
  | command commanded enabled line =>
    have hspec : Commanded config m.node commanded enabled line
      (Plc.step config m.node (.command commanded enabled line)) := onOutputCommand_spec hm.finite
    have hkept : (m.step config (.command commanded enabled line)).node.outputValid output =
      m.node.outputValid output := congrFun hspec.outputValid output
    rw [hkept]
    rcases unknown_of_command hspec hunknown with hbefore | ⟨rfl, hlost⟩
    · exact hm.invalid output hbefore
    · exact h output enabled line rfl hlost

theorem Monitor.Sound.step {m : Monitor K} (hm : m.Sound) {event : Event}
    (h : UnconfirmedInvalid config m event) : (m.step config event).Sound := by
  refine ⟨hm.invalid_step h, ?_⟩
  cases event with
  | poll line now => exact (pollAllInputs_spec line now m.node).2.1
  | command output enabled line => exact (onOutputCommand_spec hm.finite).finite

theorem Truthful.of_command {m : Monitor K} (hm : m.Sound) {output : Output} {enabled : Bool}
    {line : Line} (h : UnconfirmedInvalid config m (.command output enabled line)) :
    Truthful config m (.command output enabled line) := by
  have hspec : Commanded config m.node output enabled line
    (Plc.step config m.node (.command output enabled line)) := onOutputCommand_spec hm.finite
  refine ⟨fun before answer after heq => ?_, ?_, hspec.not_executed,
    fun state hstate other hother => ?_⟩
  · cases hvacuum : config.vacuumConfigured with
    | true => exact guarded_load_held hvacuum hspec.guarded heq
    | false =>
      have hnil : (Plc.step config m.node (.command output enabled line)).trace = [] :=
        onOutputCommand_unconfigured hvacuum
      rw [hnil] at heq
      exact absurd heq (by simp)
  · intro other asked line' hevent
    cases hevent
    exact hspec.accepted
  · rw [hspec.published state hstate]
    exact hm.invalid_step h other hother

theorem Truthful.of_poll {m : Monitor K} (hm : m.Sound) {line : Line} {now : ℤ} :
    Truthful config m (.poll line now) := by
  obtain ⟨hclean, -, -⟩ := pollAllInputs_spec line now m.node
  refine ⟨fun before answer after heq => ?_, ?_, ?_, fun state hstate other hother => ?_⟩
  · exact absurd ⟨_, heq ▸ List.mem_append_right _ List.mem_cons_self, rfl⟩ hclean
  · intro output enabled line' hevent
    cases hevent
  · intro r hr
    cases hr
  · have hquiet : UnconfirmedInvalid config m (.poll line now) := by
      intro output enabled line' hevent
      cases hevent
    rw [← Option.some.inj hstate]
    exact hm.invalid_step hquiet other hother

theorem truthful_iff {m : Monitor K} (hm : m.Sound) (event : Event) :
    Truthful config m event ↔ UnconfirmedInvalid config m event := by
  refine ⟨fun h => ?_, fun h => ?_⟩
  · rintro output enabled line rfl hlost
    have hspec : Commanded config m.node output enabled line
      (Plc.step config m.node (.command output enabled line)) := onOutputCommand_spec hm.finite
    have hunknown := hspec.unknown.2 hlost
    have hinvalid := h.unknown_invalid _ (hspec.unknown_published hunknown) output
      (.inl ⟨enabled, line, rfl, hunknown⟩)
    exact (congrFun hspec.outputValid output).symm.trans hinvalid
  · cases event with
    | poll line now => exact Truthful.of_poll hm
    | command output enabled line => exact Truthful.of_command hm h

end Runs

/-- The bridge is truthful in every run in which no unconfirmed write finds its output valid. -/
theorem along_truthful_iff (events : List Event) :
    Along (Monitor.step config) (Truthful config) .initial events ↔
      Along (Monitor.step config) (UnconfirmedInvalid config) .initial events := by
  refine along_congr_of_invariant (P := Monitor.Sound) (D := fun _ => True)
    (fun m event hm _ => truthful_iff hm event) (fun m event hm _ h => ?_) Monitor.sound_initial
    fun _ _ => trivial
  exact hm.step ((truthful_iff hm event).1 h)

section Lost

local instance : FloatCast ℚ := ⟨.finite⟩

/-- Coils read as off and all other requests time out. -/
def mute : Line := fun _ r =>
  if r.function = .readCoils then .ok [1, 1, 0] else .error "timeout"

def pressureAt (register : ℤ) : PressureConfig ℚ := ⟨"left", "sensor", register, 0, 1, 1, 0, 1⟩

def wired : Config ℚ where
  vacuumConfigured := true
  infraredConfigured := false
  infraredAddress := 0
  address output := output.ctorIdx
  left := pressureAt 0
  right := pressureAt 1
  addresses_mem _ output := by cases output <;> decide
  addresses_ne _ output other h := by cases output <;> cases other <;> first | rfl | cases h
  left_valid _ := rfl
  right_valid _ := rfl
  registers_ne _ := by decide

/-- After a good poll the pump coil is written in vain, and the next state still calls it valid. -/
theorem lost_pump_not_truthful :
    ¬Along (Monitor.step wired) (Truthful wired) .initial
      [.poll mute 0, .command .pump true mute] := by
  rintro ⟨-, h, -⟩
  have hmarked := h.unknown_invalid _ rfl .pump (.inl ⟨true, mute, rfl, _, rfl, _, rfl⟩)
  exact absurd hmarked (by decide)

end Lost

end RobotDriver.Plc
