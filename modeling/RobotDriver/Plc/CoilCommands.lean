import RobotDriver.Lib.Triple
import RobotDriver.Plc.IoModuleNode

/-!
# What a command does on the line

Whatever the module answers, a command writes no coil but its own, stops the pump only when nothing
can be held, and knows of every write it has sent.
-/

namespace RobotDriver.Plc

/-- The coil was read back as `bit`. -/
def WasRead (address : UInt16) (bit : Bool) (trace : Trace) : Prop :=
  ∃ reply, (⟨.readCoils, address, 1⟩, .ok reply) ∈ trace ∧ singleBit reply = some bit

/-- The last answer is a readback of the coil as `bit`. -/
def LastRead (address : UInt16) (bit : Bool) (trace : Trace) : Prop :=
  ∃ init reply, trace = init ++ [(⟨.readCoils, address, 1⟩, .ok reply)] ∧
    singleBit reply = some bit

def WriteSent (trace : Trace) : Prop := ∃ e ∈ trace, e.1.function = .writeSingleCoil

section Requests

variable {line : Line} {pre : Session → Prop} {fail : String → Session → Prop}

/-- A session after one more request. -/
def Session.after (s : Session) (r : Request) (answer : Answer) : Session :=
  { s with trace := s.trace ++ [(r, answer)] }

theorem request_triple {function : Function} {address value : UInt16}
    {post : List UInt8 → Session → Prop}
    (hok : ∀ s reply, pre s → post reply (s.after ⟨function, address, value⟩ (.ok reply)))
    (herror : ∀ s e text, pre s → fail text (s.after ⟨function, address, value⟩ (.error e))) :
    Triple pre (request line function address value) post fail := by
  refine Triple.of_run ?_ ?_
  · intro s hs reply s' hrun
    cases hanswer : line s.trace ⟨function, address, value⟩ with
    | ok bytes =>
      simp only [request, hanswer, Except.mapError] at hrun
      cases hrun
      exact hok s reply hs
    | error e =>
      simp only [request, hanswer, Except.mapError] at hrun
      cases hrun
  · intro s hs text s' hrun
    cases hanswer : line s.trace ⟨function, address, value⟩ with
    | ok bytes =>
      simp only [request, hanswer, Except.mapError] at hrun
      cases hrun
    | error e =>
      simp only [request, hanswer, Except.mapError] at hrun
      cases hrun
      exact herror s e _ hs

theorem readSingleBit_triple {function : Function} {address : UInt16}
    {post : Bool → Session → Prop}
    (hok : ∀ s reply bit, pre s → singleBit reply = some bit →
      post bit (s.after ⟨function, address, 1⟩ (.ok reply)))
    (hfail : ∀ s answer text, pre s → fail text (s.after ⟨function, address, 1⟩ answer)) :
    Triple pre (readSingleBit line function address) post fail := by
  have hrequest : Triple pre (request line function address 1)
      (fun reply s' => ∃ s, pre s ∧ s' = s.after ⟨function, address, 1⟩ (.ok reply)) fail :=
    request_triple (fun s reply hs => ⟨s, hs, rfl⟩) fun s e text hs => hfail s _ text hs
  refine hrequest.bind fun reply => ?_
  cases hbit : singleBit reply with
  | none =>
    refine Triple.of_throw ?_
    rintro s' ⟨s, hs, rfl⟩
    exact hfail s _ _ hs
  | some bit =>
    refine Triple.of_pure ?_
    rintro s' ⟨s, hs, rfl⟩
    exact hok s reply bit hs hbit

end Requests

section Addresses

variable {K : Type} [LinearOrder K] {config : Config K} {line : Line}

def coil (config : Config K) (output : Output) : UInt16 := toAddress (config.address output)

theorem readAddress_eq (hvacuum : config.vacuumConfigured = true) (output : Output) :
    readAddress config output = .ok (coil config output) := by
  obtain ⟨hlow, hhigh⟩ := config.addresses_mem hvacuum output
  rw [readAddress, readIntegerParameter, if_neg (by omega)]
  rfl

theorem readOutput_eq (hvacuum : config.vacuumConfigured = true) (output : Output) :
    readOutput line config output = readSingleBit line .readCoils (coil config output) := by
  rw [readOutput, readAddress_eq hvacuum]
  rfl

theorem coil_injective (hvacuum : config.vacuumConfigured = true) :
    Function.Injective (coil config) := by
  intro output other h
  refine config.addresses_ne hvacuum ?_
  obtain ⟨hlow, hhigh⟩ := config.addresses_mem hvacuum output
  obtain ⟨hlow', hhigh'⟩ := config.addresses_mem hvacuum other
  have := congrArg UInt16.toNat h
  simp only [coil, toAddress, UInt16.toNat_ofNat', Nat.toUInt16] at this
  omega

end Addresses

variable {K : Type} [Field K] [LinearOrder K]

/-- Both valves were read back off and both stored pressures are valid samples of -1 kPa or more. -/
structure Cleared (config : Config K) (node : IoModuleNode K) (trace : Trace) : Prop where
  left : WasRead (coil config .leftValve) false trace
  right : WasRead (coil config .rightValve) false trace
  leftPressure : node.leftPressure.valid = true ∧
    ∃ p, node.leftPressure.pressureKpa = .finite p ∧ -1 ≤ p
  rightPressure : node.rightPressure.valid = true ∧
    ∃ p, node.rightPressure.pressureKpa = .finite p ∧ -1 ≤ p

section Execute

variable {line : Line} {config : Config K} {node : IoModuleNode K} {output : Output}
  {enabled : Bool}

/-- Nothing has been written or read back yet. -/
structure Idle (s : Session) : Prop where
  no_write : ¬WriteSent s.trace
  flag : s.writeMayHaveOccurred = false
  readback : s.readback = none

theorem not_writeSent_append {trace : Trace} {r : Request} {answer : Answer}
    (h : ¬WriteSent trace) (hr : r.function ≠ .writeSingleCoil) :
    ¬WriteSent (trace ++ [(r, answer)]) := by
  rintro ⟨e, he, hwrite⟩
  rcases List.mem_append.1 he with he | he
  · exact h ⟨e, he, hwrite⟩
  · rw [List.mem_singleton.1 he] at hwrite
    exact hr hwrite

theorem Idle.after {s : Session} (h : Idle s) {r : Request} (hr : r.function ≠ .writeSingleCoil)
    (answer : Answer) : Idle (s.after r answer) :=
  ⟨not_writeSent_append h.no_write hr, h.flag, h.readback⟩

theorem WasRead.append {address : UInt16} {bit : Bool} {trace : Trace}
    (h : WasRead address bit trace) (later : Trace) : WasRead address bit (trace ++ later) := by
  obtain ⟨reply, hmem, hbit⟩ := h
  exact ⟨reply, List.mem_append_left _ hmem, hbit⟩

theorem wasRead_snoc {address : UInt16} {bit : Bool} {reply : List UInt8} (trace : Trace)
    (hbit : singleBit reply = some bit) :
    WasRead address bit (trace ++ [(⟨.readCoils, address, 1⟩, .ok reply)]) :=
  ⟨reply, List.mem_append_right _ (List.mem_singleton_self _), hbit⟩

/-- Samples that are marked valid carry a number. -/
structure FiniteSamples (node : IoModuleNode K) : Prop where
  left : node.leftPressure.valid = true → node.leftPressure.pressureKpa.isFinite = true
  right : node.rightPressure.valid = true → node.rightPressure.pressureKpa.isFinite = true

theorem released_spec {sample : PressureSample K}
    (hfinite : sample.valid = true → sample.pressureKpa.isFinite = true)
    (h : sample.released = true) :
    sample.valid = true ∧ ∃ p, sample.pressureKpa = .finite p ∧ -1 ≤ p := by
  rw [PressureSample.released, Bool.and_eq_true, Bool.not_eq_true', decide_eq_false_iff_not] at h
  obtain ⟨p, hp⟩ := Double.exists_of_isFinite (hfinite h.1)
  refine ⟨h.1, p, hp, ?_⟩
  rw [hp, Double.lt_finite, not_lt] at h
  exact h.2

theorem pumpStopBlocker_triple (hvacuum : config.vacuumConfigured = true)
    (hfinite : FiniteSamples node) :
    Triple Idle (pumpStopBlocker line config node)
      (fun blocker s => Idle s ∧ (blocker = "" → Cleared config node s.trace))
      (fun _ s => Idle s) := by
  have hread : Function.readCoils ≠ .writeSingleCoil := by decide
  unfold pumpStopBlocker
  rw [readOutput_eq hvacuum, readOutput_eq hvacuum]
  have hleft : Triple Idle (readSingleBit line .readCoils (coil config .leftValve))
      (fun bit s => Idle s ∧ WasRead (coil config .leftValve) bit s.trace) (fun _ s => Idle s) :=
    readSingleBit_triple (fun s reply bit hs hbit => ⟨hs.after hread _, wasRead_snoc _ hbit⟩)
      fun s answer text hs => hs.after hread _
  refine hleft.bind fun bit => ?_
  cases bit with
  | true =>
    refine Triple.of_pure fun s hs => ⟨hs.1, fun h => ?_⟩
    exact absurd h (by decide)
  | false =>
    have hright : Triple
        (fun s => Idle s ∧ WasRead (coil config .leftValve) false s.trace)
        (readSingleBit line .readCoils (coil config .rightValve))
        (fun bit s => Idle s ∧ WasRead (coil config .leftValve) false s.trace ∧
          WasRead (coil config .rightValve) bit s.trace) (fun _ s => Idle s) :=
      readSingleBit_triple
        (fun s reply bit hs hbit => ⟨hs.1.after hread _, hs.2.append _, wasRead_snoc _ hbit⟩)
        fun s answer text hs => hs.1.after hread _
    refine hright.bind fun bit => ?_
    cases bit with
    | true =>
      refine Triple.of_pure fun s hs => ⟨hs.1, fun h => ?_⟩
      exact absurd h (by decide)
    | false =>
      refine Triple.ite nofun fun _ => ?_
      refine Triple.ite (fun _ => ?_) fun hreleased => ?_
      · refine Triple.of_pure fun s hs => ⟨hs.1, fun h => ?_⟩
        exact absurd h (by decide)
      · refine Triple.of_pure fun s hs => ⟨hs.1, fun _ => ?_⟩
        simp only [Bool.or_eq_true, Bool.not_eq_true', not_or, Bool.not_eq_false] at hreleased
        exact ⟨hs.2.1, hs.2.2, released_spec hfinite.left hreleased.1,
          released_spec hfinite.right hreleased.2⟩

/-- A write goes to the coil of the command with its value, once the pump may be stopped. -/
def Guarded (config : Config K) (node : IoModuleNode K) (output : Output) (enabled : Bool)
    (trace : Trace) : Prop :=
  ∀ before e after, trace = before ++ e :: after → e.1.function = .writeSingleCoil →
    e.1 = ⟨.writeSingleCoil, coil config output, coilValue enabled⟩ ∧
      (output = .pump → enabled = false → Cleared config node before)

theorem Guarded.snoc {trace : Trace} (h : Guarded config node output enabled trace) {r : Request}
    (answer : Answer) (hr : r.function = .writeSingleCoil →
      r = ⟨.writeSingleCoil, coil config output, coilValue enabled⟩ ∧
        (output = .pump → enabled = false → Cleared config node trace)) :
    Guarded config node output enabled (trace ++ [(r, answer)]) := by
  intro before e after heq hwrite
  rcases after.eq_nil_or_concat with rfl | ⟨after, last, rfl⟩
  · obtain ⟨rfl, hlast⟩ := List.append_inj' heq rfl
    rw [← List.singleton_inj.1 hlast] at hwrite ⊢
    exact hr hwrite
  · rw [List.concat_eq_append, ← List.cons_append, ← List.append_assoc] at heq
    exact h before e after (List.append_inj' heq rfl).1 hwrite

theorem guarded_of_no_write {trace : Trace} (h : ¬WriteSent trace) :
    Guarded config node output enabled trace := by
  intro before e after heq hwrite
  exact absurd ⟨e, by simp [heq], hwrite⟩ h

/-- What a session has done when a command comes to its end, or to an exception. -/
structure Ended (config : Config K) (node : IoModuleNode K) (output : Output) (enabled : Bool)
    (s : Session) : Prop where
  guarded : Guarded config node output enabled s.trace
  written : s.writeMayHaveOccurred = true ↔ WriteSent s.trace

/-- Nothing has been written, and a pump that is to stop may do so. -/
structure Ready (config : Config K) (node : IoModuleNode K) (output : Output) (enabled : Bool)
    (s : Session) : Prop where
  idle : Idle s
  cleared : output = .pump → enabled = false → Cleared config node s.trace

theorem Cleared.append {trace : Trace} (h : Cleared config node trace) (later : Trace) :
    Cleared config node (trace ++ later) :=
  ⟨h.left.append later, h.right.append later, h.leftPressure, h.rightPressure⟩

theorem Ready.ended {s : Session} (h : Ready config node output enabled s) :
    Ended config node output enabled s := by
  refine ⟨guarded_of_no_write h.idle.no_write, ?_⟩
  rw [h.idle.flag]
  exact iff_of_false Bool.false_ne_true h.idle.no_write

theorem writeSent_append {trace : Trace} (later : Trace) (h : WriteSent trace) :
    WriteSent (trace ++ later) := by
  obtain ⟨e, he, hwrite⟩ := h
  exact ⟨e, List.mem_append_left _ he, hwrite⟩

theorem Ended.after_read {s : Session} (h : Ended config node output enabled s) {r : Request}
    (hr : r.function ≠ .writeSingleCoil) (answer : Answer) :
    Ended config node output enabled (s.after r answer) := by
  refine ⟨h.guarded.snoc answer (absurd · hr), h.written.trans ⟨writeSent_append _, ?_⟩⟩
  intro hsent
  by_contra hnone
  exact not_writeSent_append hnone hr hsent

theorem writeCoil_triple :
    Triple (fun s => Guarded config node output enabled s.trace ∧
        (output = .pump → enabled = false → Cleared config node s.trace) ∧
        s.writeMayHaveOccurred = true ∧ s.readback = none)
      (writeCoil line (coil config output) (coilValue enabled))
      (fun _ s => Ended config node output enabled s ∧ s.readback = none)
      (fun _ s => Ended config node output enabled s) := by
  have hended : ∀ s : Session, Guarded config node output enabled s.trace ∧
      (output = .pump → enabled = false → Cleared config node s.trace) ∧
      s.writeMayHaveOccurred = true ∧ s.readback = none → ∀ answer,
      Ended config node output enabled
        (s.after ⟨.writeSingleCoil, coil config output, coilValue enabled⟩ answer) := by
    rintro s ⟨hguarded, hcleared, hflag, -⟩ answer
    refine ⟨hguarded.snoc answer fun _ => ⟨rfl, hcleared⟩, iff_of_true hflag ?_⟩
    exact ⟨_, List.mem_append_right _ (List.mem_singleton_self _), rfl⟩
  have hrequest : Triple (fun s => Guarded config node output enabled s.trace ∧
        (output = .pump → enabled = false → Cleared config node s.trace) ∧
        s.writeMayHaveOccurred = true ∧ s.readback = none)
      (request line .writeSingleCoil (coil config output) (coilValue enabled))
      (fun _ s => Ended config node output enabled s ∧ s.readback = none)
      (fun _ s => Ended config node output enabled s) :=
    request_triple (fun s reply hs => ⟨hended s hs _, hs.2.2.2⟩) fun s e text hs => hended s hs _
  unfold writeCoil
  refine hrequest.bind fun reply => ?_
  refine Triple.ite (fun _ => ?_) fun _ => ?_
  · exact Triple.of_throw fun s hs => hs.1
  · exact Triple.of_pure fun s hs => hs

theorem setCoil_triple :
    Triple (Ready config node output enabled) (setCoil line (coil config output) enabled)
      (fun _ s => Ended config node output enabled s ∧ s.readback = none)
      (fun _ s => Ended config node output enabled s) := by
  have hread : Function.readCoils ≠ .writeSingleCoil := by decide
  have hready : ∀ s, Ready config node output enabled s → ∀ answer,
      Ready config node output enabled (s.after ⟨.readCoils, coil config output, 1⟩ answer) :=
    fun s hs answer => ⟨hs.idle.after hread answer,
      fun hpump hoff => (hs.cleared hpump hoff).append _⟩
  have hbefore : Triple (Ready config node output enabled)
      (readSingleBit line .readCoils (coil config output))
      (fun _ s => Ready config node output enabled s)
      (fun _ s => Ended config node output enabled s) :=
    readSingleBit_triple (fun s reply bit hs _ => hready s hs _)
      fun s answer _ hs => (hready s hs answer).ended
  unfold setCoil
  refine hbefore.bind fun bit => ?_
  refine Triple.ite (fun _ => ?_) fun _ => ?_
  · refine Triple.bind (Triple.of_modify fun s hs => ?_) fun _ => writeCoil_triple
    exact ⟨guarded_of_no_write hs.idle.no_write, hs.cleared, rfl, hs.idle.readback⟩
  · exact Triple.of_pure fun s hs => ⟨hs.ended, hs.idle.readback⟩

theorem readBack_triple :
    Triple (fun s => Ended config node output enabled s ∧ s.readback = none)
      (readBack line (coil config output) enabled)
      (fun _ s => Ended config node output enabled s ∧
        LastRead (coil config output) enabled s.trace ∧ s.readback = some enabled)
      (fun _ s => Ended config node output enabled s) := by
  have hread : Function.readCoils ≠ .writeSingleCoil := by decide
  have hbit : Triple (fun s => Ended config node output enabled s ∧ s.readback = none)
      (readSingleBit line .readCoils (coil config output))
      (fun bit s => Ended config node output enabled s ∧
        ∃ init reply, s.trace = init ++ [(⟨.readCoils, coil config output, 1⟩, .ok reply)] ∧
          singleBit reply = some bit)
      (fun _ s => Ended config node output enabled s) :=
    readSingleBit_triple
      (fun s reply bit hs hbit => ⟨hs.1.after_read hread _, s.trace, reply, rfl, hbit⟩)
      fun s answer _ hs => hs.1.after_read hread _
  unfold readBack
  refine hbit.bind fun bit => ?_
  have hkept : Triple (fun s => Ended config node output enabled s ∧
        ∃ init reply, s.trace = init ++ [(⟨.readCoils, coil config output, 1⟩, .ok reply)] ∧
          singleBit reply = some bit)
      (modify fun s => { s with readback := some bit } : Io PUnit)
      (fun _ s => Ended config node output enabled s ∧ s.readback = some bit ∧
        ∃ init reply, s.trace = init ++ [(⟨.readCoils, coil config output, 1⟩, .ok reply)] ∧
          singleBit reply = some bit)
      (fun _ s => Ended config node output enabled s) :=
    Triple.of_modify fun s hs => ⟨⟨hs.1.guarded, hs.1.written⟩, rfl, hs.2⟩
  refine hkept.bind fun _ => Triple.ite (fun hne => ?_) fun heq => ?_
  · exact Triple.of_throw fun s hs => hs.1
  · refine Triple.of_pure fun s hs => ?_
    rw [not_not] at heq
    exact ⟨hs.1, heq ▸ hs.2.2, heq ▸ hs.2.1⟩

variable (line) in
theorem execute_triple (hvacuum : config.vacuumConfigured = true) (hfinite : FiniteSamples node) :
    Triple Idle (execute line config node output enabled)
      (fun blocker s => Ended config node output enabled s ∧
        (blocker = "" → LastRead (coil config output) enabled s.trace ∧
          s.readback = some enabled) ∧ (blocker ≠ "" → ¬WriteSent s.trace))
      (fun _ s => Ended config node output enabled s) := by
  have hblocker : Triple Idle (stopBlocker line config node output enabled)
      (fun blocker s => Idle s ∧ (blocker = "" → Ready config node output enabled s))
      (fun _ s => Ended config node output enabled s) := by
    unfold stopBlocker
    refine Triple.ite (fun hstop => ?_) fun hstop => ?_
    · refine (pumpStopBlocker_triple hvacuum hfinite).weaken (fun s hs => hs) ?_ ?_
      · exact fun blocker s hs => ⟨hs.1, fun h => ⟨hs.1, fun _ _ => hs.2 h⟩⟩
      · refine fun _ s hs => ⟨guarded_of_no_write hs.no_write, ?_⟩
        rw [hs.flag]
        exact iff_of_false Bool.false_ne_true hs.no_write
    · refine Triple.of_pure fun s hs => ⟨hs, fun _ => ⟨hs, fun hpump hoff => ?_⟩⟩
      exact absurd ⟨hpump, hoff⟩ hstop
  unfold execute
  rw [readAddress_eq hvacuum]
  refine hblocker.bind fun blocker => ?_
  refine Triple.ite (fun hne => ?_) fun heq => ?_
  · refine Triple.of_pure fun s hs => ⟨?_, (absurd · hne), fun _ => hs.1.no_write⟩
    refine ⟨guarded_of_no_write hs.1.no_write, ?_⟩
    rw [hs.1.flag]
    exact iff_of_false Bool.false_ne_true hs.1.no_write
  · rw [not_not] at heq
    have hset : Triple (fun s => Idle s ∧ (blocker = "" → Ready config node output enabled s))
        (setCoil line (coil config output) enabled)
        (fun _ s => Ended config node output enabled s ∧ s.readback = none)
        (fun _ s => Ended config node output enabled s) :=
      setCoil_triple.weaken (fun s hs => hs.2 heq) (fun _ s hs => hs) fun _ s hs => hs
    refine hset.bind fun _ => readBack_triple.bind fun _ => Triple.of_pure fun s hs => ?_
    exact ⟨hs.1, fun _ => hs.2, (absurd rfl ·)⟩

end Execute

end RobotDriver.Plc
