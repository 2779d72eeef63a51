import RobotDriver.Plc.CoilCommands

/-!
# Writes that stay unconfirmed

A command loses its coil where the module answers the read before the write with the other state
and then fails the write, its echo or the readback. This says so by the answers of the module alone.
-/

namespace RobotDriver.Plc

section Answers

variable (line : Line)

/-- Asked now, the module answers with this bit. -/
def ReadsBit (trace : Trace) (address : UInt16) (bit : Bool) : Prop :=
  ∃ reply, line trace ⟨.readCoils, address, 1⟩ = .ok reply ∧ singleBit reply = some bit

/-- Asked now to write, the module answers with the echo. -/
def Echoes (trace : Trace) (address value : UInt16) : Prop :=
  ∃ reply, line trace ⟨.writeSingleCoil, address, value⟩ = .ok reply ∧ reply.length = 5 ∧
    Modbus.readUint16Be reply 1 = address ∧ Modbus.readUint16Be reply 3 = value

def ask (trace : Trace) (r : Request) : Trace := trace ++ [(r, line trace r)]

/-- From `trace` on: the coil reads as the other state, and the write and the readback fail. -/
def Loses (trace : Trace) (address : UInt16) (enabled : Bool) : Prop :=
  ReadsBit line trace address (!enabled) ∧
    ¬(Echoes line (ask line trace ⟨.readCoils, address, 1⟩) address (coilValue enabled) ∧
      ReadsBit line (ask line (ask line trace ⟨.readCoils, address, 1⟩)
        ⟨.writeSingleCoil, address, coilValue enabled⟩) address enabled)

variable {line} {address : UInt16} {enabled : Bool}

theorem ReadsBit.unique {trace : Trace} {bit other : Bool} (h : ReadsBit line trace address bit)
    (h' : ReadsBit line trace address other) : bit = other := by
  obtain ⟨reply, hreply, hbit⟩ := h
  obtain ⟨reply', hreply', hbit'⟩ := h'
  rw [hreply] at hreply'
  rw [← Except.ok.inj hreply', hbit] at hbit'
  exact Option.some.inj hbit'

/-- The session after a request that the module has answered. -/
def Session.asked (line : Line) (s : Session) (r : Request) : Session :=
  s.after r (line s.trace r)

theorem request_error {function : Function} {value : UInt16} {s : Session} {e : String}
    (h : line s.trace ⟨function, address, value⟩ = .error e) :
    ∃ text, request line function address value s =
      (.error text, s.asked line ⟨function, address, value⟩) := by
  simp only [request, Session.asked, h]
  exact ⟨_, rfl⟩

theorem request_ok {function : Function} {value : UInt16} {s : Session} {reply : List UInt8}
    (h : line s.trace ⟨function, address, value⟩ = .ok reply) :
    request line function address value s =
      (.ok reply, s.asked line ⟨function, address, value⟩) := by
  simp only [request, Session.asked, h]
  rfl

variable (line address) in
theorem readSingleBit_run (s : Session) :
    (∃ bit, ReadsBit line s.trace address bit ∧
      readSingleBit line .readCoils address s =
        (.ok bit, s.asked line ⟨.readCoils, address, 1⟩)) ∨
    (∀ bit, ¬ReadsBit line s.trace address bit) ∧ ∃ e,
      readSingleBit line .readCoils address s =
        (.error e, s.asked line ⟨.readCoils, address, 1⟩) := by
  unfold readSingleBit
  cases hanswer : line s.trace ⟨.readCoils, address, 1⟩ with
  | error e =>
    obtain ⟨text, hrun⟩ := request_error hanswer
    refine .inr ⟨?_, text, Triple.run_bind_error hrun⟩
    rintro bit ⟨reply, hreply, -⟩
    rw [hanswer] at hreply
    cases hreply
  | ok reply =>
    rw [Triple.run_bind_ok (request_ok hanswer)]
    cases hbit : singleBit reply with
    | some bit => exact .inl ⟨bit, ⟨reply, hanswer, hbit⟩, rfl⟩
    | none =>
      refine .inr ⟨?_, _, rfl⟩
      rintro bit ⟨other, hother, hread⟩
      rw [hanswer] at hother
      rw [← Except.ok.inj hother, hbit] at hread
      cases hread

variable (line address) in
theorem writeCoil_run (s : Session) (value : UInt16) :
    Echoes line s.trace address value ∧ writeCoil line address value s =
      (.ok ⟨⟩, s.asked line ⟨.writeSingleCoil, address, value⟩) ∨
    ¬Echoes line s.trace address value ∧ ∃ e, writeCoil line address value s =
      (.error e, s.asked line ⟨.writeSingleCoil, address, value⟩) := by
  unfold writeCoil
  cases hanswer : line s.trace ⟨.writeSingleCoil, address, value⟩ with
  | error e =>
    obtain ⟨text, hrun⟩ := request_error hanswer
    refine .inr ⟨?_, text, Triple.run_bind_error hrun⟩
    rintro ⟨reply, hreply, -⟩
    rw [hanswer] at hreply
    cases hreply
  | ok reply =>
    rw [Triple.run_bind_ok (request_ok hanswer)]
    by_cases hecho : reply.length ≠ 5 ∨ Modbus.readUint16Be reply 1 ≠ address ∨
        Modbus.readUint16Be reply 3 ≠ value
    · rw [if_pos hecho]
      refine .inr ⟨?_, _, rfl⟩
      rintro ⟨other, hother, hlength, haddress, hvalue⟩
      rw [hanswer] at hother
      rw [← Except.ok.inj hother] at hlength haddress hvalue
      exact hecho.elim (· hlength) (·.elim (· haddress) (· hvalue))
    · rw [if_neg hecho]
      simp only [not_or, not_not] at hecho
      exact .inl ⟨⟨reply, hanswer, hecho⟩, rfl⟩

theorem readBack_error_iff (s : Session) :
    (∃ e t, readBack line address enabled s = (.error e, t) ∧ t.writeMayHaveOccurred = true) ↔
      s.writeMayHaveOccurred = true ∧ ¬ReadsBit line s.trace address enabled := by
  unfold readBack
  rcases readSingleBit_run line address s with
    ⟨bit, hbit, hrun⟩ | ⟨hnone, e, hrun⟩
  · rw [Triple.run_bind_ok hrun, Triple.run_bind_modify]
    by_cases hne : bit = enabled
    · rw [if_neg (not_not.2 hne)]
      refine iff_of_false ?_ fun h => h.2 (hne ▸ hbit)
      rintro ⟨e, t, hthrow, -⟩
      cases hthrow
    · rw [if_pos hne]
      constructor
      · rintro ⟨e, t, hthrow, hwritten⟩
        cases hthrow
        exact ⟨hwritten, fun h => hne (hbit.unique h)⟩
      · exact fun h => ⟨_, _, rfl, h.1⟩
  · rw [Triple.run_bind_error hrun]
    refine ⟨?_, fun h => ⟨e, _, rfl, h.1⟩⟩
    rintro ⟨e', t, hthrow, hwritten⟩
    cases hthrow
    exact ⟨hwritten, hnone enabled⟩

theorem setCoil_readBack_error_iff {s : Session} (hs : s.writeMayHaveOccurred = false) :
    (∃ e t, (do setCoil line address enabled; readBack line address enabled; return "" : Io String)
        s = (.error e, t) ∧ t.writeMayHaveOccurred = true) ↔
      Loses line s.trace address enabled := by
  rcases readSingleBit_run line address s with
    ⟨bit, hbit, hrun⟩ | ⟨hnone, e, hrun⟩
  · by_cases heq : bit = enabled
    · -- nothing is written
      subst heq
      have hset : setCoil line address bit s = (.ok ⟨⟩, s.asked line ⟨.readCoils, address, 1⟩) := by
        unfold setCoil
        rw [Triple.run_bind_ok hrun, if_neg (not_not.2 rfl)]
        rfl
      rw [Triple.run_bind_ok hset]
      simp only [Triple.run_bind_pure_error_iff, readBack_error_iff]
      refine iff_of_false ?_ ?_
      · exact fun h => ne_true_of_eq_false hs h.1
      · exact fun h => absurd (hbit.unique h.1) (Bool.not_ne_self bit).symm
    · have hother : bit = !enabled := Bool.eq_not.2 heq
      subst hother
      have hwrite : setCoil line address enabled s = writeCoil line address (coilValue enabled)
          { s.asked line ⟨.readCoils, address, 1⟩ with writeMayHaveOccurred := true } := by
        unfold setCoil
        rw [Triple.run_bind_ok hrun, if_pos heq, Triple.run_bind_modify]
      rcases writeCoil_run line address
        { s.asked line ⟨.readCoils, address, 1⟩ with writeMayHaveOccurred := true }
        (coilValue enabled) with ⟨hecho, hdone⟩ | ⟨hecho, e, hfailed⟩
      · rw [Triple.run_bind_ok (hwrite.trans hdone)]
        simp only [Triple.run_bind_pure_error_iff, readBack_error_iff]
        exact ⟨fun h => ⟨hbit, fun hconfirmed => h.2 hconfirmed.2⟩,
          fun h => ⟨rfl, fun hread => h.2 ⟨hecho, hread⟩⟩⟩
      · rw [Triple.run_bind_error (hwrite.trans hfailed)]
        exact iff_of_true ⟨e, _, rfl, rfl⟩ ⟨hbit, fun h => hecho h.1⟩
  · have hset : setCoil line address enabled s =
        (.error e, s.asked line ⟨.readCoils, address, 1⟩) := Triple.run_bind_error hrun
    rw [Triple.run_bind_error hset]
    refine iff_of_false ?_ fun h => hnone _ h.1
    rintro ⟨e', t, hthrow, hwritten⟩
    cases hthrow
    exact ne_true_of_eq_false hs hwritten

end Answers

variable {K : Type} [Field K] [LinearOrder K]

/-- A command that is not refused loses its coil. -/
def UnconfirmedWrite (config : Config K) (node : IoModuleNode K) (output : Output) (enabled : Bool)
    (line : Line) : Prop :=
  config.vacuumConfigured = true ∧ ∃ s,
    stopBlocker line config node output enabled {} = (.ok "", s) ∧
      Loses line s.trace (coil config output) enabled

variable {line : Line} {config : Config K} {node : IoModuleNode K} {output : Output}
  {enabled : Bool}

variable (line output enabled) in
theorem stopBlocker_idle (hvacuum : config.vacuumConfigured = true) (hfinite : FiniteSamples node) :
    Triple Idle (stopBlocker line config node output enabled) (fun _ s => Idle s)
      (fun _ s => Idle s) := by
  unfold stopBlocker
  refine Triple.ite (fun _ => ?_) fun _ => Triple.of_pure fun s hs => hs
  exact (pumpStopBlocker_triple hvacuum hfinite).weaken (fun s hs => hs) (fun _ s hs => hs.1)
    fun _ s hs => hs

variable (line output enabled) in
theorem execute_error_iff (hvacuum : config.vacuumConfigured = true)
    (hfinite : FiniteSamples node) :
    (∃ e t, execute line config node output enabled {} = (.error e, t) ∧
        t.writeMayHaveOccurred = true) ↔ UnconfirmedWrite config node output enabled line := by
  have hidle : Idle {} := ⟨by simp [WriteSent], rfl, rfl⟩
  obtain ⟨hok, herror⟩ := stopBlocker_idle line output enabled hvacuum hfinite {} hidle
  have heq : execute line config node output enabled =
      stopBlocker line config node output enabled >>= fun blocker =>
        if blocker ≠ "" then pure blocker
        else do
          setCoil line (coil config output) enabled
          readBack line (coil config output) enabled
          return "" := by
    rw [execute, readAddress_eq hvacuum]
    rfl
  rw [heq]
  rcases hrun : stopBlocker line config node output enabled {} with ⟨e | blocker, s⟩
  · rw [Triple.run_bind_error hrun]
    refine iff_of_false ?_ ?_
    · rintro ⟨e', t, hthrow, hwritten⟩
      cases hthrow
      exact ne_true_of_eq_false (herror e s hrun).flag hwritten
    · rintro ⟨-, t, hpassed, -⟩
      rw [hrun] at hpassed
      cases hpassed
  · rw [Triple.run_bind_ok hrun]
    by_cases hne : blocker ≠ ""
    · rw [if_pos hne]
      refine iff_of_false ?_ ?_
      · rintro ⟨e', t, hthrow, -⟩
        cases hthrow
      · rintro ⟨-, t, hpassed, -⟩
        rw [hrun] at hpassed
        cases hpassed
        exact hne rfl
    · rw [if_neg hne, setCoil_readBack_error_iff (hok blocker s hrun).flag]
      rw [not_not] at hne
      subst hne
      constructor
      · exact fun h => ⟨hvacuum, s, hrun, h⟩
      · rintro ⟨-, t, hpassed, h⟩
        rw [hrun] at hpassed
        cases hpassed
        exact h

end RobotDriver.Plc
