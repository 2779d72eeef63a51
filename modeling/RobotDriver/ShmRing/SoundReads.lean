import RobotDriver.Lib.Numerals
import RobotDriver.ShmRing.ShmRing

/-!
# Sound reads

Until the cycle number wraps, a slot outside the current cycle holds the words committed for the
number it shows, and a slot that has lost a number never shows it again. Both loads of a reader
therefore bracket an unchanged slot.
-/

namespace RobotDriver.ShmRing

open LabelledRun

namespace WriterPc

/-- The slot of the current cycle is marked busy. -/
def writing : WriterPc → Bool
  | filling | timeStored | periodStored => true
  | _ => false

/-- The cycles counted as committed of which the head has not been told. -/
def pending : WriterPc → ℕ
  | seqStored => 1
  | _ => 0

end WriterPc

namespace RingState

variable {W : Type*} {fields : ℕ} {slotCount : ℕ} {s : RingState W fields}

/-- The words of the cycle have been committed. -/
def Holds (s : RingState W fields) (cycle : ℕ) (payload : Payload W fields) : Prop :=
  0 < cycle ∧ s.committed[cycle - 1]? = some payload

theorem Holds.append {cycle : ℕ} {payload : Payload W fields} (h : s.Holds cycle payload)
    {s' : RingState W fields} (tail : List (Payload W fields))
    (hcommitted : s'.committed = s.committed ++ tail) : s'.Holds cycle payload := by
  refine ⟨h.1, ?_⟩
  rw [hcommitted, List.getElem?_append_left (List.getElem?_eq_some_iff.1 h.2).1, h.2]

structure WriterInv (slotCount : ℕ) (s : RingState W fields) : Prop where
  next : s.next = (s.committed.length + 1 - s.writer.pending) % numberBound
  head : s.head = s.committed.length - s.writer.pending
  pending : s.writer.pending ≤ s.committed.length
  bounded : s.committed.length ≤ busy
  begun : s.writer.writing = true → s.committed.length < busy
  marked : s.writer.writing = true →
    s.seq (s.current slotCount) = busy ∧ s.slots (s.current slotCount) = s.payload
  published : ∀ slot, ¬(s.writer.writing = true ∧ slot = s.current slotCount) →
    s.seq slot ≠ 0 → s.Holds (s.seq slot) (s.slots slot)

/-- What the reader has copied so far, as long as its slot still shows the expected number. -/
structure CopyInv (slotCount : ℕ) (s : RingState W fields) (expected : ℕ)
    (copied : Word fields → Option W) : Prop where
  positive : 0 < expected
  reached : expected ≤ s.committed.length
  words : s.seq (expected % slotCount) = expected →
    ∀ word value, copied word = some value → s.slots (expected % slotCount) word = value

structure ReaderInv (slotCount : ℕ) (s : RingState W fields) : Prop where
  loaded : ∀ head, s.reader = .headLoaded head → head ≤ s.committed.length
  copying : ∀ expected first copied, s.reader = .copying expected first copied →
    s.CopyInv slotCount expected copied
  accepted : ∀ cycle payload, (cycle, payload) ∈ s.accepted → s.Holds cycle payload

theorem writerInv_created (zero : W) : (created zero : RingState W fields).WriterInv slotCount where
  next := rfl
  head := rfl
  pending := le_rfl
  bounded := Nat.zero_le _
  begun := nofun
  marked := nofun
  published _ _ hslot := absurd rfl hslot

theorem readerInv_created (zero : W) : (created zero : RingState W fields).ReaderInv slotCount where
  loaded := nofun
  copying := nofun
  accepted := by simp [created]

namespace WriterInv

variable (h : s.WriterInv slotCount)
include h

theorem next_of_writing (hwriting : s.writer.writing = true) :
    s.next = s.committed.length + 1 := by
  have hbegun := h.begun hwriting
  have hpending : s.writer.pending = 0 := by
    cases hcase : s.writer <;> simp_all [WriterPc.writing, WriterPc.pending]
  rw [h.next, hpending, Nat.sub_zero]
  exact Nat.mod_eq_of_lt (by simp only [busy, numberBound] at hbegun ⊢; omega)

theorem seq_current_ne (hwriting : s.writer.writing = true) {cycle : ℕ}
    (hcycle : cycle ≤ s.committed.length) : s.seq (s.current slotCount) ≠ cycle := by
  have hbegun := h.begun hwriting
  rw [(h.marked hwriting).1]
  omega

theorem storeWord (hwriting : s.writer.writing = true) (word : Word fields) (value : W)
    {writer : WriterPc} (hwriter : writer.writing = true) (hpending : writer.pending = 0) :
    ({ s.storeWord slotCount word value with writer } : RingState W fields).WriterInv
      slotCount where
  next := by
    have hnext := h.next_of_writing hwriting
    have hbegun := h.begun hwriting
    change s.next = (s.committed.length + 1 - writer.pending) % numberBound
    rw [hpending, Nat.sub_zero, hnext]
    exact (Nat.mod_eq_of_lt (by simp only [busy, numberBound] at hbegun ⊢; omega)).symm
  head := by
    have hpending' : s.writer.pending = 0 := by
      cases hcase : s.writer <;> simp_all [WriterPc.writing, WriterPc.pending]
    change s.head = s.committed.length - writer.pending
    rw [h.head, hpending, hpending']
  pending := by
    change writer.pending ≤ s.committed.length
    omega
  bounded := h.bounded
  begun _ := h.begun hwriting
  marked _ := by
    refine ⟨(h.marked hwriting).1, ?_⟩
    change Function.update s.slots (s.current slotCount) _ (s.current slotCount) =
      Function.update s.payload word value
    rw [Function.update_self, (h.marked hwriting).2]
    rfl
  published slot hslot hseq := by
    have hother : slot ≠ s.current slotCount := fun heq => hslot ⟨hwriter, heq⟩
    change s.seq slot ≠ 0 at hseq
    change s.Holds (s.seq slot) (Function.update s.slots (s.current slotCount) _ slot)
    rw [Function.update_of_ne hother]
    exact h.published slot (fun hboth => hother hboth.2) hseq

theorem beginCycle (hidle : s.writer = .idle) (hnext : s.next ≠ 0) :
    (s.beginCycle slotCount).WriterInv slotCount where
  next := by
    have hidleNext := h.next
    rw [hidle] at hidleNext
    exact hidleNext
  head := by
    have hhead := h.head
    rw [hidle] at hhead
    exact hhead
  pending := Nat.zero_le _
  bounded := h.bounded
  begun _ := by
    refine lt_of_le_of_ne h.bounded fun heq => hnext ?_
    change s.committed.length = busy at heq
    rw [h.next, hidle, heq]
    rfl
  marked _ := ⟨Function.update_self .., rfl⟩
  published slot hslot hseq := by
    have hother : slot ≠ s.current slotCount := fun heq => hslot ⟨rfl, heq⟩
    change Function.update s.seq (s.current slotCount) busy slot ≠ 0 at hseq
    change s.Holds (Function.update s.seq (s.current slotCount) busy slot) (s.slots slot)
    rw [Function.update_of_ne hother] at hseq ⊢
    exact h.published slot (by simp [hidle, WriterPc.writing]) hseq

theorem storeSeq (hstored : s.writer = .periodStored) :
    (s.storeSeq slotCount).WriterInv slotCount := by
  have hwriting : s.writer.writing = true := by rw [hstored]; rfl
  have hnext := h.next_of_writing hwriting
  have hbegun := h.begun hwriting
  have hlength : (s.storeSeq slotCount).committed.length = s.committed.length + 1 := by
    simp [RingState.storeSeq]
  refine ⟨?_, ?_, ?_, ?_, nofun, nofun, fun slot _ hseq => ?_⟩
  · rw [hlength]
    change s.next = (s.committed.length + 1 + 1 - 1) % numberBound
    rw [hnext]
    exact (Nat.mod_eq_of_lt (by simp only [busy, numberBound] at hbegun ⊢; omega)).symm
  · rw [hlength]
    have hhead := h.head
    rw [hstored] at hhead
    exact hhead
  · rw [hlength]
    exact Nat.le_add_left 1 _
  · rw [hlength]
    exact hbegun
  · change Function.update s.seq (s.current slotCount) s.next slot ≠ 0 at hseq
    change (s.storeSeq slotCount).Holds (Function.update s.seq (s.current slotCount) s.next slot)
      (s.slots slot)
    by_cases hslot : slot = s.current slotCount
    · subst hslot
      rw [Function.update_self, (h.marked hwriting).2, hnext]
      exact ⟨Nat.succ_pos _, by simp [RingState.storeSeq]⟩
    · rw [Function.update_of_ne hslot] at hseq ⊢
      exact (h.published slot (fun hboth => hslot hboth.2) hseq).append [s.payload] rfl

theorem storeHead (hstored : s.writer = .seqStored) : s.storeHead.WriterInv slotCount := by
  have hpending := h.pending
  have hnext := h.next
  rw [hstored] at hpending hnext
  change 1 ≤ s.committed.length at hpending
  change s.next = (s.committed.length + 1 - 1) % numberBound at hnext
  have hsame : s.next = s.committed.length := by
    have hbounded := h.bounded
    rw [hnext, Nat.add_sub_cancel]
    exact Nat.mod_eq_of_lt (by simp only [busy, numberBound] at hbounded ⊢; omega)
  refine ⟨?_, hsame, Nat.zero_le _, h.bounded, nofun, nofun, fun slot _ hseq => ?_⟩
  · change (s.next + 1) % numberBound = (s.committed.length + 1) % numberBound
    rw [hsame]
  · exact h.published slot (by simp [hstored, WriterPc.writing]) hseq

end WriterInv

/-- The event does not begin a cycle once the cycle number has wrapped. -/
def BeforeWrap (s : RingState W fields) (event : Event W fields) : Prop :=
  event = .beginCycle → s.next ≠ 0

instance : ∀ event : Event W fields, Decidable (s.BeforeWrap event)
  | .beginCycle => decidable_of_iff (s.next ≠ 0) ⟨fun h _ => h, fun h => h rfl⟩
  | .setField .. | .storeTime _ | .storePeriod _ | .storeSeq | .storeHead | .loadHead
  | .loadSeq _ | .copyWord _ | .reloadSeq => .isTrue nofun

/-- What one step of the writer does. -/
inductive Writes (slotCount : ℕ) (s : RingState W fields) : RingState W fields → Prop
  | skip : Writes slotCount s s
  | begun (idle : s.writer = .idle) (next : s.next ≠ 0) : Writes slotCount s (s.beginCycle slotCount)
  | word (writing : s.writer.writing = true) (word : Word fields) (value : W) (writer : WriterPc)
      (goesOn : writer.writing = true) (pending : writer.pending = 0) :
      Writes slotCount s { s.storeWord slotCount word value with writer }
  | seq (stored : s.writer = .periodStored) : Writes slotCount s (s.storeSeq slotCount)
  | head (stored : s.writer = .seqStored) : Writes slotCount s s.storeHead

variable (slotCount) in
theorem writes_stepWriter {event : Event W fields} (hwrap : s.BeforeWrap event) :
    s.Writes slotCount (s.stepWriter slotCount event) := by
  cases event with
  | beginCycle =>
    dsimp only [RingState.stepWriter]
    split
    · exact .begun ‹_› (hwrap rfl)
    · exact .skip
  | setField index value =>
    dsimp only [RingState.stepWriter]
    split
    · rename_i hfilling
      have hsame : s.storeWord slotCount (.value index) value =
          { s.storeWord slotCount (.value index) value with writer := .filling } := by
        rw [← hfilling]
        rfl
      rw [hsame]
      exact .word (by rw [hfilling]; rfl) _ value _ rfl rfl
    · exact .skip
  | storeTime value =>
    dsimp only [RingState.stepWriter]
    split
    · exact .word (by rw [‹s.writer = .filling›]; rfl) _ value _ rfl rfl
    · exact .skip
  | storePeriod value =>
    dsimp only [RingState.stepWriter]
    split
    · exact .word (by rw [‹s.writer = .timeStored›]; rfl) _ value _ rfl rfl
    · exact .skip
  | storeSeq =>
    dsimp only [RingState.stepWriter]
    split
    · exact .seq ‹_›
    · exact .skip
  | storeHead =>
    dsimp only [RingState.stepWriter]
    split
    · exact .head ‹_›
    · exact .skip
  | _ => exact .skip

theorem WriterInv.writes (h : s.WriterInv slotCount) {s' : RingState W fields}
    (hstep : s.Writes slotCount s') : s'.WriterInv slotCount := by
  cases hstep with
  | skip => exact h
  | begun idle next => exact h.beginCycle idle next
  | word writing word value writer goesOn pending =>
    exact h.storeWord writing word value goesOn pending
  | seq stored => exact h.storeSeq stored
  | head stored => exact h.storeHead stored

/-- What a writer step leaves of the state a reader depends on: a slot keeps its words while it
shows a number that has been committed, and a lost number is not shown again. -/
structure Extends (slotCount : ℕ) (s s' : RingState W fields) : Prop where
  reader : s'.reader = s.reader
  accepted : s'.accepted = s.accepted
  committed : ∃ tail, s'.committed = s.committed ++ tail
  kept : ∀ cycle, 0 < cycle → cycle ≤ s.committed.length →
    s'.seq (cycle % slotCount) = cycle →
      s.seq (cycle % slotCount) = cycle ∧
        s'.slots (cycle % slotCount) = s.slots (cycle % slotCount)

theorem WriterInv.extends_of_writes (h : s.WriterInv slotCount) {s' : RingState W fields}
    (hstep : s.Writes slotCount s') : s.Extends slotCount s' := by
  cases hstep with
  | skip | head => exact ⟨rfl, rfl, ⟨[], (List.append_nil _).symm⟩, fun _ _ _ hseq => ⟨hseq, rfl⟩⟩
  | begun idle next =>
    have hbegun : s.committed.length < busy := (h.beginCycle idle next).begun rfl
    refine ⟨rfl, rfl, ⟨[], (List.append_nil _).symm⟩, fun cycle _ hreached hseq => ?_⟩
    change Function.update s.seq (s.current slotCount) busy (cycle % slotCount) = cycle at hseq
    have hother : cycle % slotCount ≠ s.current slotCount := by
      intro heq
      rw [heq, Function.update_self] at hseq
      omega
    rw [Function.update_of_ne hother] at hseq
    exact ⟨hseq, rfl⟩
  | word writing =>
    refine ⟨rfl, rfl, ⟨[], (List.append_nil _).symm⟩, fun cycle _ hreached hseq => ⟨hseq, ?_⟩⟩
    change s.seq (cycle % slotCount) = cycle at hseq
    have hother : cycle % slotCount ≠ s.current slotCount := by
      intro heq
      rw [heq] at hseq
      exact h.seq_current_ne writing hreached hseq
    exact Function.update_of_ne hother ..
  | seq stored =>
    have hnext := h.next_of_writing (by rw [stored]; rfl)
    refine ⟨rfl, rfl, ⟨[s.payload], rfl⟩, fun cycle _ hreached hseq => ?_⟩
    change Function.update s.seq (s.current slotCount) s.next (cycle % slotCount) = cycle at hseq
    have hother : cycle % slotCount ≠ s.current slotCount := by
      intro heq
      rw [heq, Function.update_self] at hseq
      omega
    rw [Function.update_of_ne hother] at hseq
    exact ⟨hseq, rfl⟩

namespace ReaderInv

theorem of_extends (h : s.ReaderInv slotCount) {s' : RingState W fields}
    (hextends : s.Extends slotCount s') : s'.ReaderInv slotCount := by
  obtain ⟨tail, htail⟩ := hextends.committed
  have hlength : s.committed.length ≤ s'.committed.length := by
    rw [htail, List.length_append]
    omega
  refine ⟨fun head hhead => ?_, fun expected first copied hcopying => ?_,
    fun cycle payload hmem => ?_⟩
  · rw [hextends.reader] at hhead
    exact (h.loaded head hhead).trans hlength
  · rw [hextends.reader] at hcopying
    have hcopy := h.copying expected first copied hcopying
    refine ⟨hcopy.positive, hcopy.reached.trans hlength, fun hseq word value hcopied => ?_⟩
    obtain ⟨hseq', hslots⟩ := hextends.kept expected hcopy.positive hcopy.reached hseq
    rw [hslots]
    exact hcopy.words hseq' word value hcopied
  · rw [hextends.accepted] at hmem
    exact (h.accepted cycle payload hmem).append tail htail

theorem stepReader (h : s.ReaderInv slotCount) (hwriter : s.WriterInv slotCount)
    (event : Event W fields) : (s.stepReader slotCount event).ReaderInv slotCount := by
  cases event with
  | loadHead =>
    refine ⟨fun head hhead => ?_, nofun, h.accepted⟩
    cases hhead
    change s.head ≤ s.committed.length
    rw [hwriter.head]
    exact Nat.sub_le _ _
  | loadSeq expected =>
    unfold RingState.stepReader
    cases hreader : s.reader with
    | headLoaded head =>
      dsimp only
      split
      · rename_i hexpected
        refine ⟨nofun, fun expected' first copied hcopying => ?_, h.accepted⟩
        cases hcopying
        exact ⟨hexpected.1, hexpected.2.trans (h.loaded head hreader),
          fun _ _ _ hnone => nomatch hnone⟩
      · exact h
    | _ => exact h
  | copyWord word =>
    unfold RingState.stepReader
    cases hreader : s.reader with
    | copying expected first copied =>
      refine ⟨nofun, fun expected' first' copied' hcopying => ?_, h.accepted⟩
      cases hcopying
      have hcopy := h.copying expected first copied hreader
      refine ⟨hcopy.positive, hcopy.reached, fun hseq word' value hcopied => ?_⟩
      by_cases hword : word' = word
      · subst hword
        rw [Function.update_self] at hcopied
        exact Option.some.inj hcopied
      · rw [Function.update_of_ne hword] at hcopied
        exact hcopy.words hseq word' value hcopied
    | _ => exact h
  | reloadSeq =>
    unfold RingState.stepReader
    cases hreader : s.reader with
    | copying expected first copied =>
      have hcopy := h.copying expected first copied hreader
      refine ⟨nofun, nofun, fun cycle payload hmem => ?_⟩
      simp only [finishRead] at hmem
      split at hmem
      · rename_i haccept
        rw [List.mem_append, List.mem_singleton, Prod.mk.injEq] at hmem
        rcases hmem with hmem | ⟨rfl, rfl⟩
        · exact h.accepted cycle payload hmem
        · have hseq : s.seq (cycle % slotCount) = cycle := haccept.2.2
          have hother : ¬(s.writer.writing = true ∧ cycle % slotCount = s.current slotCount) := by
            rintro ⟨hwriting, heq⟩
            rw [heq] at hseq
            exact hwriter.seq_current_ne hwriting hcopy.reached hseq
          have hholds := hwriter.published _ hother (by rw [hseq]; exact hcopy.positive.ne')
          rw [hseq] at hholds
          have hsame : (fun word => (copied word).get (haccept.1 word)) =
              s.slots (cycle % slotCount) :=
            funext fun word => (hcopy.words hseq word _ (Option.some_get _).symm).symm
          rw [hsame]
          exact hholds
      · exact h.accepted cycle payload hmem
    | _ => exact h
  | _ => exact h

end ReaderInv

theorem WriterInv.stepReader (hwriter : s.WriterInv slotCount) (event : Event W fields) :
    (s.stepReader slotCount event).WriterInv slotCount := by
  have hsame : ∃ reader accepted, s.stepReader slotCount event = { s with reader, accepted } := by
    cases event with
    | loadHead => exact ⟨_, _, rfl⟩
    | loadSeq expected =>
      unfold RingState.stepReader
      cases s.reader with
      | headLoaded head =>
        dsimp only
        split <;> exact ⟨_, _, rfl⟩
      | _ => exact ⟨_, _, rfl⟩
    | copyWord word | reloadSeq =>
      unfold RingState.stepReader
      cases s.reader <;> exact ⟨_, _, rfl⟩
    | _ => exact ⟨_, _, rfl⟩
  obtain ⟨reader, accepted, hstep⟩ := hsame
  rw [hstep]
  exact ⟨hwriter.next, hwriter.head, hwriter.pending, hwriter.bounded, hwriter.begun,
    hwriter.marked, hwriter.published⟩

def Inv (slotCount : ℕ) (s : RingState W fields) : Prop :=
  s.WriterInv slotCount ∧ s.ReaderInv slotCount

theorem Inv.step (h : s.Inv slotCount) {event : Event W fields} (hwrap : s.BeforeWrap event) :
    (s.step slotCount event).Inv slotCount := by
  have hwrites := writes_stepWriter slotCount hwrap
  have hwriter := h.1.writes hwrites
  have hreader := h.2.of_extends (h.1.extends_of_writes hwrites)
  exact ⟨hwriter.stepReader event, hreader.stepReader hwriter event⟩

/-- Until the cycle number wraps, every accepted copy is the payload committed for its cycle, and
the head names no cycle that has not been committed. -/
theorem reads_are_sound (slotCount : ℕ) (zero : W) (events : List (Event W fields))
    (h : Along (step slotCount) BeforeWrap (created zero) events) :
    (∀ cycle payload, (cycle, payload) ∈ (run (step slotCount) (created zero) events).accepted →
        (run (step slotCount) (created zero) events).Holds cycle payload) ∧
      ((run (step slotCount) (created zero) events).head = 0 ∨
        ∃ payload, (run (step slotCount) (created zero) events).Holds
          (run (step slotCount) (created zero) events).head payload) := by
  have hinv : (run (step slotCount) (created zero) events).Inv slotCount :=
    invariant_run (P := Inv slotCount) (fun s event hs hwrap => hs.step hwrap)
      ⟨writerInv_created zero, readerInv_created zero⟩ h
  refine ⟨hinv.2.accepted, ?_⟩
  generalize run (step slotCount) (created zero) events = s at hinv
  rcases Nat.eq_zero_or_pos s.head with hzero | hpos
  · exact .inl hzero
  · have hhead := hinv.1.head
    have hlt : s.head - 1 < s.committed.length := by omega
    exact .inr ⟨s.committed[s.head - 1], hpos, List.getElem?_eq_getElem hlt⟩

/-- A cycle that writes one value to all words. -/
def cycleOf (value : ℕ) : List (Event ℕ 1) :=
  [.beginCycle, .setField 0 value, .storeTime value, .storePeriod value, .storeSeq, .storeHead]

def reading (cycle : ℕ) : List (Event ℕ 1) :=
  [.loadHead, .loadSeq cycle, .copyWord .timeNs, .copyWord .periodNs, .copyWord (.value 0),
    .reloadSeq]

/-- The third of three cycles is written to the slot of the first while that is being copied. -/
def reusedSlot : List (Event ℕ 1) :=
  cycleOf 10 ++ (reading 1).take 3 ++ cycleOf 20 ++ cycleOf 30 ++ (reading 1).drop 3 ++ reading 3

theorem reused_slot_is_read :
    (run (step 2) (created 0) reusedSlot).accepted.map Prod.fst = [3] ∧
      (run (step 2) (created 0) reusedSlot).Holds 3 fun _ => 30 := by
  have hread : (3, fun _ => 30) ∈ (run (step 2) (created 0) reusedSlot).accepted := by
    decide +kernel
  exact ⟨by decide +kernel, (reads_are_sound 2 0 reusedSlot (by decide +kernel)).1 3 _ hread⟩

section Wrap

/-- The ring of three slots after `count` cycles of zeros. -/
structure Zeroed (count : ℕ) (s : RingState ℕ 1) : Prop where
  head : s.head = count % numberBound
  next : s.next = (count + 1) % numberBound
  seq : s.seq (count % numberBound % 3) = count % numberBound
  writer : s.writer = .idle
  slots : ∀ slot, s.slots slot = fun _ => 0
  committed : s.committed = List.replicate count fun _ => 0
  accepted : s.accepted = []

theorem storeWord_zero {s : RingState ℕ 1} (hslots : ∀ slot, s.slots slot = fun _ => 0)
    (hpayload : s.payload = fun _ => 0) (word : Word 1) : s.storeWord 3 word 0 = s := by
  have hzero : Function.update (fun _ : Word 1 => 0) word 0 = fun _ => 0 :=
    Function.update_eq_self word _
  rw [RingState.storeWord, hslots, hpayload, hzero, ← hslots (s.current 3),
    Function.update_eq_self, hslots, ← hpayload]

theorem run_cycleOf_zero {s : RingState ℕ 1} (hwriter : s.writer = .idle)
    (hslots : ∀ slot, s.slots slot = fun _ => 0) : run (step 3) s (cycleOf 0) =
      { s with
        head := s.next
        next := (s.next + 1) % numberBound
        seq := Function.update (Function.update s.seq (s.current 3) busy) (s.current 3) s.next
        payload := fun _ => 0
        committed := s.committed ++ [fun _ => 0] } := by
  have hbegin : step 3 s .beginCycle = s.beginCycle 3 := if_pos hwriter
  have hstore : ∀ (writer : WriterPc) (word : Word 1),
      ({ s.beginCycle 3 with writer } : RingState ℕ 1).storeWord 3 word 0 =
        { s.beginCycle 3 with writer } :=
    fun writer word => storeWord_zero (s := { s.beginCycle 3 with writer }) hslots (hslots _) word
  have hfield : step 3 (s.beginCycle 3) (.setField 0 0) = s.beginCycle 3 := hstore .filling _
  have htime : step 3 (s.beginCycle 3) (.storeTime 0) =
      { s.beginCycle 3 with writer := .timeStored } :=
    congrArg (fun s => { s with writer := .timeStored }) (hstore .filling .timeNs)
  have hperiod : step 3 { s.beginCycle 3 with writer := .timeStored } (.storePeriod 0) =
      { s.beginCycle 3 with writer := .periodStored } :=
    congrArg (fun s => { s with writer := .periodStored }) (hstore .timeStored .periodNs)
  rw [cycleOf, run_cons, hbegin, run_cons, hfield, run_cons, htime, run_cons, hperiod]
  change ({ s with
    head := s.next
    next := (s.next + 1) % numberBound
    seq := Function.update (Function.update s.seq (s.current 3) busy) (s.current 3) s.next
    payload := s.slots (s.current 3)
    writer := .idle
    committed := s.committed ++ [s.slots (s.current 3)] } : RingState ℕ 1) = _
  rw [hslots, ← hwriter]

theorem Zeroed.cycle {count : ℕ} {s : RingState ℕ 1} (h : Zeroed count s) :
    Zeroed (count + 1) (run (step 3) s (cycleOf 0)) := by
  rw [run_cycleOf_zero h.writer h.slots]
  refine ⟨h.next, ?_, ?_, h.writer, h.slots, ?_, h.accepted⟩
  · change (s.next + 1) % numberBound = _
    rw [h.next, Nat.mod_add_mod]
  · change Function.update (Function.update s.seq (s.next % 3) busy) (s.next % 3) s.next
      ((count + 1) % numberBound % 3) = _
    rw [← h.next, Function.update_self]
  · change s.committed ++ [fun _ => 0] = _
    rw [h.committed, ← List.replicate_succ']

theorem zeroed_run (count : ℕ) :
    Zeroed count (run (step 3) (created 0) (List.replicate count (cycleOf 0)).flatten) := by
  induction count with
  | zero => exact ⟨rfl, rfl, rfl, rfl, fun _ => rfl, rfl, rfl⟩
  | succ count ih =>
    rw [List.replicate_succ', List.flatten_append, List.flatten_singleton, run_append]
    exact ih.cycle

/-- The reader picks the last cycle before the wrap, and the writer begins the next one on the same
slot before the copy is complete. -/
def overtakenRead : List (Event ℕ 1) :=
  [.loadHead, .loadSeq busy, .copyWord .timeNs, .copyWord .periodNs, .beginCycle, .setField 0 1,
    .copyWord (.value 0), .reloadSeq]

def copiedTimes : Word 1 → Option ℕ
  | .value _ => none
  | _ => some 0

def copiedAll : Word 1 → Option ℕ
  | .value _ => some 1
  | _ => some 0

theorem mem_finishRead {slotCount expected first : ℕ} {s : RingState ℕ 1}
    {copied : Word 1 → Option ℕ}
    (h : (∀ word, (copied word).isSome = true) ∧ first = expected ∧
      s.seq (expected % slotCount) = expected) :
    (expected, fun word => (copied word).get (h.1 word)) ∈
      (s.finishRead slotCount expected first copied).accepted := by
  rw [finishRead, dif_pos h]
  exact List.mem_append_right _ (List.mem_singleton_self _)

theorem Zeroed.overtaken {s : RingState ℕ 1} (h : Zeroed busy s) :
    (run (step 3) s overtakenRead).committed = s.committed ∧
      ∃ payload, (busy, payload) ∈ (run (step 3) s overtakenRead).accepted ∧
        payload (.value 0) = 1 := by
  obtain ⟨head, seq, slots, next, writer, payload, committed, reader, accepted⟩ := s
  obtain ⟨hhead, hnext, hseq, hwriter, hslots, -, haccepted⟩ := h
  have hbusy : busy % numberBound = busy := by decide
  have hwrap : (busy + 1) % numberBound = 0 := by decide
  have hslot : busy % 3 = 0 := by decide
  have hpos : 0 < busy := by decide
  rw [hbusy] at hhead hseq
  rw [hslot] at hseq
  rw [hwrap] at hnext
  dsimp only at hhead hseq hnext hwriter hslots haccepted
  subst hhead hnext hwriter haccepted
  have htimes : Function.update (Function.update (fun _ => none) .timeNs (some 0)) .periodNs
      (some 0) = copiedTimes := by
    funext word
    rcases word with - | - | index <;> rfl
  have hall : Function.update copiedTimes (.value 0) (some 1) = copiedAll := by
    funext word
    rcases word with - | - | index
    · rfl
    · rfl
    · rw [Subsingleton.elim index 0]
      rfl
  have hread : run (step 3) (⟨busy, seq, slots, 0, .idle, payload, committed, reader, []⟩ :
      RingState ℕ 1) (overtakenRead.take 4) =
      ⟨busy, seq, slots, 0, .idle, payload, committed, .copying busy busy copiedTimes, []⟩ := by
    simp [overtakenRead, step, stepWriter, stepReader, hpos, hslot, hseq, hslots, htimes]
  have hmixed : run (step 3) (⟨busy, seq, slots, 0, .idle, payload, committed,
      .copying busy busy copiedTimes, []⟩ : RingState ℕ 1) ((overtakenRead.drop 4).take 3) =
      ⟨busy, Function.update seq 0 busy,
        Function.update slots 0 (Function.update (slots 0) (.value 0) 1), 0, .filling,
        Function.update (slots 0) (.value 0) 1, committed, .copying busy busy copiedAll, []⟩ := by
    simp [overtakenRead, step, stepWriter, stepReader, hslot, storeWord, beginCycle, current, hall]
  have haccept : (∀ word, (copiedAll word).isSome = true) ∧ busy = busy ∧
      Function.update seq 0 busy (busy % 3) = busy := by
    refine ⟨fun word => by cases word <;> rfl, rfl, ?_⟩
    rw [hslot, Function.update_self]
  have hsplit : overtakenRead = overtakenRead.take 4 ++ (overtakenRead.drop 4).take 3 ++
      [.reloadSeq] := rfl
  rw [hsplit, run_append, run_append, hread, hmixed]
  refine ⟨rfl, fun word => (copiedAll word).get (haccept.1 word), ?_, rfl⟩
  exact mem_finishRead (s := ⟨busy, Function.update seq 0 busy,
    Function.update slots 0 (Function.update (slots 0) (.value 0) 1), 0, .filling,
    Function.update (slots 0) (.value 0) 1, committed, .copying busy busy copiedAll, []⟩) haccept

/-- After `2 ^ 64 - 1` cycles a copy that mixes two cycles is accepted. -/
theorem overtaken_read_is_accepted :
    ¬∀ (slotCount : ℕ) (events : List (Event ℕ 1)) (cycle : ℕ) (payload : Payload ℕ 1),
      (cycle, payload) ∈ (run (step slotCount) (created 0) events).accepted →
      ∃ k, (k + 1) % numberBound = cycle ∧
        (run (step slotCount) (created 0) events).committed[k]? = some payload := by
  intro hsound
  have hzeroed := zeroed_run busy
  obtain ⟨hcommitted, payload, haccepted, hvalue⟩ := hzeroed.overtaken
  rw [← run_append] at hcommitted haccepted
  obtain ⟨k, -, hpayload⟩ := hsound 3 _ busy payload haccepted
  rw [hcommitted, hzeroed.committed] at hpayload
  obtain ⟨hk, heq⟩ := List.getElem?_eq_some_iff.1 hpayload
  rw [List.getElem_replicate] at heq
  rw [← heq] at hvalue
  exact absurd hvalue (by decide)

end Wrap

end RingState

end RobotDriver.ShmRing
