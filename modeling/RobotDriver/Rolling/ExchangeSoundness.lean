import RobotDriver.Lib.TripleBuffer
import RobotDriver.Rolling.SnapshotExchange

/-!
# Soundness of the snapshot exchange

The three indices stay a permutation of the slots. A publication is complete when the producer
exchanges the middle word, and the dirty bit says that the middle slot holds the latest one.
-/

namespace RobotDriver.Rolling

open LabelledRun
open TripleBuffer (mask_of_lt mask_fresh_of_lt clean_of_lt fresh_of_lt)

variable {K : Type*}

namespace SnapshotExchange

/-- The slots of the producer, of the consumer and between them are distinct. -/
structure Distinct (x : SnapshotExchange K) : Prop where
  writing_lt : x.writing < 3
  middle_lt : x.middleIndex < 3
  reading_lt : x.reading < 3
  writing_middle : x.writing ≠ x.middleIndex
  writing_reading : x.writing ≠ x.reading
  middle_reading : x.middleIndex ≠ x.reading

variable {x : SnapshotExchange K}

theorem Distinct.exchangeWriting (h : x.Distinct) : x.exchangeWriting.Distinct where
  writing_lt := h.middle_lt
  middle_lt := (mask_fresh_of_lt h.writing_lt).trans_lt h.writing_lt
  reading_lt := h.reading_lt
  writing_middle := fun heq =>
    h.writing_middle ((mask_fresh_of_lt h.writing_lt).symm.trans heq.symm)
  writing_reading := h.middle_reading
  middle_reading := fun heq => h.writing_reading ((mask_fresh_of_lt h.writing_lt).symm.trans heq)

theorem Distinct.exchangeReading (h : x.Distinct) : x.exchangeReading.Distinct where
  writing_lt := h.writing_lt
  middle_lt := (mask_of_lt h.reading_lt).trans_lt h.reading_lt
  reading_lt := h.middle_lt
  writing_middle := fun heq => h.writing_reading (heq.trans (mask_of_lt h.reading_lt))
  writing_reading := h.writing_middle
  middle_reading := fun heq => h.middle_reading (heq.symm.trans (mask_of_lt h.reading_lt))

theorem Distinct.store (h : x.Distinct) (snapshot : RollingSnapshot K) (count : ℕ) :
    (x.store snapshot count).Distinct :=
  ⟨h.writing_lt, h.middle_lt, h.reading_lt, h.writing_middle, h.writing_reading, h.middle_reading⟩

theorem Distinct.middleIndex_exchangeWriting (h : x.Distinct) :
    x.exchangeWriting.middleIndex = x.writing :=
  mask_fresh_of_lt h.writing_lt

theorem Distinct.not_isDirty_exchangeReading (h : x.Distinct) :
    x.exchangeReading.isDirty = false := by
  exact decide_eq_false (not_not_intro (clean_of_lt h.reading_lt))

theorem Distinct.isDirty_exchangeWriting (h : x.Distinct) : x.exchangeWriting.isDirty := by
  exact decide_eq_true (fresh_of_lt h.writing_lt)

theorem slots_store_of_ne {index : ℕ} (h : index ≠ x.writing) (snapshot : RollingSnapshot K)
    (count : ℕ) : (x.store snapshot count).slots index = x.slots index :=
  Function.update_of_ne h _ _

end SnapshotExchange

theorem RollingSnapshot.afterStores_succ (snapshot slot : RollingSnapshot K) (count : ℕ) :
    (snapshot.stores[count]?.getD id) (snapshot.afterStores count slot) =
      snapshot.afterStores (count + 1) slot :=
  TripleBuffer.afterStores_succ snapshot.stores count slot

namespace ExchangeRun

/-- The snapshot under construction and the state of its slot. -/
structure StoringSound (s : ExchangeRun K) (snapshot : RollingSnapshot K) (count : ℕ) : Prop where
  count_le : count ≤ snapshot.stores.length
  content : ∃ slot, s.exchange.slots s.exchange.writing = snapshot.afterStores count slot
  numbered : snapshot.publicationSequence = s.completed.length + 1
  sequence : s.exchange.publicationSequence =
    if count = snapshot.stores.length then s.completed.length + 1 else s.completed.length

structure Sound (s : ExchangeRun K) : Prop where
  distinct : s.exchange.Distinct
  idle : s.publish = .idle → s.exchange.publicationSequence = s.completed.length
  storing : ∀ snapshot count, s.publish = .storing snapshot count → s.StoringSound snapshot count
  exchanging : s.acquire = .exchange → s.exchange.isDirty
  numbered : s.completed.map (·.publicationSequence) = List.range' 1 s.completed.length
  latest : s.exchange.isDirty →
    s.completed.getLast? = some (s.exchange.slots s.exchange.middleIndex) ∧
      ∀ snapshot ∈ s.acquired, snapshot.publicationSequence < s.completed.length
  acquired_le : ∀ snapshot ∈ s.acquired, snapshot.publicationSequence ≤ s.completed.length
  increasing : s.acquired.Pairwise (·.publicationSequence < ·.publicationSequence)

variable {s : ExchangeRun K}

theorem stores_length_pos (snapshot : RollingSnapshot K) : 0 < snapshot.stores.length := by
  simp [RollingSnapshot.stores]

theorem Sound.initial : ({} : ExchangeRun K).Sound where
  distinct := ⟨Nat.lt_succ_self 2, (mask_of_lt (by decide : 1 < 3)).trans_lt (by decide),
    Nat.zero_lt_succ 2, fun h => Nat.succ_succ_ne_one 0 (h.trans (mask_of_lt (by decide : 1 < 3))),
    Nat.succ_ne_zero 1, fun h => Nat.one_ne_zero ((mask_of_lt (by decide : 1 < 3)).symm.trans h)⟩
  idle _ := rfl
  storing _ _ h := nomatch h
  exchanging h := nomatch h
  numbered := rfl
  latest h := absurd h (by simp [SnapshotExchange.isDirty, dirty])
  acquired_le _ h := nomatch h
  increasing := .nil

theorem Sound.store (h : s.Sound) {snapshot : RollingSnapshot K} {count : ℕ}
    (hpc : s.publish = .storing snapshot count) (hcount : count < snapshot.stores.length) :
    Sound { s with
      exchange := s.exchange.store snapshot count, publish := .storing snapshot (count + 1) } := by
  obtain ⟨-, ⟨slot, hslot⟩, hnumbered, hsequence⟩ := h.storing snapshot count hpc
  have hmiddle := SnapshotExchange.slots_store_of_ne h.distinct.writing_middle.symm snapshot count
  refine ⟨h.distinct.store snapshot count, nofun, ?_, h.exchanging,
    h.numbered, fun hdirty => ⟨(h.latest hdirty).1.trans (congrArg some hmiddle.symm),
      (h.latest hdirty).2⟩, h.acquired_le, h.increasing⟩
  intro other count' heq
  cases heq
  refine ⟨hcount, ⟨slot, ?_⟩, hnumbered, ?_⟩
  · simp only [SnapshotExchange.store, Function.update_self, hslot,
      RollingSnapshot.afterStores_succ]
  · simp only [SnapshotExchange.store]
    split
    · exact hnumbered
    · rw [hsequence, if_neg (by omega)]

theorem Sound.complete (h : s.Sound) {snapshot : RollingSnapshot K} {count : ℕ}
    (hpc : s.publish = .storing snapshot count) (hcount : ¬count < snapshot.stores.length) :
    Sound { s with
      exchange := s.exchange.exchangeWriting
      publish := .idle
      completed := s.completed ++ [snapshot] } := by
  obtain ⟨hle, ⟨slot, hslot⟩, hnumbered, hsequence⟩ := h.storing snapshot count hpc
  obtain rfl : count = snapshot.stores.length := by omega
  rw [RollingSnapshot.afterStores_all] at hslot
  have hlength : (s.completed ++ [snapshot]).length = s.completed.length + 1 := by simp
  refine ⟨h.distinct.exchangeWriting, fun _ => ?_, nofun,
    fun _ => h.distinct.isDirty_exchangeWriting, ?_, fun _ => ⟨?_, fun other hother => ?_⟩,
    fun other hother => ?_, h.increasing⟩
  · rw [hlength]
    exact hsequence.trans (if_pos rfl)
  · rw [List.map_append, h.numbered, hlength, List.range'_concat]
    simp [hnumbered, Nat.add_comm]
  · rw [h.distinct.middleIndex_exchangeWriting, List.getLast?_concat]
    exact congrArg some hslot.symm
  · exact ((h.acquired_le other hother).trans_lt (Nat.lt_succ_self _)).trans_eq hlength.symm
  · exact ((h.acquired_le other hother).trans (Nat.le_succ _)).trans_eq hlength.symm

theorem Sound.getLast_sequence (h : s.Sound) {snapshot : RollingSnapshot K}
    (hlast : s.completed.getLast? = some snapshot) :
    snapshot.publicationSequence = s.completed.length := by
  have hsequence := congrArg List.getLast? h.numbered
  rw [List.getLast?_map, hlast, List.getLast?_range'] at hsequence
  have hpos : s.completed.length ≠ 0 := by
    intro hzero
    rw [List.length_eq_zero_iff.1 hzero] at hlast
    cases hlast
  rw [if_neg hpos] at hsequence
  simp only [Option.map_some, Option.some.injEq] at hsequence
  omega

theorem Sound.take (h : s.Sound) (hpc : s.acquire = .exchange) :
    Sound { s with
      exchange := s.exchange.exchangeReading
      acquire := .idle
      acquired := s.acquired ++ [s.exchange.slots s.exchange.middleIndex] } := by
  obtain ⟨hlast, hless⟩ := h.latest (h.exchanging hpc)
  have hsequence := h.getLast_sequence hlast
  have hclean : s.exchange.exchangeReading.isDirty ≠ true := by
    simp [h.distinct.not_isDirty_exchangeReading]
  refine ⟨h.distinct.exchangeReading, h.idle, fun snapshot count hstoring => ?_,
    nofun, h.numbered, fun hdirty => absurd hdirty hclean,
    fun other hother => ?_, ?_⟩
  · obtain ⟨hle, hcontent, hnumbered, hstored⟩ := h.storing snapshot count hstoring
    exact ⟨hle, hcontent, hnumbered, hstored⟩
  · rcases List.mem_append.1 hother with hold | hnew
    · exact h.acquired_le other hold
    · rw [List.mem_singleton.1 hnew, hsequence]
  · rw [List.pairwise_append]
    refine ⟨h.increasing, List.pairwise_singleton _ _, fun a ha b hb => ?_⟩
    rw [List.mem_singleton.1 hb, hsequence]
    exact hless a ha

theorem Sound.step (h : s.Sound) (l : ExchangeLabel K) : (s.step l).Sound := by
  cases l with
  | publish sessionEpoch trajectory arrivalTimeNs =>
    simp only [ExchangeRun.step, stepPublish]
    cases hpc : s.publish with
    | idle =>
      dsimp only
      split
      · exact h
      · refine ⟨h.distinct, nofun, fun snapshot count heq => ?_,
          h.exchanging, h.numbered, h.latest, h.acquired_le, h.increasing⟩
        cases heq
        refine ⟨Nat.zero_le _, ⟨_, rfl⟩, ?_, ?_⟩
        · exact congrArg (· + 1) (h.idle hpc)
        · rw [if_neg (stores_length_pos _).ne]
          exact h.idle hpc
    | storing snapshot count =>
      dsimp only
      split
      · exact h.store hpc ‹_›
      · exact h.complete hpc ‹_›
  | acquire =>
    simp only [ExchangeRun.step, stepAcquire]
    cases hpc : s.acquire with
    | idle =>
      dsimp only
      split
      · refine ⟨h.distinct, h.idle, fun snapshot count heq => ?_, fun _ => ‹_›, h.numbered,
          h.latest, h.acquired_le, h.increasing⟩
        obtain ⟨hle, hcontent, hnumbered, hstored⟩ := h.storing snapshot count heq
        exact ⟨hle, hcontent, hnumbered, hstored⟩
      · exact h
    | exchange => exact h.take hpc

/-- The consumer exchanges its slot in this step. -/
def takes (s : ExchangeRun K) : ExchangeLabel K → Bool
  | .acquire => s.acquire = .exchange
  | .publish _ _ _ => false

/-- Until the consumer exchanges its slot again, it keeps the slot and nothing writes it. -/
def HeldKept (s : ExchangeRun K) (l : ExchangeLabel K) : Prop :=
  ¬s.takes l → (s.step l).exchange.reading = s.exchange.reading ∧
    (s.step l).exchange.slots s.exchange.reading = s.exchange.slots s.exchange.reading

/-- The exchanged slot holds the publication completed last. -/
def ReturnsLatest (s : ExchangeRun K) (l : ExchangeLabel K) : Prop :=
  s.takes l →
    s.completed.getLast? = some ((s.step l).exchange.slots (s.step l).exchange.reading) ∧
      (s.step l).acquired =
        s.acquired ++ [(s.step l).exchange.slots (s.step l).exchange.reading]

theorem Sound.heldKept (h : s.Sound) (l : ExchangeLabel K) : s.HeldKept l := by
  intro htakes
  cases l with
  | publish sessionEpoch trajectory arrivalTimeNs =>
    simp only [ExchangeRun.step, stepPublish]
    split
    · split <;> exact ⟨rfl, rfl⟩
    · split
      · exact ⟨rfl, SnapshotExchange.slots_store_of_ne h.distinct.writing_reading.symm _ _⟩
      · exact ⟨rfl, rfl⟩
  | acquire =>
    have hpc : s.acquire = .idle := by
      revert htakes
      simp only [takes, decide_eq_true_eq]
      cases s.acquire <;> simp
    simp only [ExchangeRun.step, stepAcquire, hpc]
    split <;> exact ⟨rfl, rfl⟩

theorem Sound.returnsLatest (h : s.Sound) (l : ExchangeLabel K) : s.ReturnsLatest l := by
  intro htakes
  cases l with
  | publish => cases htakes
  | acquire =>
    have hpc : s.acquire = .exchange := of_decide_eq_true htakes
    simp only [ExchangeRun.step, stepAcquire, hpc]
    exact ⟨(h.latest (h.exchanging hpc)).1, rfl⟩

/-- For every interleaving the three indices are distinct, the slot held by the consumer is stable,
each acquired snapshot is the latest publication and the acquired sequence numbers increase. -/
theorem exchange_sound (labels : List (ExchangeLabel K)) :
    (run step ({} : ExchangeRun K) labels).exchange.Distinct ∧
      (run step ({} : ExchangeRun K) labels).acquired.Pairwise
        (·.publicationSequence < ·.publicationSequence) ∧
      Along step (fun s l => s.HeldKept l ∧ s.ReturnsLatest l) ({} : ExchangeRun K) labels := by
  have hsound : (run step ({} : ExchangeRun K) labels).Sound :=
    invariant_all (P := fun s : ExchangeRun K => s.Sound) (fun _ l h => h.step l)
      Sound.initial labels
  refine ⟨hsound.distinct, hsound.increasing, ?_⟩
  rw [along_iff_split]
  intro before l after _
  have hbefore : (run step ({} : ExchangeRun K) before).Sound :=
    invariant_all (P := fun s : ExchangeRun K => s.Sound) (fun _ l h => h.step l)
      Sound.initial before
  exact ⟨hbefore.heldKept l, hbefore.returnsLatest l⟩

end ExchangeRun

end RobotDriver.Rolling
