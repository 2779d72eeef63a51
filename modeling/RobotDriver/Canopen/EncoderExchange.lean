import Mathlib.Data.Nat.ModEq
import Mathlib.Data.Rat.Floor
import RobotDriver.Canopen.SwerveEncoderFeedback

/-!
# Soundness of the encoder exchange

The three indices stay a permutation of the slots, so the reader never copies a slot that the writer
stores to. A sample is a function of the newest completed publication and of the number of
non-operational reports at its end, and it is valid only when that number and the one at which the
frame was received are equal modulo the range of the epoch.
-/

namespace RobotDriver.Canopen

open LabelledRun TripleBuffer

namespace Slot

variable {slot : Slot}

def Separate (slot : Slot) : Prop := Distinct slot.back slot.middleIndex slot.front

theorem Separate.initial : ({} : Slot).Separate :=
  ⟨by decide, by decide, by decide, by decide, by decide, by decide⟩

theorem Separate.middleIndex_exchangeBack (h : slot.Separate) :
    slot.exchangeBack.middleIndex = slot.back :=
  mask_fresh_of_lt h.back_lt

theorem Separate.middleIndex_exchangeFront (h : slot.Separate) :
    slot.exchangeFront.middleIndex = slot.front :=
  mask_of_lt h.front_lt

theorem Separate.exchangeBack (h : slot.Separate) : slot.exchangeBack.Separate := by
  unfold Separate
  rw [h.middleIndex_exchangeBack]
  exact Distinct.exchange_back h

theorem Separate.exchangeFront (h : slot.Separate) : slot.exchangeFront.Separate := by
  unfold Separate
  rw [h.middleIndex_exchangeFront]
  exact Distinct.exchange_front h

theorem Separate.isFresh_exchangeBack (h : slot.Separate) : slot.exchangeBack.isFresh = true :=
  decide_eq_true (fresh_of_lt h.back_lt)

theorem Separate.isFresh_exchangeFront (h : slot.Separate) : slot.exchangeFront.isFresh = false :=
  decide_eq_false (not_not_intro (clean_of_lt h.front_lt))

theorem frames_store_of_ne {index : ℕ} (h : index ≠ slot.back) (frame : Frame) (count : ℕ) :
    (slot.store frame count).frames index = slot.frames index :=
  Function.update_of_ne h _ _

/-- The reader owns the newest publication, or nothing has been published yet. -/
def Holds (slot : Slot) : Option Publication → Prop
  | none => slot.hasFrame = false
  | some publication =>
    slot.hasFrame = true ∧ slot.frames slot.front = publication.frame

theorem Holds.store {newest : Option Publication} (h : slot.Holds newest) (hs : slot.Separate)
    (frame : Frame) (count : ℕ) : (slot.store frame count).Holds newest := by
  cases newest with
  | none => exact h
  | some publication =>
    exact ⟨h.1, (frames_store_of_ne hs.back_front.symm frame count).trans h.2⟩

end Slot

/-- The frame carries the epoch of its receipt, which lies in the past. -/
structure Publication.Stamped (publication : Publication) (reports : ℕ) : Prop where
  epoch : publication.frame.nmtEpoch = publication.reports % epochBound
  reports_le : publication.reports ≤ reports

theorem Publication.Stamped.mono {publication : Publication} {reports later : ℕ}
    (h : publication.Stamped reports) (hle : reports ≤ later) : publication.Stamped later :=
  ⟨h.epoch, h.reports_le.trans hle⟩

variable {K : Type*} [Field K] [LinearOrder K] [FloorRing K]

namespace SwerveEncoderAxisConfig

variable (config : SwerveEncoderAxisConfig K)

def sampleNewest (newest : Option Publication) (nmtEpoch : ℕ) (nowSteadyNs : ℤ) :
    SwerveEncoderSample K :=
  match newest with
  | none => invalidSample
  | some publication => config.sampleFrame publication.frame nmtEpoch nowSteadyNs

theorem epoch_of_valid {config : SwerveEncoderAxisConfig K} {frame : Frame} {nmtEpoch : ℕ}
    {nowSteadyNs : ℤ} (h : (config.sampleFrame frame nmtEpoch nowSteadyNs).valid = true) :
    0 < frame.receivedSteadyNs ∧ frame.nmtEpoch = nmtEpoch := by
  unfold sampleFrame at h
  split at h
  · cases h
  · rename_i hframe
    push Not at hframe
    exact hframe

end SwerveEncoderAxisConfig

namespace Sampled

/-- The sample is what the newest publication and the last epoch make of it. -/
structure Sound (config : SwerveEncoderAxisConfig K) (sampled : Sampled K) : Prop where
  result : sampled.result =
    config.sampleNewest sampled.newest (sampled.reports % epochBound) sampled.nowSteadyNs
  stamped : ∀ publication, sampled.newest = some publication →
    publication.Stamped sampled.reports

theorem Sound.modEq_of_valid {config : SwerveEncoderAxisConfig K} {sampled : Sampled K}
    (h : sampled.Sound config) {publication : Publication}
    (hnewest : sampled.newest = some publication) (hvalid : sampled.result.valid = true) :
    publication.reports ≡ sampled.reports [MOD epochBound] := by
  rw [h.result, hnewest] at hvalid
  have hepoch := (SwerveEncoderAxisConfig.epoch_of_valid hvalid).2
  rw [(h.stamped publication hnewest).epoch] at hepoch
  exact hepoch

end Sampled

namespace AxisRun

structure StoringSound (s : AxisRun K) (publication : Publication) (count : ℕ) : Prop where
  count_le : count ≤ 3
  content : ∃ frame, s.slot.frames s.slot.back =
    afterStores publication.frame.stores count frame
  stamped : publication.Stamped s.reports

structure CopyingSound (s : AxisRun K) (publication : Publication) (frame : Frame)
    (count : ℕ) : Prop where
  count_le : count ≤ 3
  holds : s.slot.Holds (some publication)
  copied : frame = afterStores publication.frame.stores count {}
  stamped : publication.Stamped s.reports

structure Sound (config : SwerveEncoderAxisConfig K) (s : AxisRun K) : Prop where
  separate : s.slot.Separate
  epoch : s.slot.nmtEpoch = s.reports % epochBound
  storing : ∀ publication count, s.observe = .storing publication count →
    s.StoringSound publication count
  exchanging : ∀ now, s.sample = .exchange now → s.slot.isFresh = true
  latest : s.slot.isFresh = true → ∃ publication, s.completed.getLast? = some publication ∧
    s.slot.frames s.slot.middleIndex = publication.frame
  holds : s.slot.isFresh = false → s.slot.Holds s.completed.getLast?
  copying : ∀ now newest frame count, s.sample = .copying now newest frame count →
    ∃ publication, newest = some publication ∧ s.CopyingSound publication frame count
  completed : ∀ publication ∈ s.completed, publication.Stamped s.reports
  samples : ∀ sampled ∈ s.samples, sampled.Sound config ∧ sampled.reports ≤ s.reports
  ordered : s.samples.Pairwise (·.reports ≤ ·.reports)

variable {config : SwerveEncoderAxisConfig K} {s : AxisRun K}

theorem Sound.initial : ({} : AxisRun K).Sound config where
  separate := Slot.Separate.initial
  epoch := rfl
  storing _ _ h := nomatch h
  exchanging _ h := nomatch h
  latest h := absurd (show ({} : Slot).isFresh = true from h) (by decide)
  holds _ := rfl
  copying _ _ _ _ h := nomatch h
  completed _ h := nomatch h
  samples _ h := nomatch h
  ordered := .nil

theorem Sound.receive (h : s.Sound config) (rawPosition : ℕ) (receivedSteadyNs : ℤ) :
    Sound config { s with
      observe := .storing ⟨⟨rawPosition, receivedSteadyNs, s.slot.nmtEpoch⟩, s.reports⟩ 0 } := by
  refine ⟨h.separate, h.epoch, fun publication count heq => ?_, h.exchanging, h.latest, h.holds,
    fun now newest frame count heq => ?_, h.completed, h.samples, h.ordered⟩
  · cases heq
    exact ⟨Nat.zero_le 3, ⟨_, rfl⟩, h.epoch, le_rfl⟩
  · obtain ⟨publication, rfl, hle, hholds, hcopied, hstamped⟩ := h.copying now newest frame count heq
    exact ⟨publication, rfl, hle, hholds, hcopied, hstamped⟩

theorem Sound.store (h : s.Sound config) {publication : Publication} {count : ℕ}
    (hpc : s.observe = .storing publication count) (hcount : count < 3) :
    Sound config { s with
      slot := s.slot.store publication.frame count
      observe := .storing publication (count + 1) } := by
  obtain ⟨-, ⟨frame, hframe⟩, hstamped⟩ := h.storing publication count hpc
  refine ⟨h.separate, h.epoch, fun other count' heq => ?_, h.exchanging, fun hfresh => ?_,
    fun hfresh => (h.holds hfresh).store h.separate _ _, fun now newest copied count' heq => ?_,
    h.completed, h.samples, h.ordered⟩
  · cases heq
    refine ⟨hcount, ⟨frame, ?_⟩, hstamped⟩
    simp only [Slot.store, Function.update_self, hframe, afterStores_succ]
  · obtain ⟨last, hlast, hmiddle⟩ := h.latest hfresh
    exact ⟨last, hlast, (Slot.frames_store_of_ne h.separate.back_middle.symm _ _).trans hmiddle⟩
  · obtain ⟨held, rfl, hle, hholds, hcopied, hheld⟩ := h.copying now newest copied count' heq
    exact ⟨held, rfl, hle, hholds.store h.separate _ _, hcopied, hheld⟩

theorem Sound.complete (h : s.Sound config) {publication : Publication} {count : ℕ}
    (hpc : s.observe = .storing publication count) (hcount : ¬count < 3) :
    Sound config { s with
      slot := s.slot.exchangeBack
      observe := .idle
      completed := s.completed ++ [publication] } := by
  obtain ⟨hle, ⟨frame, hframe⟩, hstamped⟩ := h.storing publication count hpc
  obtain rfl : count = 3 := by omega
  have hfresh := h.separate.isFresh_exchangeBack
  refine ⟨h.separate.exchangeBack, h.epoch, nofun, fun _ _ => hfresh,
    fun _ => ⟨publication, List.getLast?_concat, ?_⟩, fun hstale => ?_,
    fun now newest copied count' heq => ?_, fun other hother => ?_, h.samples, h.ordered⟩
  · rw [h.separate.middleIndex_exchangeBack]
    exact hframe.trans (Frame.afterStores_all publication.frame frame)
  · rw [hfresh] at hstale
    cases hstale
  · obtain ⟨held, rfl, hcount', hholds, hcopied, hheld⟩ := h.copying now newest copied count' heq
    exact ⟨held, rfl, hcount', hholds, hcopied, hheld⟩
  · rcases List.mem_append.1 hother with hold | hnew
    · exact h.completed other hold
    · rw [List.mem_singleton.1 hnew]
      exact hstamped

theorem Sound.report (h : s.Sound config) :
    Sound config { s with
      slot := { s.slot with nmtEpoch := (s.slot.nmtEpoch + 1) % epochBound }
      reports := s.reports + 1 } := by
  refine ⟨h.separate, ?_, fun publication count heq => ?_, h.exchanging, h.latest, h.holds,
    fun now newest frame count heq => ?_, fun publication hmem =>
      (h.completed publication hmem).mono (Nat.le_succ _), fun sampled hmem =>
      ⟨(h.samples sampled hmem).1, (h.samples sampled hmem).2.trans (Nat.le_succ _)⟩, h.ordered⟩
  · change (s.slot.nmtEpoch + 1) % epochBound = (s.reports + 1) % epochBound
    rw [h.epoch, Nat.mod_add_mod]
  · obtain ⟨hle, hcontent, hstamped⟩ := h.storing publication count heq
    exact ⟨hle, hcontent, hstamped.mono (Nat.le_succ _)⟩
  · obtain ⟨publication, rfl, hle, hholds, hcopied, hstamped⟩ := h.copying now newest frame count heq
    exact ⟨publication, rfl, hle, hholds, hcopied, hstamped.mono (Nat.le_succ _)⟩

theorem Sound.start (h : s.Sound config) (now : ℤ) (hfresh : s.slot.isFresh = true) :
    Sound config { s with sample := .exchange now } := by
  refine ⟨h.separate, h.epoch, fun publication count heq => ?_, fun _ _ => hfresh, h.latest,
    h.holds, (fun _ _ _ _ heq => nomatch heq), h.completed, h.samples, h.ordered⟩
  obtain ⟨hle, hcontent, hstamped⟩ := h.storing publication count heq
  exact ⟨hle, hcontent, hstamped⟩

theorem Sound.keep (h : s.Sound config) (now : ℤ) (hfresh : s.slot.isFresh = false)
    (hframe : s.slot.hasFrame = true) :
    Sound config { s with sample := .copying now s.completed.getLast? {} 0 } := by
  refine ⟨h.separate, h.epoch, fun publication count heq => ?_, nofun,
    h.latest, h.holds, fun now' newest frame count heq => ?_, h.completed, h.samples, h.ordered⟩
  · obtain ⟨hle, hcontent, hstamped⟩ := h.storing publication count heq
    exact ⟨hle, hcontent, hstamped⟩
  · cases heq
    have hholds := h.holds hfresh
    cases hlast : s.completed.getLast? with
    | none =>
      rw [hlast] at hholds
      exact absurd hframe (ne_true_of_eq_false hholds)
    | some publication =>
      rw [hlast] at hholds
      exact ⟨publication, rfl, Nat.zero_le 3, hholds, rfl,
        h.completed publication (List.mem_of_getLast? hlast)⟩

theorem Sound.take (h : s.Sound config) {now : ℤ} (hpc : s.sample = .exchange now) :
    Sound config { s with
      slot := s.slot.exchangeFront
      sample := .copying now s.completed.getLast? {} 0 } := by
  obtain ⟨publication, hlast, hmiddle⟩ := h.latest (h.exchanging now hpc)
  have hstale := h.separate.isFresh_exchangeFront
  refine ⟨h.separate.exchangeFront, h.epoch, fun other count heq => ?_,
    nofun, fun hfresh => ?_, fun _ => ?_,
    fun now' newest frame count heq => ?_, h.completed, h.samples, h.ordered⟩
  · obtain ⟨hle, hcontent, hstamped⟩ := h.storing other count heq
    exact ⟨hle, hcontent, hstamped⟩
  · rw [hstale] at hfresh
    cases hfresh
  · change s.slot.exchangeFront.Holds s.completed.getLast?
    rw [hlast]
    exact ⟨rfl, hmiddle⟩
  · cases heq
    exact ⟨publication, hlast, Nat.zero_le 3, ⟨rfl, hmiddle⟩, rfl,
      h.completed publication (List.mem_of_getLast? hlast)⟩

theorem Sound.copy (h : s.Sound config) {now : ℤ} {newest : Option Publication} {frame : Frame}
    {count : ℕ} (hpc : s.sample = .copying now newest frame count) (hcount : count < 3) :
    Sound config { s with
      sample := .copying now newest
        (((s.slot.frames s.slot.front).stores[count]?.getD id) frame) (count + 1) } := by
  obtain ⟨publication, rfl, -, hholds, hcopied, hstamped⟩ := h.copying now newest frame count hpc
  refine ⟨h.separate, h.epoch, fun other count' heq => ?_, nofun, h.latest,
    h.holds, fun now' newest' frame' count' heq => ?_, h.completed, h.samples, h.ordered⟩
  · obtain ⟨hle, hcontent, hother⟩ := h.storing other count' heq
    exact ⟨hle, hcontent, hother⟩
  · cases heq
    refine ⟨publication, rfl, hcount, hholds, ?_, hstamped⟩
    rw [hholds.2, hcopied, afterStores_succ]

theorem Sound.finish (h : s.Sound config) (newest : Option Publication) (now : ℤ)
    {result : SwerveEncoderSample K}
    (hsampled : (Sampled.mk newest s.reports now result).Sound config) :
    (s.finish newest now result).Sound config := by
  refine ⟨h.separate, h.epoch, fun publication count heq => ?_, nofun,
    h.latest, h.holds, (fun _ _ _ _ heq => nomatch heq), h.completed, fun sampled hmem => ?_, ?_⟩
  · obtain ⟨hle, hcontent, hstamped⟩ := h.storing publication count heq
    exact ⟨hle, hcontent, hstamped⟩
  · rcases List.mem_append.1 hmem with hold | hnew
    · exact h.samples sampled hold
    · rw [List.mem_singleton.1 hnew]
      exact ⟨hsampled, le_rfl⟩
  · refine List.pairwise_append.2 ⟨h.ordered, List.pairwise_singleton _ _, ?_⟩
    intro earlier hearlier later hlater
    rw [List.mem_singleton.1 hlater]
    exact (h.samples earlier hearlier).2

theorem Sound.stepObserve (h : s.Sound config) (nodeId index subindex rawPosition : ℕ)
    (receivedSteadyNs : ℤ) :
    (s.stepObserve config nodeId index subindex rawPosition receivedSteadyNs).Sound config := by
  unfold AxisRun.stepObserve
  cases hpc : s.observe with
  | idle =>
    dsimp only
    split
    · exact h
    · exact h.receive rawPosition receivedSteadyNs
  | storing publication count =>
    dsimp only
    split
    · exact h.store hpc ‹_›
    · exact h.complete hpc ‹_›

theorem Sound.stepSample (h : s.Sound config) (nowSteadyNs : ℤ) :
    (s.stepSample config nowSteadyNs).Sound config := by
  unfold AxisRun.stepSample
  cases hpc : s.sample with
  | idle =>
    dsimp only
    cases hfresh : s.slot.isFresh with
    | true => exact h.start nowSteadyNs hfresh
    | false =>
      cases hframe : s.slot.hasFrame with
      | true => exact h.keep nowSteadyNs hfresh hframe
      | false =>
        have hholds := h.holds hfresh
        cases hlast : s.completed.getLast? with
        | none => exact h.finish none nowSteadyNs ⟨rfl, nofun⟩
        | some publication =>
          rw [hlast] at hholds
          exact absurd hholds.1 (ne_true_of_eq_false hframe)
  | exchange now => exact h.take hpc
  | copying now newest frame count =>
    dsimp only
    split
    · exact h.copy hpc ‹_›
    · rename_i hcount
      obtain ⟨publication, rfl, hle, hholds, rfl, hstamped⟩ :=
        h.copying now newest frame count hpc
      obtain rfl : count = 3 := by omega
      refine h.finish (some publication) now ⟨?_, fun other heq => ?_⟩
      · rw [Frame.afterStores_all, h.epoch]
        rfl
      · cases heq
        exact hstamped

theorem Sound.step (h : s.Sound config) (label : AxisLabel) : (s.step config label).Sound config := by
  cases label with
  | observe nodeId index subindex rawPosition receivedSteadyNs =>
    exact h.stepObserve nodeId index subindex rawPosition receivedSteadyNs
  | observeNmt nodeId operational =>
    simp only [AxisRun.step, stepNmt]
    split
    · exact h
    · exact h.report
  | sample nowSteadyNs => exact h.stepSample nowSteadyNs

theorem Sound.reached (labels : List AxisLabel) :
    (run (AxisRun.step config) ({} : AxisRun K) labels).Sound config :=
  invariant_all (P := fun s : AxisRun K => s.Sound config) (fun _ label h => h.step label)
    Sound.initial labels

/-- No step writes the slot of the reader. -/
def ReadsUndisturbed (config : SwerveEncoderAxisConfig K) (s : AxisRun K) (label : AxisLabel) :
    Prop :=
  (s.step config label).slot.frames s.slot.front = s.slot.frames s.slot.front

theorem Sound.readsUndisturbed (h : s.Sound config) (label : AxisLabel) :
    s.ReadsUndisturbed config label := by
  cases label with
  | observe nodeId index subindex rawPosition receivedSteadyNs =>
    simp only [ReadsUndisturbed, AxisRun.step, AxisRun.stepObserve]
    split
    · split <;> rfl
    · split
      · exact Slot.frames_store_of_ne h.separate.back_front.symm _ _
      · rfl
  | observeNmt nodeId operational =>
    simp only [ReadsUndisturbed, AxisRun.step, stepNmt]
    split <;> rfl
  | sample nowSteadyNs =>
    simp only [ReadsUndisturbed, AxisRun.step, AxisRun.stepSample]
    split
    · split
      · rfl
      · split <;> rfl
    · rfl
    · split <;> rfl

end AxisRun

namespace Sampled

/-- A frame received before a report that an earlier sample has seen is not valid. -/
def Voided (earlier later : Sampled K) : Prop :=
  ∀ publication, later.newest = some publication → publication.reports < earlier.reports →
    later.result.valid = false

instance (earlier later : Sampled K) : Decidable (earlier.Voided later) :=
  inferInstanceAs (Decidable (∀ publication ∈ later.newest,
    publication.reports < earlier.reports → later.result.valid = false))

/-- Such a frame is valid again only when the epoch has returned to its value. -/
def VoidedUntilWrap (earlier later : Sampled K) : Prop :=
  ∀ publication, later.newest = some publication → publication.reports < earlier.reports →
    later.result.valid = true →
      ∃ wraps, 0 < wraps ∧ later.reports = publication.reports + wraps * epochBound

variable {config : SwerveEncoderAxisConfig K} {earlier later : Sampled K}

theorem Sound.voidedUntilWrap (h : later.Sound config) (hle : earlier.reports ≤ later.reports) :
    earlier.VoidedUntilWrap later := by
  intro publication hnewest hseen hvalid
  have hmod := h.modEq_of_valid hnewest hvalid
  have hlt : publication.reports < later.reports := hseen.trans_le hle
  obtain ⟨wraps, hwraps⟩ := (Nat.modEq_iff_dvd' hlt.le).1 hmod
  refine ⟨wraps, Nat.pos_of_ne_zero ?_, ?_⟩
  · rintro rfl
    omega
  · rw [mul_comm, ← hwraps]
    omega

end Sampled

namespace AxisRun

/-- For every interleaving the indices are a permutation of the slots, the reader's slot is not
written, each sample is decided on the newest completed publication, and a frame received before a
report that a sample has seen stays invalid until the epoch has wrapped. -/
theorem encoder_exchange_sound (config : SwerveEncoderAxisConfig K) (labels : List AxisLabel) :
    let s := run (step config) ({} : AxisRun K) labels
    [s.slot.back, s.slot.middleIndex, s.slot.front].Perm [0, 1, 2] ∧
      (∀ sampled ∈ s.samples, sampled.Sound config) ∧
      s.samples.Pairwise Sampled.VoidedUntilWrap ∧
      Along (step config) (ReadsUndisturbed config) ({} : AxisRun K) labels := by
  have hsound : (run (step config) ({} : AxisRun K) labels).Sound config := Sound.reached labels
  refine ⟨Distinct.perm hsound.separate, fun sampled hmem => (hsound.samples sampled hmem).1, ?_, ?_⟩
  · refine hsound.ordered.imp_of_mem fun _ hlater hle => ?_
    exact (hsound.samples _ hlater).1.voidedUntilWrap hle
  · exact along_of_invariant (P := fun s : AxisRun K => s.Sound config)
      (fun _ label h => h.step label) (fun _ label h => h.readsUndisturbed label)
      Sound.initial labels

theorem run_reports (config : SwerveEncoderAxisConfig K) (s : AxisRun K)
    (hepoch : s.slot.nmtEpoch < epochBound) (count : ℕ) :
    run (step config) s (List.replicate count (.observeNmt config.nodeId false)) =
      { s with
        slot := { s.slot with nmtEpoch := (s.slot.nmtEpoch + count) % epochBound }
        reports := s.reports + count } := by
  induction count with
  | zero =>
    rw [Nat.add_zero, Nat.mod_eq_of_lt hepoch]
    rfl
  | succ count ih =>
    rw [List.replicate_succ', run_snoc, ih]
    simp only [step, stepNmt, ne_eq, not_true, Bool.false_eq_true, or_self, if_false,
      Nat.mod_add_mod, Nat.add_assoc]

namespace Bench

def config : SwerveEncoderAxisConfig ℚ where
  nodeId := 1
  countsPerRevolution := 4096
  ringGearTeeth := 1
  pinionGearTeeth := 1
  direction := 1
  installationOffsetRad := 0
  encoderRevolutions := 0
  node_pos := Nat.one_pos
  node_le := Numeral.one_le_sevenBits
  counts_pos := by decide
  ring_pos := Nat.one_pos
  pinion_pos := Nat.one_pos
  direction_unit := by decide

/-- A frame is published, the node leaves operational and a sample sees it. -/
def voided : List AxisLabel :=
  List.replicate 5 (.observe 1 0x6004 0 7 1) ++ [.observeNmt 1 false] ++
    List.replicate 6 (.sample 2)

/-- The node leaves operational until the epoch returns to its first value. -/
def wrapped : AxisRun ℚ :=
  run (step config) (run (step config) {} voided)
    (List.replicate (2 ^ 32 - 1) (.observeNmt config.nodeId false))

theorem wrapped_eq : wrapped =
    { run (step config) {} voided with
      slot := { (run (step config) {} voided).slot with nmtEpoch := 0 }, reports := 2 ^ 32 } := by
  have hepoch : (run (step config) {} voided).slot.nmtEpoch = 1 := by decide +kernel
  have hreports : (run (step config) {} voided).reports = 1 := by decide +kernel
  have hbound : (run (step config) {} voided).slot.nmtEpoch < epochBound := by
    rw [hepoch]
    decide
  rw [wrapped, run_reports config _ hbound, hepoch, hreports]
  rfl

end Bench

/-- The epoch has wrapped and the frame is valid again. -/
theorem wrapped_epoch_revives_frame :
    ¬∀ labels, (run (step Bench.config) {} labels).samples.Pairwise Sampled.Voided := by
  intro h
  have hrevived := h (Bench.voided ++ List.replicate (2 ^ 32 - 1)
    (.observeNmt Bench.config.nodeId false) ++ List.replicate 5 (.sample 3))
  rw [run_append, run_append, ← Bench.wrapped, Bench.wrapped_eq] at hrevived
  revert hrevived
  decide +kernel

end AxisRun

end RobotDriver.Canopen
