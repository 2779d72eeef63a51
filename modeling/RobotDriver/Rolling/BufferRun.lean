import RobotDriver.Lib.LabelledRun
import RobotDriver.Rolling.Admission

/-!
# Runs of the rolling buffer

Sequences of `reset`, `prepare` and `commit`, each `commit` with the candidate of the last accepted
`prepare`. The image stays well formed, keeps its samples up to every knot, and follows admissible
segments or initial pieces of them.
-/

namespace RobotDriver.Rolling

open LabelledRun

variable {K : Type*} [Field K] [LinearOrder K] [SquareRoot K]

inductive BufferCall (K : Type*)
  | reset (anchor : JointPoint K)
  | prepare (batch : BatchView K) (context : AdmissionContext)
  | commit (context : AdmissionContext)

/-- The field `committedNs` records the execution time of the last accepted `commit`. -/
structure BufferRun (K : Type*) [Field K] [LinearOrder K] where
  buffer : RollingBuffer K
  prepared : Option (BatchView K × TrajectoryImage K) := none
  committedNs : ℕ := 0

namespace BufferRun

variable (s : BufferRun K)

def step (s : BufferRun K) : BufferCall K → BufferRun K
  | .reset anchor =>
    match s.buffer.reset anchor with
    | none => { s with prepared := none }
    | some buffer => { s with buffer, prepared := none }
  | .prepare batch context =>
    match s.buffer.prepare batch context with
    | .error _ => { s with prepared := none }
    | .ok candidate => { s with prepared := some (batch, candidate) }
  | .commit context =>
    match s.prepared with
    | none => s
    | some (_, candidate) =>
      match s.buffer.commit candidate context with
      | .error _ => s
      | .ok buffer => { buffer, prepared := none, committedNs := context.executionTimeNs }

/-- The code that a `prepare` or a `commit` returns. -/
def returns (s : BufferRun K) : BufferCall K → Option RejectCode
  | .reset _ => none
  | .prepare batch context =>
    some (match s.buffer.prepare batch context with | .error code => code | .ok _ => .none)
  | .commit context => s.prepared.map fun prepared =>
    match s.buffer.commit prepared.2 context with | .error code => code | .ok _ => .none

/-- A call that returns a reason changes nothing in the buffer. -/
def KeepsOnRefusal (s : BufferRun K) (call : BufferCall K) : Prop :=
  ∀ code, s.returns call = some code → code ≠ .none → (s.step call).buffer = s.buffer

/-- An accepted `commit` keeps the samples from the first point of the new image to the knot. -/
def KeepsPrefix (s : BufferRun K) (call : BufferCall K) : Prop :=
  ∀ context, call = .commit context → s.returns call = some .none →
    ∀ batch candidate, s.prepared = some (batch, candidate) → s.buffer.image.points ≠ [] →
      ∀ timeNs, (s.step call).buffer.image.Starts timeNs → timeNs ≤ batch.replaceFromNs →
        sampleTrajectoryImage (s.step call).buffer.image timeNs =
          sampleTrajectoryImage s.buffer.image timeNs

/-- A segment of the image. It starts an admissible segment, and it is admissible itself if it is
the whole of that segment or if that segment is resolved. -/
def SegmentSound (checker : LimitChecker K) (start end' : JointPoint K) : Prop :=
  ∃ original, PieceOf checker start end' original ∧
    (end' = original ∨ ResolvedSegment start original → checker.Admissible start end')

structure Represents : Prop where
  increasing : Increasing s.buffer.image.points
  two_le : 2 ≤ s.buffer.image.points.length
  le_capacity : s.buffer.image.points.length ≤ s.buffer.configuration.capacity
  covers : s.buffer.image.covers s.committedNs
  horizon : ∀ last ∈ s.buffer.image.points.getLast?,
    last.timeNs ≤ s.committedNs + s.buffer.configuration.maxHorizonNs
  segments : s.buffer.image.points.IsChain (SegmentSound s.buffer.limitChecker)

structure Sound : Prop where
  buffer : SoundBuffer s.buffer
  prepared : ∀ batch candidate, s.prepared = some (batch, candidate) →
    ∃ context knot kept, Prepares s.buffer batch context candidate knot kept
  committed : s.buffer.image.points ≠ [] → s.buffer.image.covers s.committedNs ∧
    ∀ last ∈ s.buffer.image.points.getLast?,
      last.timeNs ≤ s.committedNs + s.buffer.configuration.maxHorizonNs

variable {s}

omit [SquareRoot K] in
theorem commit_eq_ok {buffer buffer' : RollingBuffer K} {candidate : TrajectoryImage K}
    {context : AdmissionContext} (h : buffer.commit candidate context = .ok buffer') :
    buffer' = { buffer with image := candidate } ∧
      context.replaceableFromNs ≤ candidate.earliestChangedNs ∧
      buffer.validateHorizon candidate context = .none := by
  unfold RollingBuffer.commit at h
  split at h
  · cases h
  rename_i hreplaceable
  split at h
  · rename_i hhorizon
    cases h
    exact ⟨rfl, not_lt.1 hreplaceable, hhorizon⟩
  · cases h

theorem keepsOnRefusal (call : BufferCall K) : s.KeepsOnRefusal call := by
  intro code hreturns hcode
  cases call with
  | reset anchor => cases hreturns
  | prepare batch context =>
    simp only [step]
    split <;> rfl
  | commit context =>
    simp only [step]
    split
    · rfl
    · rename_i batch candidate hprepared
      simp only [returns, hprepared, Option.map_some] at hreturns
      split
      · rfl
      · rename_i buffer hcommit
        rw [hcommit] at hreturns
        exact absurd (Option.some.inj hreturns).symm hcode

theorem Sound.initial (configuration : BufferConfiguration K) (checker : LimitChecker K) :
    Sound { buffer := { configuration, limitChecker := checker } } where
  buffer := ⟨rfl, fun hnonempty => absurd rfl hnonempty, Nat.zero_le _⟩
  prepared _ _ hprepared := nomatch hprepared
  committed hnonempty := absurd rfl hnonempty

theorem step_limitChecker (s : BufferRun K) (call : BufferCall K) :
    (s.step call).buffer.limitChecker = s.buffer.limitChecker := by
  cases call with
  | reset anchor =>
    simp only [step, RollingBuffer.reset]
    split
    · rfl
    · rename_i buffer hreset
      split at hreset
      · cases hreset
      split at hreset
      · cases hreset
      · cases hreset
        rfl
  | prepare batch context =>
    simp only [step]
    split <;> rfl
  | commit context =>
    simp only [step]
    split
    · rfl
    · split
      · rfl
      · rename_i hcommit
        rw [(commit_eq_ok hcommit).1]

variable [IsStrictOrderedRing K]

theorem Sound.step (h : s.Sound) (call : BufferCall K) : (s.step call).Sound := by
  cases call with
  | reset anchor =>
    simp only [BufferRun.step]
    split
    · exact ⟨h.buffer, nofun, h.committed⟩
    · rename_i buffer hreset
      unfold RollingBuffer.reset at hreset
      split at hreset
      · cases hreset
      rename_i hanchor
      split at hreset
      · cases hreset
      cases hreset
      exact ⟨⟨not_not.1 hanchor, fun hnonempty => absurd rfl hnonempty, Nat.zero_le _⟩,
        nofun, fun hnonempty => absurd rfl hnonempty⟩
  | prepare batch context =>
    simp only [BufferRun.step]
    split
    · exact ⟨h.buffer, nofun, h.committed⟩
    · rename_i candidate hprepare
      refine ⟨h.buffer, fun batch' candidate' hprepared => ?_, h.committed⟩
      cases hprepared
      obtain ⟨knot, kept, hprepares⟩ := prepare_eq_ok hprepare
      exact ⟨context, knot, kept, hprepares⟩
  | commit context =>
    simp only [BufferRun.step]
    split
    · exact h
    · rename_i batch candidate hprepared
      split
      · exact h
      · rename_i buffer hcommit
        obtain ⟨rfl, -, hhorizon⟩ := commit_eq_ok hcommit
        obtain ⟨context', knot, kept, hprepares⟩ := h.prepared batch candidate hprepared
        obtain ⟨hcovers, hmaximum, -⟩ := validateHorizon_eq_none hhorizon
        exact ⟨⟨h.buffer.anchor, fun _ => hprepares.soundPoints h.buffer,
          hprepares.points_le_capacity⟩, nofun,
          fun _ => ⟨hcovers, hmaximum⟩⟩

theorem Sound.keepsPrefix (h : s.Sound) (call : BufferCall K) : s.KeepsPrefix call := by
  rintro context rfl hreturns batch candidate hprepared hnonempty timeNs hstarts htime
  obtain ⟨context', knot, kept, hprepares⟩ := h.prepared batch candidate hprepared
  simp only [returns, hprepared, Option.map_some] at hreturns
  simp only [BufferRun.step, hprepared] at hstarts ⊢
  cases hcommit : s.buffer.commit candidate context with
  | error code => rfl
  | ok buffer =>
    rw [hcommit] at hstarts
    obtain ⟨rfl, -, -⟩ := commit_eq_ok hcommit
    exact (hprepares.extends_image h.buffer hnonempty).sample timeNs hstarts htime

end BufferRun

theorem PieceOf.segmentSound {checker : LimitChecker ℝ} {start end' original : JointPoint ℝ}
    (h : PieceOf checker start end' original)
    (hwhole : end' = original ∨ ResolvedSegment start original) :
    checker.Admissible start end' := by
  rcases hwhole with rfl | hresolved
  · exact h.admissible
  · exact (h.stoppable_of_original hresolved).admissible

/-- For every sequence of calls the image is well formed and every segment of it starts an
admissible one, every refused call leaves the buffer as it is, and every accepted one keeps the
samples up to its knot. -/
theorem BufferRun.representation (configuration : BufferConfiguration ℝ) (checker : LimitChecker ℝ)
    (calls : List (BufferCall ℝ)) :
    ((run step { buffer := { configuration, limitChecker := checker } } calls).buffer.image.points ≠
        [] → (run step { buffer := { configuration, limitChecker := checker } } calls).Represents) ∧
      Along step (fun s call => s.KeepsOnRefusal call ∧ s.KeepsPrefix call)
        { buffer := { configuration, limitChecker := checker } } calls := by
  have hsound := fun calls => invariant_all (P := fun s : BufferRun ℝ => s.Sound)
    (fun _ call h => h.step call) (Sound.initial configuration checker) calls
  constructor
  · intro hnonempty
    have hfinal := hsound calls
    obtain ⟨hcovers, hhorizon⟩ := hfinal.committed hnonempty
    obtain ⟨hincreasing, htwo, hpieces⟩ := hfinal.buffer.points hnonempty
    refine ⟨hincreasing, htwo, hfinal.buffer.capacity, hcovers, hhorizon, hpieces.imp ?_⟩
    rintro start end' ⟨original, hpiece⟩
    exact ⟨original, hpiece, hpiece.segmentSound⟩
  · rw [along_iff_split]
    intro before call after _
    exact ⟨keepsOnRefusal call, (hsound before).keepsPrefix call⟩

/-- One axis moves, the others rest at zero. -/
def pointView (timeNs : ℕ) (position velocity : ℚ) : PointView ℚ :=
  ⟨timeNs, some position :: List.replicate 13 (some 0), some velocity :: List.replicate 13 (some 0)⟩

namespace NearDegenerate

def duration : ℚ := seconds (2 ^ 50)

/-- The normalised leading coefficient of the derivative is half the root tolerance. -/
def curve : CubicPolynomial ℚ := ⟨1 / 2, duration, -duration, 2 * duration / (3 * 2 ^ 47)⟩

/-- The upper limit is the bound that the check computes for the whole segment. -/
def checker : LimitChecker ℚ where
  envelope _ := ⟨-1, curve.eval (1 / 2) + 1 / 2, 2, 2, 2, 2, 1, 1, 0, 0⟩
  valid _ := by
    constructor <;> norm_num [curve, CubicPolynomial.eval, duration, seconds, AxisEnvelope.safeLower,
      AxisEnvelope.safeUpper]

def configuration : BufferConfiguration ℚ :=
  { BufferConfiguration.tight with maxHorizonNs := 2 ^ 51, maxHorizonNs_pos := by norm_num }

def cutPhase : ℚ := (2 ^ 49 + 2) / 2 ^ 50

def cutNs : ℕ := 10 ^ 9 + 2 ^ 49 + 2

def first : BatchView ℚ where
  replaceFromNs := 0
  points := [pointView 0 0 0, pointView (10 ^ 9) (1 / 2) 1,
    pointView (10 ^ 9 + 2 ^ 50) (curve.eval 1) (curve.deriv 1 / duration)]
  final := false

def second : BatchView ℚ where
  replaceFromNs := cutNs
  points := [pointView cutNs (curve.eval cutPhase) (curve.deriv cutPhase / duration),
    pointView (cutNs + 10 ^ 9) (curve.eval cutPhase + curve.deriv cutPhase / duration / 2) 0]
  final := true

def calls : List (BufferCall ℚ) :=
  [.prepare first { priming := true }, .commit { priming := true },
    .prepare second { priming := true }, .commit { priming := true }]

/-- The cut ends above the position that the check has computed as the maximum. -/
theorem cut_segment_refused :
    ¬(run BufferRun.step { buffer := { configuration, limitChecker := checker } }
      calls).buffer.image.points.IsChain checker.Admissible := by
  decide +kernel

end NearDegenerate

end RobotDriver.Rolling
