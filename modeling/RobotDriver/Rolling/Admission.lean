import RobotDriver.Rolling.Sampling

/-!
# Pieces of admissible segments

Between two knots an image follows an admissible segment or an initial piece of one. Splices keep
that, and a piece of a resolved segment passes the checks again.
-/

namespace RobotDriver.Rolling

variable {K : Type*} [Field K] [LinearOrder K] {checker : LimitChecker K}
  {start end' : JointPoint K} {cutNs : ℕ}

section Piece

variable [SquareRoot K]

/-- The segment starts an admissible one. -/
structure PieceOf (checker : LimitChecker K) (start end' original : JointPoint K) : Prop where
  admissible : checker.Admissible start original
  increasing : start.timeNs < end'.timeNs
  le_original : end'.timeNs ≤ original.timeNs
  eq_motion : end' = motion start original end'.timeNs

def Piece (checker : LimitChecker K) (start end' : JointPoint K) : Prop :=
  ∃ original, PieceOf checker start end' original

theorem LimitChecker.Admissible.increasing (h : checker.Admissible start end') :
    start.timeNs < end'.timeNs :=
  (LimitChecker.admissible_iff.1 h).1

theorem Piece.increasing (h : Piece checker start end') : start.timeNs < end'.timeNs := by
  obtain ⟨original, h⟩ := h
  exact h.increasing

end Piece

variable [IsStrictOrderedRing K]

theorem phase_pos (h : start.timeNs < end'.timeNs) (h0 : start.timeNs < cutNs) :
    0 < phase (K := K) start end' cutNs :=
  div_pos (sub_pos.2 (Nat.cast_lt.2 h0)) (Nat.cast_pos.2 (Nat.sub_pos_of_lt h))

theorem StoppableWith.cut {extrema : SegmentExtrema K}
    (h : StoppableWith checker start end' extrema) (h0 : start.timeNs < cutNs)
    (h1 : cutNs ≤ end'.timeNs) :
    StoppableWith checker start (motion start end' cutNs) extrema := by
  refine ⟨h0, fun axis segment' hsegment' => ?_, h.viable⟩
  obtain ⟨segment, hsegment⟩ := axisSegment_isSome (K := K) h.increasing axis
  obtain ⟨hcubic, hduration⟩ := axisSegment_cubic hsegment
  obtain ⟨hcubic', hduration'⟩ := axisSegment_cubic hsegment'
  have hencloses := h.encloses axis segment hsegment
  have hphase := phase_pos (K := K) h.increasing h0
  have hphaseLe := (phase_mem (K := K) h.increasing h0.le h1).2
  have hseconds : segment'.durationSeconds =
      phase start end' cutNs * segment.durationSeconds := by
    rw [hduration', hduration]
    exact seconds_cut h.increasing h0
  have hrescaled : segment'.cubic = segment.cubic.rescale (phase start end' cutNs) := by
    rw [hcubic', hcubic, segmentCubic_cut h.increasing h0]
  have hposition : ∀ t, segment'.position t = segment.position (phase start end' cutNs * t) := by
    intro t
    rw [CubicHermite.position, hrescaled, CubicPolynomial.eval_rescale]
    rfl
  have hvelocity : ∀ t, segment'.velocity t = segment.velocity (phase start end' cutNs * t) := by
    intro t
    rw [CubicHermite.velocity, hrescaled, CubicPolynomial.deriv_rescale, hseconds,
      mul_div_mul_left _ _ hphase.ne']
    rfl
  have hacceleration : ∀ t,
      segment'.acceleration t = segment.acceleration (phase start end' cutNs * t) := by
    intro t
    have hsquare : segment'.durationSeconds * segment'.durationSeconds =
        phase start end' cutNs ^ 2 * (segment.durationSeconds * segment.durationSeconds) := by
      rw [hseconds]
      ring
    rw [CubicHermite.acceleration, hrescaled, CubicPolynomial.second_rescale, hsquare,
      mul_div_mul_left _ _ (pow_pos hphase 2).ne']
    rfl
  have hmem : ∀ t : K, 0 ≤ t → t ≤ 1 →
      0 ≤ phase start end' cutNs * t ∧ phase start end' cutNs * t ≤ 1 :=
    fun t ht0 ht1 => ⟨mul_nonneg hphase.le ht0, mul_le_one₀ hphaseLe ht0 ht1⟩
  constructor
  · intro t ht0 ht1
    rw [hposition]
    exact hencloses.positionMin _ (hmem t ht0 ht1).1 (hmem t ht0 ht1).2
  · intro t ht0 ht1
    rw [hposition]
    exact hencloses.positionMax _ (hmem t ht0 ht1).1 (hmem t ht0 ht1).2
  · intro t ht0 ht1
    rw [hvelocity]
    exact hencloses.velocityPositive _ (hmem t ht0 ht1).1 (hmem t ht0 ht1).2
  · intro t ht0 ht1
    rw [hvelocity]
    exact hencloses.velocityNegative _ (hmem t ht0 ht1).1 (hmem t ht0 ht1).2
  · intro t ht0 ht1
    rw [hacceleration]
    exact hencloses.accelerationPositive _ (hmem t ht0 ht1).1 (hmem t ht0 ht1).2
  · intro t ht0 ht1
    rw [hacceleration]
    exact hencloses.accelerationNegative _ (hmem t ht0 ht1).1 (hmem t ht0 ht1).2
  · exact hencloses.velocityPositive_nonneg
  · exact hencloses.velocityNegative_nonneg
  · exact hencloses.accelerationPositive_nonneg
  · exact hencloses.accelerationNegative_nonneg

section Piece

variable [SquareRoot K]

theorem Piece.of_admissible (h : checker.Admissible start end') : Piece checker start end' :=
  ⟨end', h, h.increasing, le_rfl, (motion_end h.increasing).symm⟩

theorem Piece.cut (h : Piece checker start end') (h0 : start.timeNs < cutNs)
    (h1 : cutNs ≤ end'.timeNs) : Piece checker start (motion start end' cutNs) := by
  obtain ⟨original, hadmissible, -, hle, heq⟩ := h
  have hcut : motion start end' cutNs = motion start original cutNs := by
    rw [heq]
    exact motion_cut hadmissible.increasing (h0.trans_le h1)
  rw [hcut]
  exact ⟨original, hadmissible, h0, h1.trans hle, rfl⟩

theorem isChain_splice {points tail : List (JointPoint K)} {knot : JointPoint K}
    (hchain : points.IsChain (Piece checker)) (hincreasing : Increasing points)
    (hknot : lookup cutNs points = some knot) (hhead : ∀ first ∈ points.head?, first.timeNs ≤ cutNs)
    (htail : (knot :: tail).IsChain (Piece checker)) :
    (points.takeWhile (·.timeNs < cutNs) ++ knot :: tail).IsChain (Piece checker) := by
  induction points with
  | nil => exact htail
  | cons current points ih =>
    by_cases hbefore : current.timeNs < cutNs
    · rw [List.takeWhile_cons_of_pos (by simpa using hbefore), List.cons_append]
      cases points with
      | nil =>
        rw [lookup_singleton] at hknot
        split at hknot
        · omega
        · cases hknot
      | cons next rest =>
        rw [List.isChain_cons_cons] at hchain
        by_cases hnext : next.timeNs < cutNs
        · have hrest := ih hchain.2 hincreasing.of_cons
            (by rwa [lookup_of_next_le hnext.le] at hknot) (by
              intro first hfirst
              cases hfirst
              exact hnext.le)
          rw [List.takeWhile_cons_of_pos (by simpa using hnext), List.cons_append] at hrest ⊢
          exact List.isChain_cons_cons.2 ⟨hchain.1, hrest⟩
        · rw [List.takeWhile_cons_of_neg (by simpa using hnext), List.nil_append]
          refine List.isChain_cons_cons.2 ⟨?_, htail⟩
          rcases (not_lt.1 hnext).eq_or_lt with heq | hlater
          · rw [heq, lookup_of_next_le le_rfl, lookup_head hincreasing.of_cons] at hknot
            rw [← Option.some.inj hknot]
            exact hchain.1
          · rw [lookup_of_lt_next hlater, if_neg hbefore.ne',
              sampleSegment_eq hchain.1.increasing hbefore.le hlater.le] at hknot
            rw [← Option.some.inj hknot]
            exact hchain.1.cut hbefore hlater.le
    · rw [List.takeWhile_cons_of_neg (by simpa using hbefore), List.nil_append]
      exact htail

end Piece

theorem PieceOf.stoppable_of_original {checker : LimitChecker ℝ} {start end' original : JointPoint ℝ}
    (h : PieceOf checker start end' original) (hresolved : ResolvedSegment start original) :
    Stoppable checker start end' := by
  obtain ⟨extrema, hstoppable⟩ := stoppable_of_admissible hresolved h.admissible
  rw [h.eq_motion]
  exact ⟨extrema, hstoppable.cut h.increasing h.le_original⟩

end RobotDriver.Rolling

/-!
# Admission of a batch into the buffer

What an accepted `prepare` has established, and what the candidate is: a well-formed image that
samples like the old one up to the knot.
-/

namespace RobotDriver.Rolling

theorem increasing_of_validatePoints {K : Type*} [Field K] {points : List (PointView K)}
    {previousNs : Option ℕ} (h : RollingBuffer.validatePoints previousNs points = .none) :
    Increasing (points.map copyPoint) ∧
      ∀ first ∈ points.head?, ∀ previous ∈ previousNs, previous < first.timeNs := by
  induction points generalizing previousNs with
  | nil => exact ⟨.nil, nofun⟩
  | cons point rest ih =>
    rw [RollingBuffer.validatePoints] at h
    split at h
    · cases h
    split at h
    · cases h
    split at h
    · cases h
    rename_i hmonotonic
    obtain ⟨hrest, hnext⟩ := ih h
    refine ⟨?_, ?_⟩
    · rw [List.map_cons]
      refine List.pairwise_cons.2 ⟨fun later hlater => ?_, hrest⟩
      cases rest with
      | nil => cases hlater
      | cons next rest =>
        have hlt : point.timeNs < next.timeNs := hnext next rfl point.timeNs rfl
        rcases List.mem_cons.1 hlater with rfl | hmem
        · exact hlt
        · exact hlt.trans (List.rel_of_pairwise_cons hrest hmem)
    · intro first hfirst previous hprevious
      cases hfirst
      rw [Option.mem_def.1 hprevious] at hmonotonic
      simpa using hmonotonic

variable {K : Type*} [Field K] [LinearOrder K]

theorem validateInput_eq_none {buffer : RollingBuffer K} {batch : BatchView K}
    (h : buffer.validateInput batch = .none) : 2 ≤ batch.points.length ∧
      Increasing (batch.points.map copyPoint) ∧
      (∀ first ∈ batch.points.head?, first.timeNs = batch.replaceFromNs) ∧
      (batch.final → ∀ last ∈ batch.points.getLast?,
        ∀ axis, (copyPoint last).velocities axis = 0) := by
  unfold RollingBuffer.validateInput at h
  split at h
  · cases h
  rename_i hlength
  split at h
  · cases h
  split at h
  · rename_i hpoints
    split at h
    · cases h
    rename_i hfinal
    split at h
    · rename_i hfirst
      refine ⟨not_lt.1 hlength, (increasing_of_validatePoints hpoints).1, ?_, ?_⟩
      · intro first hmem
        rw [Option.mem_def.1 hmem] at hfirst
        simpa using hfirst
      · intro hbatch last hmem axis
        rw [hbatch, Option.mem_def.1 hmem] at hfinal
        have hzero : ∀ velocity ∈ last.velocities, velocity = some 0 := by
          simpa using hfinal
        change (last.velocities[axis.val]?.join).getD 0 = 0
        cases hentry : last.velocities[axis.val]? with
        | none => rfl
        | some velocity =>
          rw [hzero velocity (List.mem_of_getElem? hentry)]
          rfl
    · cases h
  · rename_i hcode
    exact absurd h hcode

namespace TrajectoryImage

/-- The first point is not after the time. -/
def Starts (image : TrajectoryImage K) (timeNs : ℕ) : Prop :=
  ∃ first ∈ image.points.head?, first.timeNs ≤ timeNs

/-- The last point is not before the time. -/
def Ends (image : TrajectoryImage K) (timeNs : ℕ) : Prop :=
  ∃ last ∈ image.points.getLast?, timeNs ≤ last.timeNs

omit [Field K] [LinearOrder K] in
theorem covers_iff {image : TrajectoryImage K} {timeNs : ℕ} :
    image.covers timeNs = true ↔ image.Starts timeNs ∧ image.Ends timeNs := by
  simp [covers, Starts, Ends, Option.any_eq_true]

end TrajectoryImage

/-- The newer image samples like the older one from its first point up to `untilNs`. -/
structure Extends (older newer : TrajectoryImage K) (untilNs : ℕ) : Prop where
  starts : ∀ timeNs, newer.Starts timeNs → older.Starts timeNs
  sample : ∀ timeNs, newer.Starts timeNs → timeNs ≤ untilNs →
    sampleTrajectoryImage newer timeNs = sampleTrajectoryImage older timeNs

theorem Extends.refl (image : TrajectoryImage K) (untilNs : ℕ) : Extends image image untilNs :=
  ⟨fun _ h => h, fun _ _ _ => rfl⟩

theorem Extends.trans {a b c : TrajectoryImage K} {first second untilNs : ℕ}
    (hab : Extends a b first) (hbc : Extends b c second) (hfirst : untilNs ≤ first)
    (hsecond : untilNs ≤ second) : Extends a c untilNs where
  starts timeNs h := hab.starts timeNs (hbc.starts timeNs h)
  sample timeNs hstarts htime := (hbc.sample timeNs hstarts (htime.trans hsecond)).trans
    (hab.sample timeNs (hbc.starts timeNs hstarts) (htime.trans hfirst))

variable [SquareRoot K]

/-- The points of an accepted image. -/
structure SoundPoints (checker : LimitChecker K) (points : List (JointPoint K)) : Prop where
  increasing : Increasing points
  two_le : 2 ≤ points.length
  pieces : points.IsChain (Piece checker)

structure SoundBuffer (buffer : RollingBuffer K) : Prop where
  anchor : buffer.anchor.timeNs = 0
  points : buffer.image.points ≠ [] → SoundPoints buffer.limitChecker buffer.image.points
  capacity : buffer.image.points.length ≤ buffer.configuration.capacity

/-- An accepted `prepare`. -/
structure Prepares (buffer : RollingBuffer K) (batch : BatchView K) (context : AdmissionContext)
    (candidate : TrajectoryImage K) (knot : JointPoint K) (kept : List (JointPoint K)) : Prop where
  valid : buffer.validateInput batch = .none
  generation : buffer.image.generation ≠ maxUint64
  splice : buffer.splice batch context = .ok (knot, kept)
  capacity : kept.length + batch.points.length ≤ buffer.configuration.capacity
  horizon : buffer.validateHorizon candidate context = .none
  suffix : buffer.checkSuffix (knot :: batch.points.tail.map copyPoint) = .none
  eq_candidate : candidate = buffer.candidate batch context knot kept

theorem prepare_eq_ok {buffer : RollingBuffer K} {batch : BatchView K} {context : AdmissionContext}
    {candidate : TrajectoryImage K} (h : buffer.prepare batch context = .ok candidate) :
    ∃ knot kept, Prepares buffer batch context candidate knot kept := by
  unfold RollingBuffer.prepare at h
  split at h
  · rename_i hvalid
    split at h
    · cases h
    rename_i hgeneration
    split at h
    · cases h
    rename_i knot kept hsplice
    split at h
    · split at h
      · cases h
      rename_i hcapacity
      split at h
      · rename_i hhorizon
        split at h
        · rename_i hsuffix
          cases h
          exact ⟨knot, kept, hvalid, hgeneration, hsplice, not_lt.1 hcapacity, hhorizon, hsuffix,
            rfl⟩
        · cases h
      · cases h
    · cases h
  · cases h

theorem isChain_of_checkSuffix {buffer : RollingBuffer K} {points : List (JointPoint K)}
    (h : buffer.checkSuffix points = .none) : points.IsChain buffer.limitChecker.Admissible := by
  induction points with
  | nil => exact .nil
  | cons start points ih =>
    cases points with
    | nil => exact .singleton _
    | cons end' rest =>
      rw [RollingBuffer.checkSuffix] at h
      split at h
      · rename_i direct hdirect
        exact absurd h (LimitChecker.checkSegment_error hdirect)
      · rename_i extrema hextrema
        split at h
        · rename_i viable hviable
          exact absurd h (LimitChecker.checkStoppingViability_error hviable)
        · rename_i envelope henvelope
          exact List.isChain_cons_cons.2 ⟨⟨extrema, envelope, hextrema, henvelope⟩, ih h⟩

theorem checkSuffix_of_isChain {buffer : RollingBuffer K} {points : List (JointPoint K)}
    (h : points.IsChain buffer.limitChecker.Admissible) : buffer.checkSuffix points = .none := by
  induction points with
  | nil => rfl
  | cons start points ih =>
    cases points with
    | nil => rfl
    | cons end' rest =>
      obtain ⟨⟨extrema, envelope, hsegment, hviable⟩, hrest⟩ := List.isChain_cons_cons.1 h
      rw [RollingBuffer.checkSuffix, hsegment]
      dsimp only
      rw [hviable]
      exact ih hrest

/-- Where the knot of an accepted batch comes from. -/
inductive KnotSource (buffer : RollingBuffer K) (batch : BatchView K) (context : AdmissionContext)
    (knot : JointPoint K) (kept : List (JointPoint K)) : Prop
  | anchor (empty : buffer.image.points = []) (first : batch.replaceFromNs = 0)
      (execution : context.executionTimeNs = 0) (knot_eq : knot = buffer.anchor) (kept_eq : kept = [])
  | image (nonempty : buffer.image.points ≠ [])
      (replaceable : context.replaceableFromNs ≤ batch.replaceFromNs)
      (covered : buffer.image.covers context.executionTimeNs)
      (knot_eq : sampleTrajectoryImage buffer.image batch.replaceFromNs = some knot)
      (kept_eq : kept = (seek context.executionTimeNs buffer.image.points).takeWhile
        (·.timeNs < batch.replaceFromNs))

omit [SquareRoot K] in
theorem splice_eq_ok {buffer : RollingBuffer K} {batch : BatchView K} {context : AdmissionContext}
    {knot : JointPoint K} {kept : List (JointPoint K)}
    (h : buffer.splice batch context = .ok (knot, kept)) :
    KnotSource buffer batch context knot kept := by
  unfold RollingBuffer.splice at h
  split at h
  · rename_i hempty
    split at h
    · cases h
    rename_i hfirst
    split at h
    · cases h
    rename_i hexecution
    cases h
    exact .anchor hempty (not_not.1 hfirst) (not_not.1 hexecution) rfl rfl
  · rename_i hnonempty
    split at h
    · cases h
    rename_i hreplaceable
    split at h
    · cases h
    rename_i hcovered
    split at h
    · cases h
    · rename_i point hpoint
      cases h
      exact .image hnonempty (not_lt.1 hreplaceable) (by simpa using hcovered) hpoint rfl

omit [SquareRoot K] in
theorem validateHorizon_eq_none {buffer : RollingBuffer K} {candidate : TrajectoryImage K}
    {context : AdmissionContext} (h : buffer.validateHorizon candidate context = .none) :
    candidate.covers context.executionTimeNs ∧
      (∀ last ∈ candidate.points.getLast?,
        last.timeNs ≤ context.executionTimeNs + buffer.configuration.maxHorizonNs) ∧
      (context.priming = false → ∀ last ∈ candidate.points.getLast?,
        context.executionTimeNs + context.minimumHorizonNs < last.timeNs) := by
  unfold RollingBuffer.validateHorizon at h
  split at h
  · cases h
  rename_i hcovers
  dsimp only at h
  split at h
  · cases h
  rename_i hminimum
  split at h
  · cases h
  rename_i hmaximum
  refine ⟨by simpa using hcovers, fun last hlast => ?_, fun hpriming last hlast => ?_⟩
  · rw [Option.mem_def.1 hlast, Option.elim_some] at hmaximum
    omega
  · rw [Option.mem_def.1 hlast, Option.elim_some, hpriming] at hminimum
    have hlt : ¬last.timeNs - context.executionTimeNs ≤ context.minimumHorizonNs := by
      simpa only [Bool.not_false, Bool.true_and, decide_eq_true_eq] using hminimum
    omega

namespace Prepares

variable {buffer : RollingBuffer K} {batch : BatchView K} {context : AdmissionContext}
  {candidate : TrajectoryImage K} {knot : JointPoint K} {kept : List (JointPoint K)}

theorem two_le_points (h : Prepares buffer batch context candidate knot kept) :
    2 ≤ candidate.points.length := by
  obtain ⟨htwo, -, -, -⟩ := validateInput_eq_none h.valid
  rw [h.eq_candidate, RollingBuffer.candidate]
  simp only [List.length_append, List.length_cons, List.length_map, List.length_tail]
  omega

theorem points_le_capacity (h : Prepares buffer batch context candidate knot kept) :
    candidate.points.length ≤ buffer.configuration.capacity := by
  obtain ⟨htwo, -, -, -⟩ := validateInput_eq_none h.valid
  have hcapacity := h.capacity
  rw [h.eq_candidate, RollingBuffer.candidate]
  simp only [List.length_append, List.length_cons, List.length_map, List.length_tail]
  omega

theorem image_covers (h : Prepares buffer batch context candidate knot kept)
    (hnonempty : buffer.image.points ≠ []) : buffer.image.covers batch.replaceFromNs ∧
      lookup batch.replaceFromNs buffer.image.points = some knot ∧
      kept = (seek context.executionTimeNs buffer.image.points).takeWhile
        (·.timeNs < batch.replaceFromNs) := by
  cases splice_eq_ok h.splice with
  | anchor empty => exact absurd empty hnonempty
  | image _ _ _ knot_eq kept_eq =>
    rw [sampleTrajectoryImage_eq] at knot_eq
    split at knot_eq
    · exact ⟨‹_›, knot_eq, kept_eq⟩
    · cases knot_eq

theorem lookup_kept (h : Prepares buffer batch context candidate knot kept)
    (hbuffer : SoundBuffer buffer) (hnonempty : buffer.image.points ≠ []) (hkept : kept ≠ []) :
    (∀ first ∈ (seek context.executionTimeNs buffer.image.points).head?,
        first.timeNs < batch.replaceFromNs ∧ kept.head? = some first) ∧
      lookup batch.replaceFromNs (seek context.executionTimeNs buffer.image.points) =
        some knot := by
  obtain ⟨-, hlookup, hkept_eq⟩ := h.image_covers hnonempty
  have hhead : ∀ first ∈ (seek context.executionTimeNs buffer.image.points).head?,
      first.timeNs < batch.replaceFromNs ∧ kept.head? = some first := by
    intro first hfirst
    rw [hkept_eq] at hkept ⊢
    cases hseek : seek context.executionTimeNs buffer.image.points with
    | nil =>
      rw [hseek] at hfirst
      cases hfirst
    | cons current rest =>
      rw [hseek] at hfirst hkept
      obtain rfl : current = first := Option.some.inj hfirst
      by_cases hlt : current.timeNs < batch.replaceFromNs
      · rw [List.takeWhile_cons_of_pos (by simpa using hlt)]
        exact ⟨hlt, rfl⟩
      · rw [List.takeWhile_cons_of_neg (by simpa using hlt)] at hkept
        exact absurd rfl hkept
  refine ⟨hhead, ?_⟩
  rw [lookup_seek (hbuffer.points hnonempty).increasing fun first hfirst => (hhead first hfirst).1.le]
  exact hlookup

variable [IsStrictOrderedRing K]

theorem knot_timeNs (h : Prepares buffer batch context candidate knot kept)
    (hbuffer : SoundBuffer buffer) : knot.timeNs = batch.replaceFromNs := by
  cases splice_eq_ok h.splice with
  | anchor empty first execution knot_eq kept_eq => rw [knot_eq, hbuffer.anchor, first]
  | image nonempty replaceable covered knot_eq kept_eq =>
    rw [sampleTrajectoryImage_eq] at knot_eq
    split at knot_eq
    · rename_i hcovers
      obtain ⟨⟨first, hfirst, hle⟩, -⟩ := TrajectoryImage.covers_iff.1 hcovers
      apply lookup_timeNs (hbuffer.points nonempty).increasing knot_eq
      intro other hother
      obtain rfl : first = other := Option.some.inj (hfirst.symm.trans hother)
      exact hle
    · cases knot_eq

theorem increasing_suffix (h : Prepares buffer batch context candidate knot kept)
    (hbuffer : SoundBuffer buffer) :
    Increasing (knot :: batch.points.tail.map copyPoint) := by
  obtain ⟨-, hincreasing, hfirst, -⟩ := validateInput_eq_none h.valid
  have hknot := h.knot_timeNs hbuffer
  cases hpoints : batch.points with
  | nil => exact List.pairwise_singleton _ _
  | cons first rest =>
    rw [hpoints, List.map_cons] at hincreasing
    rw [hpoints] at hfirst
    have htime : first.timeNs = batch.replaceFromNs := hfirst first rfl
    refine List.pairwise_cons.2 ⟨fun later hlater => ?_, hincreasing.of_cons⟩
    rw [hknot, ← htime]
    exact List.rel_of_pairwise_cons hincreasing hlater

theorem chain_suffix (h : Prepares buffer batch context candidate knot kept) :
    (knot :: batch.points.tail.map copyPoint).IsChain (Piece buffer.limitChecker) :=
  (isChain_of_checkSuffix h.suffix).imp fun _ _ => Piece.of_admissible

theorem soundPoints (h : Prepares buffer batch context candidate knot kept)
    (hbuffer : SoundBuffer buffer) : SoundPoints buffer.limitChecker candidate.points := by
  have hsuffix := h.increasing_suffix hbuffer
  have hpoints : candidate.points = kept ++ knot :: batch.points.tail.map copyPoint := by
    rw [h.eq_candidate]
    rfl
  by_cases hempty : kept = []
  · rw [hempty, List.nil_append] at hpoints
    refine ⟨?_, h.two_le_points, ?_⟩
    · rw [hpoints]
      exact hsuffix
    · rw [hpoints]
      exact h.chain_suffix
  · have hnonempty : buffer.image.points ≠ [] := by
      intro hnil
      cases splice_eq_ok h.splice with
      | anchor _ _ _ _ kept_eq => exact hempty kept_eq
      | image nonempty => exact nonempty hnil
    have hsound := hbuffer.points hnonempty
    obtain ⟨-, -, hkept_eq⟩ := h.image_covers hnonempty
    obtain ⟨hhead, hlookup⟩ := h.lookup_kept hbuffer hnonempty hempty
    have hincreasing : Increasing (seek context.executionTimeNs buffer.image.points) :=
      hsound.increasing.sublist seek_suffix.sublist
    have hchain : (seek context.executionTimeNs buffer.image.points).IsChain
        (Piece buffer.limitChecker) := hsound.pieces.suffix seek_suffix
    refine ⟨?_, h.two_le_points, ?_⟩
    · rw [hpoints, hkept_eq]
      exact increasing_splice hincreasing hsuffix (h.knot_timeNs hbuffer)
    · rw [hpoints, hkept_eq]
      exact isChain_splice hchain hincreasing hlookup
        (fun first hfirst => (hhead first hfirst).1.le) h.chain_suffix

theorem candidate_ends (h : Prepares buffer batch context candidate knot kept)
    (hbuffer : SoundBuffer buffer) {timeNs : ℕ} (htime : timeNs ≤ batch.replaceFromNs) :
    candidate.Ends timeNs := by
  have hpoints : candidate.points = kept ++ knot :: batch.points.tail.map copyPoint := by
    rw [h.eq_candidate]
    rfl
  have hsuffix := h.increasing_suffix hbuffer
  have hknot := h.knot_timeNs hbuffer
  rw [TrajectoryImage.Ends, hpoints, List.getLast?_append]
  cases hlast : (knot :: batch.points.tail.map copyPoint).getLast? with
  | none => simp at hlast
  | some last =>
    refine ⟨last, rfl, ?_⟩
    rcases List.mem_cons.1 (List.mem_of_getLast? hlast) with rfl | hmem
    · omega
    · have hlt := List.rel_of_pairwise_cons hsuffix hmem
      omega

theorem extends_image (h : Prepares buffer batch context candidate knot kept)
    (hbuffer : SoundBuffer buffer) (hnonempty : buffer.image.points ≠ []) :
    Extends buffer.image candidate batch.replaceFromNs := by
  have hsound := hbuffer.points hnonempty
  have hsuffix := h.increasing_suffix hbuffer
  have hknot := h.knot_timeNs hbuffer
  obtain ⟨hcovers, hlookup, hkept_eq⟩ := h.image_covers hnonempty
  obtain ⟨⟨imageFirst, himageFirst, himageLe⟩, hends⟩ := TrajectoryImage.covers_iff.1 hcovers
  have hpoints : candidate.points = kept ++ knot :: batch.points.tail.map copyPoint := by
    rw [h.eq_candidate]
    rfl
  have hsample : ∀ timeNs, buffer.image.Starts timeNs → candidate.Starts timeNs →
      timeNs ≤ batch.replaceFromNs →
      lookup timeNs candidate.points = lookup timeNs buffer.image.points →
        sampleTrajectoryImage candidate timeNs = sampleTrajectoryImage buffer.image timeNs := by
    intro timeNs himage hcandidate htime heq
    obtain ⟨last, hlast, hle⟩ := hends
    rw [sampleTrajectoryImage_eq, sampleTrajectoryImage_eq,
      if_pos (TrajectoryImage.covers_iff.2 ⟨hcandidate, h.candidate_ends hbuffer htime⟩),
      if_pos (TrajectoryImage.covers_iff.2 ⟨himage, last, hlast, htime.trans hle⟩), heq]
  by_cases hempty : kept = []
  · rw [hempty, List.nil_append] at hpoints
    have hstarts : ∀ timeNs, candidate.Starts timeNs → batch.replaceFromNs ≤ timeNs := by
      rintro timeNs ⟨first, hfirst, hle⟩
      rw [hpoints] at hfirst
      cases hfirst
      omega
    have hstartsImage : ∀ timeNs, candidate.Starts timeNs → buffer.image.Starts timeNs :=
      fun timeNs hcandidate =>
        ⟨imageFirst, himageFirst, himageLe.trans (hstarts timeNs hcandidate)⟩
    refine ⟨hstartsImage, fun timeNs hcandidate htime => ?_⟩
    apply hsample timeNs (hstartsImage timeNs hcandidate) hcandidate htime
    obtain rfl : timeNs = batch.replaceFromNs := le_antisymm htime (hstarts timeNs hcandidate)
    rw [hlookup, hpoints, ← hknot, lookup_head hsuffix]
  · obtain ⟨hhead, hlookupKept⟩ := h.lookup_kept hbuffer hnonempty hempty
    have hheadTime : ∀ timeNs, candidate.Starts timeNs →
        ∀ first ∈ (seek context.executionTimeNs buffer.image.points).head?,
          first.timeNs ≤ timeNs := by
      rintro timeNs ⟨other, hother, hle⟩ first hfirst
      rw [hpoints, List.head?_append, (hhead first hfirst).2] at hother
      cases hother
      exact hle
    have hstartsImage : ∀ timeNs, candidate.Starts timeNs → buffer.image.Starts timeNs := by
      intro timeNs hcandidate
      refine ⟨imageFirst, himageFirst, ?_⟩
      cases hseek : seek context.executionTimeNs buffer.image.points with
      | nil => exact absurd hseek (seek_ne_nil hnonempty)
      | cons current rest =>
        have hcurrent := hheadTime timeNs hcandidate current (by rw [hseek]; rfl)
        obtain ⟨before, hbefore⟩ :
            seek context.executionTimeNs buffer.image.points <:+ buffer.image.points := seek_suffix
        rw [hseek] at hbefore
        cases before with
        | nil =>
          rw [← hbefore] at himageFirst
          cases himageFirst
          exact hcurrent
        | cons earlier before =>
          have hincreasing := hsound.increasing
          rw [← hbefore] at himageFirst hincreasing
          cases himageFirst
          exact (List.rel_of_pairwise_cons hincreasing (by simp)).le.trans hcurrent
    refine ⟨hstartsImage, fun timeNs hcandidate htime => ?_⟩
    apply hsample timeNs (hstartsImage timeNs hcandidate) hcandidate htime
    have hincreasing : Increasing (seek context.executionTimeNs buffer.image.points) :=
      hsound.increasing.sublist seek_suffix.sublist
    rw [hpoints, hkept_eq, lookup_splice hincreasing hlookupKept hsuffix
      (hheadTime timeNs hcandidate) htime, lookup_seek hsound.increasing
      (hheadTime timeNs hcandidate)]

end Prepares

end RobotDriver.Rolling
