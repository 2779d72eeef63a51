import RobotDriver.Rolling.Admission

/-!
# Relations between images

An image that a session has published stays related to every later one: they sample alike up to the
earliest time that changed. All images of a session start at its anchor, and a kept cursor samples
like a fresh one.
-/

namespace RobotDriver.Rolling

variable {K : Type*}

theorem TrajectoryImage.Starts.mono {image : TrajectoryImage K} {s t : ℕ} (h : image.Starts s)
    (hst : s ≤ t) : image.Starts t := by
  obtain ⟨first, hfirst, hle⟩ := h
  exact ⟨first, hfirst, hle.trans hst⟩

/-- The cursor does not stand behind the times it has been used for. -/
def MonotonicTrajectoryCursor.Fits (cursor : MonotonicTrajectoryCursor)
    (image : TrajectoryImage K) : Prop :=
  ∀ point, image.points[cursor.pointIndex]? = some point → point.timeNs ≤ cursor.lastTimeNs

section Cursor

variable {image : TrajectoryImage K} {timeNs : ℕ} {cursor : MonotonicTrajectoryCursor}

theorem seek_getElem? {points : List (JointPoint K)} :
    points[points.length - (seek timeNs points).length]? = (seek timeNs points).head? := by
  obtain ⟨before, hbefore⟩ : seek timeNs points <:+ points := seek_suffix
  have hlength : points.length - (seek timeNs points).length = before.length := by
    have htotal := congrArg List.length hbefore
    rw [List.length_append] at htotal
    omega
  rw [hlength]
  conv_lhs => rw [← hbefore]
  rw [List.getElem?_append_right le_rfl, Nat.sub_self, List.head?_eq_getElem?]

/-- Seeking from the cursor finds what seeking from the first point finds. -/
theorem seek_cursor (hincreasing : Increasing image.points)
    (hcursor : cursor.generation = image.generation → cursor.Fits image) :
    seek timeNs (image.points.drop
      (if !cursor.initialized || cursor.generation ≠ image.generation ||
          timeNs < cursor.lastTimeNs || image.points.length ≤ cursor.pointIndex then 0
        else cursor.pointIndex)) = seek timeNs image.points := by
  split
  · rfl
  · rename_i hkept
    simp only [Bool.or_eq_true, decide_eq_true_eq, not_or, not_not, not_lt, not_le] at hkept
    obtain ⟨⟨⟨-, hgeneration⟩, htime⟩, hindex⟩ := hkept
    exact seek_drop hincreasing
      (fun point hpoint => (hcursor hgeneration point hpoint).trans htime) hindex

variable [Field K] [LinearOrder K]

theorem sampleTrajectoryImageMonotonic_eq (timeNs : ℕ) (hincreasing : Increasing image.points)
    (hcursor : cursor.generation = image.generation → cursor.Fits image) :
    (sampleTrajectoryImageMonotonic image timeNs cursor).map (·.1) =
      sampleTrajectoryImage image timeNs := by
  rw [sampleTrajectoryImage_eq]
  unfold sampleTrajectoryImageMonotonic
  split
  · dsimp only
    rw [Option.map_map, seek_cursor hincreasing hcursor]
    exact congrFun Option.map_id _
  · rfl

theorem fits_of_sample (hincreasing : Increasing image.points)
    (hcursor : cursor.generation = image.generation → cursor.Fits image) {point : JointPoint K}
    {cursor' : MonotonicTrajectoryCursor}
    (h : sampleTrajectoryImageMonotonic image timeNs cursor = some (point, cursor')) :
    cursor'.Fits image := by
  unfold sampleTrajectoryImageMonotonic at h
  split at h
  · rename_i hcovers
    dsimp only at h
    rw [seek_cursor hincreasing hcursor, Option.map_eq_some_iff] at h
    obtain ⟨sampled, -, heq⟩ := h
    cases heq
    obtain ⟨⟨first, hfirst, hle⟩, -⟩ := TrajectoryImage.covers_iff.1 hcovers
    intro reached hreached
    rw [seek_getElem?] at hreached
    apply seek_head_le _ reached hreached
    intro other hother
    obtain rfl : first = other := Option.some.inj (hfirst.symm.trans hother)
    exact hle
  · cases h

end Cursor

variable [Field K] [LinearOrder K]

/-- The later image is the older one, or it extends it up to its earliest changed time. -/
structure Linked (older latest : TrajectoryImage K) : Prop where
  le : older.generation ≤ latest.generation
  same : older.generation = latest.generation → older = latest
  newer : older.generation < latest.generation → Extends older latest latest.earliestChangedNs

theorem Linked.refl (image : TrajectoryImage K) : Linked image image :=
  ⟨le_rfl, fun _ => rfl, fun h => absurd h (lt_irrefl _)⟩

/-- The image starts with the anchor when it starts at time zero. -/
def Anchored (anchor : JointPoint K) (image : TrajectoryImage K) : Prop :=
  image.Starts 0 → sampleTrajectoryImage image 0 = some anchor

variable [SquareRoot K]

/-- An image that `commit` may store. -/
structure SoundImage (checker : LimitChecker K) (image : TrajectoryImage K) : Prop where
  points : SoundPoints checker image.points
  generation : 0 < image.generation
  ends : image.Ends image.earliestChangedNs
  rest : image.final → ∀ last ∈ image.points.getLast?, ∀ axis, last.velocities axis = 0

namespace Prepares

variable {buffer : RollingBuffer K} {batch : BatchView K} {context : AdmissionContext}
  {candidate older : TrajectoryImage K} {knot : JointPoint K} {kept : List (JointPoint K)}

omit [SquareRoot K] in
theorem earliest_le : (buffer.candidate batch context knot kept).earliestChangedNs ≤
    batch.replaceFromNs := by
  unfold RollingBuffer.candidate
  dsimp only
  split
  · exact min_le_right _ _
  · exact le_rfl

theorem generation_eq (h : Prepares buffer batch context candidate knot kept) :
    candidate.generation = buffer.image.generation + 1 := by
  rw [h.eq_candidate]
  rfl

variable [IsStrictOrderedRing K]

theorem soundImage (h : Prepares buffer batch context candidate knot kept)
    (hbuffer : SoundBuffer buffer) : SoundImage buffer.limitChecker candidate where
  points := h.soundPoints hbuffer
  generation := by
    rw [h.generation_eq]
    exact Nat.succ_pos _
  ends := by
    apply h.candidate_ends hbuffer
    rw [h.eq_candidate]
    exact earliest_le
  rest := by
    intro hfinal last hlast axis
    obtain ⟨htwo, -, -, hrest⟩ := validateInput_eq_none h.valid
    rw [h.eq_candidate] at hfinal hlast
    cases hpoints : batch.points with
    | nil =>
      rw [hpoints] at htwo
      simp at htwo
    | cons first rest =>
      cases rest with
      | nil =>
        rw [hpoints] at htwo
        simp at htwo
      | cons second rest =>
        have hsame : (kept ++ knot :: (second :: rest).map copyPoint).getLast? =
            ((second :: rest).getLast?).map copyPoint := by
          rw [List.map_cons, List.getLast?_append, List.getLast?_cons_cons, ← List.map_cons,
            List.getLast?_map, List.getLast?_cons]
          rfl
        have hcandidate : (buffer.candidate batch context knot kept).points =
            kept ++ knot :: (second :: rest).map copyPoint := by
          rw [RollingBuffer.candidate, hpoints]
          rfl
        rw [hcandidate, hsame, Option.mem_def, Option.map_eq_some_iff] at hlast
        obtain ⟨view, hview, rfl⟩ := hlast
        apply hrest hfinal view
        rw [hpoints, List.getLast?_cons_cons]
        exact hview

theorem linked (h : Prepares buffer batch context candidate knot kept)
    (hbuffer : SoundBuffer buffer) (hnonempty : buffer.image.points ≠ [])
    (holder : Linked older buffer.image)
    (hcontext : context.activeGeneration < buffer.image.generation ∨ older = buffer.image) :
    Linked older candidate := by
  have hgeneration := h.generation_eq
  have hextends := h.extends_image hbuffer hnonempty
  have hle := holder.le
  refine ⟨by omega, fun heq => by omega, fun _ => ?_⟩
  have hreplace : candidate.earliestChangedNs ≤ batch.replaceFromNs := by
    rw [h.eq_candidate]
    exact earliest_le
  by_cases hsame : older = buffer.image
  · rw [hsame]
    exact (Extends.refl _ _).trans hextends le_rfl hreplace
  · have hlt : older.generation < buffer.image.generation := by
      have hne := mt holder.same hsame
      omega
    have hactive := hcontext.resolve_right hsame
    have hearliest : candidate.earliestChangedNs ≤ buffer.image.earliestChangedNs := by
      rw [h.eq_candidate, RollingBuffer.candidate]
      dsimp only
      rw [if_pos hactive]
      exact min_le_left _ _
    exact (holder.newer hlt).trans hextends hearliest hreplace

theorem anchored (h : Prepares buffer batch context candidate knot kept)
    (hbuffer : SoundBuffer buffer)
    (himage : buffer.image.points ≠ [] → Anchored buffer.anchor buffer.image) :
    Anchored buffer.anchor candidate := by
  intro hstarts
  by_cases hnonempty : buffer.image.points = []
  · have hsuffix := h.increasing_suffix hbuffer
    have hends := h.candidate_ends hbuffer (Nat.zero_le batch.replaceFromNs)
    cases splice_eq_ok h.splice with
    | anchor empty first execution knot_eq kept_eq =>
      have hpoints : candidate.points = knot :: batch.points.tail.map copyPoint := by
        rw [h.eq_candidate, RollingBuffer.candidate, kept_eq, List.nil_append]
      have htime : knot.timeNs = 0 := by rw [knot_eq, hbuffer.anchor]
      have hhead := lookup_head hsuffix
      rw [htime] at hhead
      rw [sampleTrajectoryImage_eq, if_pos (TrajectoryImage.covers_iff.2 ⟨hstarts, hends⟩),
        hpoints, hhead, knot_eq]
    | image nonempty => exact absurd hnonempty nonempty
  · have hextends := h.extends_image hbuffer hnonempty
    rw [hextends.sample 0 hstarts (Nat.zero_le _)]
    exact himage hnonempty (hextends.starts 0 hstarts)

end Prepares

end RobotDriver.Rolling
