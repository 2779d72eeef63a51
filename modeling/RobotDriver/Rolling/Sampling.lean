import RobotDriver.Rolling.RollingBuffer
import RobotDriver.Rolling.SegmentViability

/-!
# Samples of a trajectory image

A sample lies on the cubic between two neighbouring points. Cutting a segment at one of its own
samples leaves the samples before the cut as they are, so a splice keeps the image up to the knot.
-/

namespace RobotDriver.Rolling

theorem phase_start {K : Type*} [Field K] {start end' : JointPoint K} :
    phase start end' start.timeNs = 0 := by
  rw [phase, sub_self, zero_div]

section Seek

variable {K : Type*} {timeNs : ℕ} {current : JointPoint K} {points : List (JointPoint K)}

/-- The times of the points increase. -/
def Increasing (points : List (JointPoint K)) : Prop := points.Pairwise (·.timeNs < ·.timeNs)

theorem seek_cons_of_head_le (hnonempty : points ≠ [])
    (h : ∀ first ∈ points.head?, first.timeNs ≤ timeNs) :
    seek timeNs (current :: points) = seek timeNs points := by
  cases points with
  | nil => exact absurd rfl hnonempty
  | cons first rest => rw [seek, if_pos (h first rfl)]

theorem seek_drop (hincreasing : Increasing points) {index : ℕ}
    (hindex : ∀ point, points[index]? = some point → point.timeNs ≤ timeNs)
    (hlength : index < points.length) : seek timeNs (points.drop index) = seek timeNs points := by
  induction index generalizing points with
  | zero => rw [List.drop_zero]
  | succ index ih =>
    cases points with
    | nil => simp at hlength
    | cons current points =>
      have hpoints : points ≠ [] := by
        intro h
        rw [h] at hlength
        simp at hlength
      have hlt : index < points.length := by simpa using hlength
      have hrest := ih hincreasing.of_cons (fun point hpoint => hindex point hpoint) hlt
      rw [List.drop_succ_cons, hrest, seek_cons_of_head_le hpoints]
      intro first hfirst
      have hle := hindex _ (List.getElem?_eq_getElem hlt)
      cases points with
      | nil => cases hfirst
      | cons next rest =>
        obtain rfl : next = first := Option.some.inj hfirst
        rcases index with - | index
        · exact hle
        · have hmem : (next :: rest)[index + 1] ∈ rest := by
            rw [List.getElem_cons_succ]
            exact List.getElem_mem _
          exact (List.rel_of_pairwise_cons hincreasing.of_cons hmem).le.trans hle

theorem seek_suffix : seek timeNs points <:+ points := by
  induction points with
  | nil => exact List.suffix_rfl
  | cons current points ih =>
    cases points with
    | nil => exact List.suffix_rfl
    | cons next rest =>
      rw [seek]
      split
      · exact ih.trans (List.suffix_cons _ _)
      · exact List.suffix_rfl

theorem seek_head_le (h : ∀ first ∈ points.head?, first.timeNs ≤ timeNs) :
    ∀ first ∈ (seek timeNs points).head?, first.timeNs ≤ timeNs := by
  induction points with
  | nil => exact h
  | cons current points ih =>
    cases points with
    | nil => exact h
    | cons next rest =>
      rw [seek]
      split
      · apply ih
        intro first hfirst
        cases hfirst
        assumption
      · exact h

theorem seek_getLast? : (seek timeNs points).getLast? = points.getLast? := by
  induction points with
  | nil => rfl
  | cons current points ih =>
    cases points with
    | nil => rfl
    | cons next rest =>
      rw [seek]
      split
      · rw [ih, List.getLast?_cons_cons]
      · rfl

theorem seek_ne_nil (h : points ≠ []) : seek timeNs points ≠ [] := by
  intro hnil
  have hlast : (seek timeNs points).getLast? = points.getLast? := seek_getLast?
  rw [hnil] at hlast
  exact h (List.getLast?_eq_none_iff.1 hlast.symm)

theorem increasing_splice {tail : List (JointPoint K)} {knot : JointPoint K} {cutNs : ℕ}
    (hincreasing : Increasing points) (htail : Increasing (knot :: tail))
    (hknot : knot.timeNs = cutNs) :
    Increasing (points.takeWhile (·.timeNs < cutNs) ++ knot :: tail) := by
  refine List.pairwise_append.2 ⟨hincreasing.sublist (List.takeWhile_sublist _), htail, ?_⟩
  intro kept hkept later hlater
  have hbefore : kept.timeNs < cutNs := by
    simpa using List.all_eq_true.1 List.all_takeWhile kept hkept
  rcases List.mem_cons.1 hlater with rfl | hmem
  · rwa [hknot]
  · exact (hbefore.trans_eq hknot.symm).trans (List.rel_of_pairwise_cons htail hmem)

end Seek

variable {K : Type*} [Field K] [LinearOrder K]

/-- The cubic of one axis over the unit interval. -/
def segmentCubic (start end' : JointPoint K) (axis : Axis) : CubicPolynomial K :=
  .hermite (start.positions axis)
    (seconds (end'.timeNs - start.timeNs) * start.velocities axis) (end'.positions axis)
    (seconds (end'.timeNs - start.timeNs) * end'.velocities axis)

/-- The point of the segment at a time. -/
def motion (start end' : JointPoint K) (timeNs : ℕ) : JointPoint K where
  timeNs := timeNs
  positions axis := (segmentCubic start end' axis).eval (phase start end' timeNs)
  velocities axis := (segmentCubic start end' axis).deriv (phase start end' timeNs) /
    seconds (end'.timeNs - start.timeNs)

variable {start end' : JointPoint K} {timeNs : ℕ}

theorem axisSegment_cubic {axis : Axis} {segment : CubicHermite K}
    (h : axisSegment start end' axis = some segment) :
    segment.cubic = segmentCubic start end' axis ∧
      segment.durationSeconds = seconds (end'.timeNs - start.timeNs) := by
  obtain ⟨hbuilt, hx, hv, hx', hv', hduration⟩ := CubicHermite.built_of_build h
  refine ⟨?_, hduration⟩
  rw [hbuilt.cubic_eq, hx, hv, hx', hv', hduration]
  rfl

def lookup (timeNs : ℕ) (points : List (JointPoint K)) : Option (JointPoint K) :=
  sampleAt timeNs (seek timeNs points)

section Basic

variable {current next knot : JointPoint K} {points rest tail : List (JointPoint K)}

theorem lookup_of_next_le (h : next.timeNs ≤ timeNs) :
    lookup timeNs (current :: next :: rest) = lookup timeNs (next :: rest) := by
  rw [lookup, seek, if_pos h, lookup]

theorem lookup_of_lt_next (h : timeNs < next.timeNs) :
    lookup timeNs (current :: next :: rest) =
      if timeNs = current.timeNs then some current else sampleSegment current next timeNs := by
  rw [lookup, seek, if_neg (not_le.2 h)]
  rfl

theorem lookup_singleton :
    lookup timeNs [current] = if timeNs = current.timeNs then some current else none :=
  rfl

theorem lookup_cons_of_head_le (hnonempty : points ≠ [])
    (h : ∀ first ∈ points.head?, first.timeNs ≤ timeNs) :
    lookup timeNs (current :: points) = lookup timeNs points := by
  cases points with
  | nil => exact absurd rfl hnonempty
  | cons first rest => exact lookup_of_next_le (h first rfl)

theorem lookup_seek (hincreasing : Increasing points) {earlierNs : ℕ}
    (h : ∀ first ∈ (seek earlierNs points).head?, first.timeNs ≤ timeNs) :
    lookup timeNs (seek earlierNs points) = lookup timeNs points := by
  induction points with
  | nil => rfl
  | cons current points ih =>
    cases points with
    | nil => rfl
    | cons next rest =>
      rw [seek] at h ⊢
      split
      · rename_i hle
        rw [if_pos hle] at h
        rw [ih hincreasing.of_cons h]
        refine (lookup_cons_of_head_le (by simp) ?_).symm
        intro first hfirst
        cases hfirst
        have hlater : seek earlierNs (next :: rest) <:+ next :: rest := seek_suffix
        obtain ⟨before, hbefore⟩ := hlater
        cases hseek : seek earlierNs (next :: rest) with
        | nil => exact absurd hseek (seek_ne_nil (by simp))
        | cons reached after =>
          have hreached := h reached (by rw [hseek]; rfl)
          cases before with
          | nil =>
            rw [hseek] at hbefore
            cases hbefore
            exact hreached
          | cons other before =>
            rw [hseek] at hbefore
            cases hbefore
            exact (List.rel_of_pairwise_cons hincreasing.of_cons (by simp)).le.trans hreached
      · rfl

theorem lookup_head (hincreasing : Increasing (knot :: tail)) :
    lookup knot.timeNs (knot :: tail) = some knot := by
  cases tail with
  | nil => rw [lookup_singleton, if_pos rfl]
  | cons next rest =>
    have hlt := List.rel_of_pairwise_cons hincreasing List.mem_cons_self
    rw [lookup_of_lt_next hlt, if_pos rfl]

end Basic

section Image

variable {image : TrajectoryImage K}

theorem sampleTrajectoryImage_eq :
    sampleTrajectoryImage image timeNs =
      if image.covers timeNs then lookup timeNs image.points else none := by
  unfold sampleTrajectoryImage sampleTrajectoryImageMonotonic
  split
  · simp only [Bool.not_false, Bool.true_or, if_true, List.drop_zero, Option.map_map]
    exact congrFun Option.map_id _
  · rfl

end Image

variable [IsStrictOrderedRing K]

section Segment

theorem phase_mem (h : start.timeNs < end'.timeNs) (h0 : start.timeNs ≤ timeNs)
    (h1 : timeNs ≤ end'.timeNs) :
    0 ≤ phase (K := K) start end' timeNs ∧ phase (K := K) start end' timeNs ≤ 1 := by
  have hpos : (0 : K) < ((end'.timeNs - start.timeNs : ℕ) : K) :=
    Nat.cast_pos.2 (Nat.sub_pos_of_lt h)
  have hstart : (start.timeNs : K) ≤ timeNs := Nat.cast_le.2 h0
  have hend : (timeNs : K) ≤ end'.timeNs := Nat.cast_le.2 h1
  unfold phase
  refine ⟨div_nonneg (sub_nonneg.2 hstart) hpos.le, (div_le_one hpos).2 ?_⟩
  rw [Nat.cast_sub h.le]
  exact sub_le_sub_right hend _

theorem sampleAxis_eq (h : start.timeNs < end'.timeNs) (h0 : start.timeNs ≤ timeNs)
    (h1 : timeNs ≤ end'.timeNs) (axis : Axis) :
    ∃ acceleration, sampleAxis start end' timeNs axis =
      some ⟨(motion start end' timeNs).positions axis,
        (motion start end' timeNs).velocities axis, acceleration⟩ := by
  obtain ⟨segment, hsegment⟩ := axisSegment_isSome (K := K) h axis
  obtain ⟨hcubic, hduration⟩ := axisSegment_cubic hsegment
  obtain ⟨hp0, hp1⟩ := phase_mem (K := K) h h0 h1
  have hbuilt := (CubicHermite.built_of_build hsegment).1
  refine ⟨segment.acceleration (phase start end' timeNs), ?_⟩
  rw [sampleAxis, hsegment, Option.bind_some, hbuilt.sample hp0 hp1]
  simp only [CubicHermite.position, CubicHermite.velocity, hcubic, hduration, motion]

theorem sampleSegment_eq (h : start.timeNs < end'.timeNs) (h0 : start.timeNs ≤ timeNs)
    (h1 : timeNs ≤ end'.timeNs) :
    sampleSegment start end' timeNs = some (motion start end' timeNs) := by
  choose acceleration hsample using sampleAxis_eq (K := K) h h0 h1
  have hall : axes.all (fun axis => (sampleAxis start end' timeNs axis).isSome) = true := by
    rw [List.all_eq_true]
    intro axis _
    rw [hsample axis]
    rfl
  unfold sampleSegment
  rw [if_pos hall]
  simp only [hsample, Option.elim_some]
  rfl

theorem phase_end (h : start.timeNs < end'.timeNs) :
    phase (K := K) start end' end'.timeNs = 1 := by
  have hpos : (0 : K) < ((end'.timeNs - start.timeNs : ℕ) : K) :=
    Nat.cast_pos.2 (Nat.sub_pos_of_lt h)
  rw [phase, ← Nat.cast_sub h.le, div_self hpos.ne']

theorem motion_start (h : start.timeNs < end'.timeNs) : motion start end' start.timeNs = start := by
  have hpos := seconds_pos (K := K) (Nat.sub_pos_of_lt h)
  have hpositions : (motion start end' start.timeNs).positions = start.positions := by
    funext axis
    simp [motion, phase_start, segmentCubic, CubicPolynomial.hermite]
  have hvelocities : (motion start end' start.timeNs).velocities = start.velocities := by
    funext axis
    simp only [motion, phase_start, segmentCubic, CubicPolynomial.deriv_zero, CubicPolynomial.hermite]
    exact mul_div_cancel_left₀ _ hpos.ne'
  calc motion start end' start.timeNs
      = ⟨start.timeNs, (motion start end' start.timeNs).positions,
          (motion start end' start.timeNs).velocities⟩ := rfl
    _ = start := by rw [hpositions, hvelocities]

theorem motion_end (h : start.timeNs < end'.timeNs) : motion start end' end'.timeNs = end' := by
  have hpos := seconds_pos (K := K) (Nat.sub_pos_of_lt h)
  have hpositions : (motion start end' end'.timeNs).positions = end'.positions := by
    funext axis
    simp only [motion, phase_end h, segmentCubic, CubicPolynomial.hermite_eval_one]
  have hvelocities : (motion start end' end'.timeNs).velocities = end'.velocities := by
    funext axis
    simp only [motion, phase_end h, segmentCubic, CubicPolynomial.hermite_deriv_one]
    exact mul_div_cancel_left₀ _ hpos.ne'
  calc motion start end' end'.timeNs
      = ⟨end'.timeNs, (motion start end' end'.timeNs).positions,
          (motion start end' end'.timeNs).velocities⟩ := rfl
    _ = end' := by rw [hpositions, hvelocities]

end Segment

section Cut

variable {cutNs : ℕ}

theorem seconds_cut (h : start.timeNs < end'.timeNs) (h0 : start.timeNs < cutNs) :
    (seconds (cutNs - start.timeNs) : K) =
      phase start end' cutNs * seconds (end'.timeNs - start.timeNs) := by
  have hpos : ((end'.timeNs - start.timeNs : ℕ) : K) ≠ 0 :=
    (Nat.cast_pos.2 (Nat.sub_pos_of_lt h)).ne'
  rw [seconds, seconds, phase, Nat.cast_sub h0.le, div_mul_div_cancel₀ hpos]

theorem segmentCubic_cut (h : start.timeNs < end'.timeNs) (h0 : start.timeNs < cutNs)
    (axis : Axis) : segmentCubic start (motion start end' cutNs) axis =
      (segmentCubic start end' axis).rescale (phase start end' cutNs) := by
  have hpos := seconds_pos (K := K) (Nat.sub_pos_of_lt h)
  have hduration : (seconds ((motion start end' cutNs).timeNs - start.timeNs) : K) =
      phase start end' cutNs * seconds (end'.timeNs - start.timeNs) := seconds_cut h h0
  rw [← CubicPolynomial.hermite_rescale, segmentCubic, hduration, mul_assoc]
  congr 1
  rw [mul_assoc]
  congr 1
  exact mul_div_cancel₀ _ hpos.ne'

theorem phase_cut (h0 : start.timeNs < cutNs) :
    phase start end' cutNs * phase start (motion start end' cutNs) timeNs =
      phase (K := K) start end' timeNs := by
  have hcut : ((cutNs : K) - start.timeNs) ≠ 0 := sub_ne_zero.2 (Nat.cast_lt.2 h0).ne'
  have htime : (motion start end' cutNs).timeNs = cutNs := rfl
  rw [phase, phase, phase, htime, Nat.cast_sub h0.le, mul_comm, div_mul_div_cancel₀ hcut]

theorem motion_cut (h : start.timeNs < end'.timeNs) (h0 : start.timeNs < cutNs) :
    motion start (motion start end' cutNs) timeNs = motion start end' timeNs := by
  have hphase : phase start end' cutNs * phase start (motion start end' cutNs) timeNs =
      phase (K := K) start end' timeNs := phase_cut h0
  have hcut : phase (K := K) start end' cutNs ≠ 0 := by
    have hpos : (0 : K) < ((end'.timeNs - start.timeNs : ℕ) : K) :=
      Nat.cast_pos.2 (Nat.sub_pos_of_lt h)
    exact div_ne_zero (sub_ne_zero.2 (Nat.cast_lt.2 h0).ne') hpos.ne'
  have hduration : (seconds ((motion start end' cutNs).timeNs - start.timeNs) : K) =
      phase start end' cutNs * seconds (end'.timeNs - start.timeNs) := seconds_cut h h0
  have hpositions : (motion start (motion start end' cutNs) timeNs).positions =
      (motion start end' timeNs).positions := by
    funext axis
    change (segmentCubic start (motion start end' cutNs) axis).eval _ = _
    rw [segmentCubic_cut h h0, CubicPolynomial.eval_rescale, hphase]
    rfl
  have hvelocities : (motion start (motion start end' cutNs) timeNs).velocities =
      (motion start end' timeNs).velocities := by
    funext axis
    change (segmentCubic start (motion start end' cutNs) axis).deriv _ /
      seconds ((motion start end' cutNs).timeNs - start.timeNs) = _
    rw [segmentCubic_cut h h0, CubicPolynomial.deriv_rescale, hphase, hduration,
      mul_div_mul_left _ _ hcut]
    rfl
  calc motion start (motion start end' cutNs) timeNs
      = ⟨timeNs, (motion start (motion start end' cutNs) timeNs).positions,
          (motion start (motion start end' cutNs) timeNs).velocities⟩ := rfl
    _ = motion start end' timeNs := by rw [hpositions, hvelocities]; rfl

end Cut

section Lookup

variable {knot : JointPoint K} {points tail : List (JointPoint K)}

theorem lookup_timeNs (hincreasing : Increasing points) {point : JointPoint K}
    (h : lookup timeNs points = some point)
    (hhead : ∀ first ∈ points.head?, first.timeNs ≤ timeNs) : point.timeNs = timeNs := by
  induction points with
  | nil => cases h
  | cons current points ih =>
    cases points with
    | nil =>
      rw [lookup_singleton] at h
      split at h
      · rename_i htime
        rw [htime, Option.some.inj h]
      · cases h
    | cons next rest =>
      have hlt := List.rel_of_pairwise_cons hincreasing List.mem_cons_self
      by_cases hnext : next.timeNs ≤ timeNs
      · rw [lookup_of_next_le hnext] at h
        apply ih hincreasing.of_cons h
        intro first hfirst
        cases hfirst
        exact hnext
      · rw [not_le] at hnext
        rw [lookup_of_lt_next hnext] at h
        split at h
        · rename_i htime
          rw [htime, Option.some.inj h]
        · rw [sampleSegment_eq hlt (hhead current rfl) hnext.le] at h
          rw [← Option.some.inj h]
          rfl

theorem lookup_splice (hincreasing : Increasing points) {spliceNs : ℕ}
    (hknot : lookup spliceNs points = some knot) (htail : Increasing (knot :: tail))
    (hhead : ∀ first ∈ points.head?, first.timeNs ≤ timeNs) (htime : timeNs ≤ spliceNs) :
    lookup timeNs (points.takeWhile (·.timeNs < spliceNs) ++ knot :: tail) =
      lookup timeNs points := by
  have hknotTime : knot.timeNs = spliceNs := lookup_timeNs hincreasing hknot
    fun first hfirst => (hhead first hfirst).trans htime
  have hat : timeNs = spliceNs → lookup timeNs (knot :: tail) = lookup timeNs points := by
    intro heq
    rw [heq, hknot, ← hknotTime, lookup_head htail]
  induction points with
  | nil => cases hknot
  | cons current points ih =>
    have hcurrent := hhead current rfl
    by_cases hbefore : current.timeNs < spliceNs
    · rw [List.takeWhile_cons_of_pos (by simpa using hbefore), List.cons_append]
      cases points with
      | nil =>
        rw [lookup_singleton] at hknot
        split at hknot
        · omega
        · cases hknot
      | cons next rest =>
        have hlt := List.rel_of_pairwise_cons hincreasing List.mem_cons_self
        by_cases hnext : next.timeNs ≤ timeNs
        · rw [lookup_of_next_le (hnext.trans htime)] at hknot
          rw [lookup_of_next_le hnext] at hat ⊢
          rw [lookup_cons_of_head_le (by simp)]
          · apply ih hincreasing.of_cons hknot _ hat
            intro first hfirst
            cases hfirst
            exact hnext
          · intro first hfirst
            by_cases hnextBefore : next.timeNs < spliceNs
            · rw [List.takeWhile_cons_of_pos (by simpa using hnextBefore)] at hfirst
              cases hfirst
              exact hnext
            · rw [List.takeWhile_cons_of_neg (by simpa using hnextBefore)] at hfirst
              cases hfirst
              omega
        · rw [not_le] at hnext
          by_cases hnextBefore : next.timeNs < spliceNs
          · rw [List.takeWhile_cons_of_pos (by simpa using hnextBefore), List.cons_append,
              lookup_of_lt_next hnext, lookup_of_lt_next hnext]
          · rw [List.takeWhile_cons_of_neg (by simpa using hnextBefore), List.nil_append]
            rcases htime.eq_or_lt with heq | hlater
            · rw [lookup_of_next_le (by omega)]
              exact hat heq
            · rw [lookup_of_lt_next (hlater.trans_eq hknotTime.symm), lookup_of_lt_next hnext]
              split
              · rfl
              · rename_i hcurrentNe
                rcases (not_lt.1 hnextBefore).eq_or_lt with heq | hsplice
                · rw [heq, lookup_of_next_le le_rfl, lookup_head hincreasing.of_cons] at hknot
                  rw [Option.some.inj hknot]
                · rw [lookup_of_lt_next hsplice, if_neg hbefore.ne',
                    sampleSegment_eq hlt hbefore.le hsplice.le] at hknot
                  obtain rfl := Option.some.inj hknot
                  rw [sampleSegment_eq hbefore hcurrent hlater.le,
                    sampleSegment_eq hlt hcurrent hnext.le, motion_cut hlt hbefore]
    · rw [List.takeWhile_cons_of_neg (by simpa using hbefore), List.nil_append]
      exact hat (le_antisymm htime (le_trans (not_lt.1 hbefore) hcurrent))

end Lookup

end RobotDriver.Rolling
