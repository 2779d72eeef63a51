import RobotDriver.Lib.BoundedMotion
import RobotDriver.Rolling.Admission

/-!
# The acceleration along an image

An image of pieces of admissible segments moves within the acceleration limits between any two of
its samples, so its velocities grow at most linearly from the anchor at rest.
-/

namespace RobotDriver.Rolling

variable {K : Type*} [Field K] [LinearOrder K]

/-- Every axis moves from one point to the other within its acceleration limit. -/
structure MovesWithin (limit : Axis → K) (start end' : JointPoint K) : Prop where
  le : start.timeNs ≤ end'.timeNs
  axis : ∀ axis, BoundedMotion (limit axis) (seconds (end'.timeNs - start.timeNs))
    (start.positions axis) (start.velocities axis) (end'.positions axis) (end'.velocities axis)

def LimitChecker.accelerationLimit (checker : LimitChecker K) (axis : Axis) : K :=
  max (checker.envelope axis).accelerationPositive (checker.envelope axis).accelerationNegative

/-- The speed that the acceleration limits allow when the motion started at rest at time zero. -/
def Paced (limit : Axis → K) (point : JointPoint K) : Prop :=
  ∀ axis, |point.velocities axis| ≤ limit axis * seconds point.timeNs

variable [IsStrictOrderedRing K] {limit : Axis → K} {a b c start end' : JointPoint K}

omit [LinearOrder K] [IsStrictOrderedRing K] in
theorem seconds_add (m n : ℕ) : (seconds (m + n) : K) = seconds m + seconds n := by
  rw [seconds, seconds, seconds, Nat.cast_add, add_div]

theorem MovesWithin.refl (a : JointPoint K) : MovesWithin limit a a where
  le := le_rfl
  axis axis := by
    have hzero : (seconds (a.timeNs - a.timeNs) : K) = 0 := by simp [seconds]
    rw [hzero]
    exact .refl

theorem MovesWithin.trans (h : MovesWithin limit a b) (h' : MovesWithin limit b c) :
    MovesWithin limit a c where
  le := h.le.trans h'.le
  axis axis := by
    have hle := h.le
    have hle' := h'.le
    have hsplit : c.timeNs - a.timeNs = (b.timeNs - a.timeNs) + (c.timeNs - b.timeNs) := by omega
    rw [hsplit, seconds_add]
    exact (h.axis axis).trans (h'.axis axis)

theorem Paced.of_movesWithin (h : Paced limit a) (hmoves : MovesWithin limit a b) :
    Paced limit b := by
  intro axis
  have hle := hmoves.le
  have hsplit : b.timeNs = a.timeNs + (b.timeNs - a.timeNs) := by omega
  calc |b.velocities axis|
      ≤ |a.velocities axis| + limit axis * seconds (b.timeNs - a.timeNs) :=
        (hmoves.axis axis).speed_le
    _ ≤ limit axis * seconds a.timeNs + limit axis * seconds (b.timeNs - a.timeNs) :=
        add_le_add_left (h axis) _
    _ = limit axis * seconds b.timeNs := by
        rw [← mul_add, ← seconds_add, ← hsplit]

theorem seconds_sub_phase {s t : ℕ} (h : start.timeNs < end'.timeNs) (hst : s ≤ t) :
    (seconds (t - s) : K) =
      (phase start end' t - phase start end' s) * seconds (end'.timeNs - start.timeNs) := by
  have hpos : ((end'.timeNs - start.timeNs : ℕ) : K) ≠ 0 :=
    (Nat.cast_pos.2 (Nat.sub_pos_of_lt h)).ne'
  rw [seconds, seconds, phase, phase, ← sub_div, div_mul_div_cancel₀ hpos, Nat.cast_sub hst]
  congr 1
  ring

section Piece

variable [SquareRoot K] {checker : LimitChecker K}

theorem LimitChecker.Admissible.movesWithin (h : checker.Admissible start end') {s t : ℕ}
    (hs : start.timeNs ≤ s) (hst : s ≤ t) (ht : t ≤ end'.timeNs) :
    MovesWithin checker.accelerationLimit (motion start end' s) (motion start end' t) := by
  obtain ⟨htime, extrema, hextrema, hviable, -⟩ := LimitChecker.admissible_iff.1 h
  refine ⟨hst, fun axis => ?_⟩
  obtain ⟨segment, hsegment⟩ := axisSegment_isSome (K := K) htime axis
  obtain ⟨hcubic, hduration⟩ := axisSegment_cubic hsegment
  obtain ⟨value, haxis, hcompute⟩ := axisExtrema_of_segment hsegment
  obtain rfl : value = extrema axis := Option.some.inj (haxis.symm.trans (hextrema axis))
  have hpos := seconds_pos (K := K) (Nat.sub_pos_of_lt htime)
  have hsecond : ∀ u : K, 0 ≤ u → u ≤ 1 → |(segmentCubic start end' axis).second u| ≤
      checker.accelerationLimit axis * seconds (end'.timeNs - start.timeNs) ^ 2 := by
    intro u h0 h1
    obtain ⟨hpositive, hnegative⟩ := extrema_acceleration
      (CubicHermite.built_of_build hsegment).1 hcompute h0 h1
    rw [CubicHermite.acceleration, hcubic, hduration, ← pow_two] at hpositive hnegative
    have habs : |(segmentCubic start end' axis).second u /
        seconds (end'.timeNs - start.timeNs) ^ 2| ≤ checker.accelerationLimit axis := by
      refine abs_le'.2 ⟨?_, ?_⟩
      · exact hpositive.trans ((hviable.accelerationPositive axis).trans (le_max_left _ _))
      · exact hnegative.trans ((hviable.accelerationNegative axis).trans (le_max_right _ _))
    rwa [abs_div, abs_of_pos (pow_pos hpos 2), div_le_iff₀ (pow_pos hpos 2)] at habs
  obtain ⟨hs0, hs1⟩ := phase_mem (K := K) htime hs (hst.trans ht)
  obtain ⟨ht0, ht1⟩ := phase_mem (K := K) htime (hs.trans hst) ht
  have hphase : phase (K := K) start end' s ≤ phase start end' t :=
    div_le_div_of_nonneg_right (sub_le_sub_right (Nat.cast_le.2 hst) _) (Nat.cast_nonneg _)
  have hmotion := BoundedMotion.of_cubic (segmentCubic start end' axis) hpos hphase
    (hsecond _ hs0 hs1) (hsecond _ ht0 ht1)
  rw [← seconds_sub_phase htime hst] at hmotion
  exact hmotion

theorem Piece.movesWithin (h : Piece checker start end') {s t : ℕ} (hs : start.timeNs ≤ s)
    (hst : s ≤ t) (ht : t ≤ end'.timeNs) :
    MovesWithin checker.accelerationLimit (motion start end' s) (motion start end' t) := by
  obtain ⟨original, hadmissible, hincreasing, hle, heq⟩ := h
  have hcut : ∀ u, motion start end' u = motion start original u := by
    intro u
    rw [heq]
    exact motion_cut hadmissible.increasing hincreasing
  rw [hcut, hcut]
  exact hadmissible.movesWithin hs hst (ht.trans hle)

theorem Piece.movesWithin_ends (h : Piece checker start end') :
    MovesWithin checker.accelerationLimit start end' := by
  have hmoves := h.movesWithin le_rfl h.increasing.le le_rfl
  rwa [motion_start h.increasing, motion_end h.increasing] at hmoves

theorem movesWithin_lookup {points : List (JointPoint K)} {t : ℕ} {q first : JointPoint K}
    (hchain : points.IsChain (Piece checker)) (hq : lookup t points = some q)
    (hfirst : first ∈ points.head?) (ht : first.timeNs ≤ t) :
    MovesWithin checker.accelerationLimit first q := by
  induction points generalizing first with
  | nil => cases hfirst
  | cons current points ih =>
    obtain rfl : current = first := Option.some.inj hfirst
    cases points with
    | nil =>
      rw [lookup_singleton] at hq
      split at hq
      · obtain rfl := Option.some.inj hq
        exact .refl _
      · cases hq
    | cons next rest =>
      obtain ⟨hpiece, hrest⟩ := List.isChain_cons_cons.1 hchain
      by_cases hnext : next.timeNs ≤ t
      · rw [lookup_of_next_le hnext] at hq
        exact hpiece.movesWithin_ends.trans (ih hrest hq rfl hnext)
      · rw [not_le] at hnext
        rw [lookup_of_lt_next hnext] at hq
        split at hq
        · obtain rfl := Option.some.inj hq
          exact .refl _
        · rw [sampleSegment_eq hpiece.increasing ht hnext.le] at hq
          obtain rfl := Option.some.inj hq
          have hmoves := hpiece.movesWithin le_rfl ht hnext.le
          rwa [motion_start hpiece.increasing] at hmoves

theorem movesWithin_samples {points : List (JointPoint K)} {s t : ℕ} {p q : JointPoint K}
    (hchain : points.IsChain (Piece checker)) (hhead : ∀ first ∈ points.head?, first.timeNs ≤ s)
    (hp : lookup s points = some p) (hq : lookup t points = some q) (hst : s ≤ t) :
    MovesWithin checker.accelerationLimit p q := by
  induction points with
  | nil => cases hp
  | cons current points ih =>
    have hcurrent := hhead current rfl
    cases points with
    | nil =>
      rw [lookup_singleton] at hp hq
      split at hp
      · split at hq
        · obtain rfl := Option.some.inj hp
          obtain rfl := Option.some.inj hq
          exact .refl _
        · cases hq
      · cases hp
    | cons next rest =>
      obtain ⟨hpiece, hrest⟩ := List.isChain_cons_cons.1 hchain
      have hlt := hpiece.increasing
      by_cases hnext : next.timeNs ≤ s
      · rw [lookup_of_next_le hnext] at hp
        rw [lookup_of_next_le (hnext.trans hst)] at hq
        apply ih hrest _ hp hq
        intro first hfirst
        cases hfirst
        exact hnext
      · rw [not_le] at hnext
        have hpmotion : p = motion current next s := by
          rw [lookup_of_lt_next hnext] at hp
          split at hp
          · rename_i htime
            rw [htime, motion_start hlt, Option.some.inj hp]
          · rw [sampleSegment_eq hlt hcurrent hnext.le] at hp
            exact (Option.some.inj hp).symm
        rw [hpmotion]
        by_cases hbefore : t < next.timeNs
        · have hqmotion : q = motion current next t := by
            rw [lookup_of_lt_next hbefore] at hq
            split at hq
            · rename_i htime
              rw [htime, motion_start hlt, Option.some.inj hq]
            · rw [sampleSegment_eq hlt (hcurrent.trans hst) hbefore.le] at hq
              exact (Option.some.inj hq).symm
          rw [hqmotion]
          exact hpiece.movesWithin hcurrent hst hbefore.le
        · rw [not_lt] at hbefore
          rw [lookup_of_next_le hbefore] at hq
          have hend := hpiece.movesWithin hcurrent hnext.le le_rfl
          rw [motion_end hlt] at hend
          exact hend.trans (movesWithin_lookup hrest hq rfl hbefore)

theorem paced_of_head {points : List (JointPoint K)} (hchain : points.IsChain (Piece checker))
    (hhead : ∀ first ∈ points.head?, Paced checker.accelerationLimit first) :
    ∀ point ∈ points, Paced checker.accelerationLimit point := by
  induction points with
  | nil =>
    intro point hpoint
    cases hpoint
  | cons current points ih =>
    have hcurrent := hhead current rfl
    intro point hpoint
    rcases List.mem_cons.1 hpoint with rfl | hmem
    · exact hcurrent
    · refine ih hchain.of_cons ?_ point hmem
      intro first hfirst
      cases points with
      | nil => cases hfirst
      | cons next rest =>
        obtain rfl : next = first := Option.some.inj hfirst
        exact hcurrent.of_movesWithin (List.isChain_cons_cons.1 hchain).1.movesWithin_ends

end Piece

end RobotDriver.Rolling
