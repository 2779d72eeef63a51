import Mathlib
import RobotDriver.Lib.JerkMotion

/-!
# Motions from rest to rest

A motion from rest to rest has a velocity and an acceleration at all times, within limits, and an
acceleration that changes no faster than the jerk limit allows. Segments that end at rest make one.
Two criteria say that no motion of the same duration gets farther; a motion that gets farthest in
its time is also the shortest for its distance.
-/

open Set

namespace JerkMotion

section Glue

variable {f f' : ℝ → ℝ} {a b c t : ℝ}

theorem hasDerivWithinAt_of_lt (f : ℝ → ℝ) (f' : ℝ) (h : t < a) :
    HasDerivWithinAt f f' (Icc a b) t := by
  refine HasFDerivWithinAt.of_notMem_closure ?_
  rw [closure_Icc]
  exact fun hmem => absurd hmem.1 (not_le.2 h)

theorem hasDerivWithinAt_of_gt (f : ℝ → ℝ) (f' : ℝ) (h : b < t) :
    HasDerivWithinAt f f' (Icc a b) t := by
  refine HasFDerivWithinAt.of_notMem_closure ?_
  rw [closure_Icc]
  exact fun hmem => absurd hmem.2 (not_le.2 h)

theorem hasDerivWithinAt_glue (hab : a ≤ b) (hbc : b ≤ c)
    (hfirst : ∀ t ∈ Icc a b, HasDerivWithinAt f (f' t) (Icc a b) t)
    (hsecond : ∀ t ∈ Icc b c, HasDerivWithinAt f (f' t) (Icc b c) t) :
    ∀ t ∈ Icc a c, HasDerivWithinAt f (f' t) (Icc a c) t := by
  intro t ht
  rw [← Icc_union_Icc_eq_Icc hab hbc]
  refine HasDerivWithinAt.union ?_ ?_
  · rcases le_or_gt t b with hle | hlt
    · exact hfirst t ⟨ht.1, hle⟩
    · exact hasDerivWithinAt_of_gt f (f' t) hlt
  · rcases le_or_gt b t with hle | hlt
    · exact hsecond t ⟨hle, ht.2⟩
    · exact hasDerivWithinAt_of_lt f (f' t) hlt

theorem le_of_hasDerivWithinAt_nonneg (hab : a ≤ b)
    (hf : ∀ t ∈ Icc a b, HasDerivWithinAt f (f' t) (Icc a b) t)
    (hnonneg : ∀ t ∈ Icc a b, 0 ≤ f' t) : f a ≤ f b := by
  have hmono : MonotoneOn f (Icc a b) := by
    refine monotoneOn_of_hasDerivWithinAt_nonneg (convex_Icc a b)
      (fun t ht => (hf t ht).continuousWithinAt) (fun t ht => ?_)
      fun t ht => hnonneg t (interior_subset ht)
    exact (hf t (interior_subset ht)).mono interior_subset
  exact hmono (left_mem_Icc.2 hab) (right_mem_Icc.2 hab) hab

theorem hasDerivWithinAt_comp_reflect {S S' : Set ℝ} {d x : ℝ}
    (hmaps : MapsTo (fun t => x - t) S S') (hf : HasDerivWithinAt f d S' (x - t)) :
    HasDerivWithinAt (fun t => f (x - t)) (-d) S t := by
  have hreflect : HasDerivWithinAt (fun t => x - t) (-1) S t :=
    ((hasDerivAt_id t).const_sub x).hasDerivWithinAt
  have hcomp := hf.comp t hreflect hmaps
  rwa [mul_neg_one] at hcomp

theorem hasDerivWithinAt_comp_shift {S S' : Set ℝ} {d x : ℝ}
    (hmaps : MapsTo (fun t => x + t) S S') (hf : HasDerivWithinAt f d S' (x + t)) :
    HasDerivWithinAt (fun t => f (x + t)) d S t := by
  have hshift : HasDerivWithinAt (fun t => x + t) 1 S t :=
    ((hasDerivAt_id t).const_add x).hasDerivWithinAt
  have hcomp := hf.comp t hshift hmaps
  rwa [mul_one] at hcomp

theorem hasDerivWithinAt_comp_div {S S' : Set ℝ} {d k : ℝ}
    (hmaps : MapsTo (fun t => t / k) S S') (hf : HasDerivWithinAt f d S' (t / k)) :
    HasDerivWithinAt (fun t => f (t / k)) (d / k) S t := by
  have hscale : HasDerivWithinAt (fun t => t / k) (1 / k) S t :=
    ((hasDerivAt_id t).div_const k).hasDerivWithinAt
  have hcomp := hf.comp t hscale hmaps
  rwa [mul_one_div] at hcomp

theorem mapsTo_reflect (c : ℝ) : MapsTo (fun t => c - t) (Icc 0 c) (Icc 0 c) :=
  fun _ ht => ⟨sub_nonneg.2 ht.2, sub_le_self _ ht.1⟩

end Glue

section Run

variable {segments : List (ℝ × ℝ)}

theorem hasDerivWithinAt_run {f f' : State ℝ → ℝ}
    (hf : ∀ (s : State ℝ) (jerk t : ℝ),
      HasDerivAt (fun t => f (s.advance jerk t)) (f' (s.advance jerk t)) t)
    (hforward : Forward segments) (s : State ℝ) :
    ∀ t ∈ Icc 0 (total segments), HasDerivWithinAt (fun t => f (run segments s t))
      (f' (run segments s t)) (Icc 0 (total segments)) t := by
  induction segments generalizing s with
  | nil =>
    intro t ht
    rw [total_nil, Icc_self] at ht ⊢
    rw [mem_singleton_iff.1 ht]
    exact HasFDerivWithinAt.of_subsingleton subsingleton_singleton
  | cons segment later ih =>
    obtain ⟨hsegment, hlater⟩ := hforward.cons
    have htotal := hlater.total_nonneg
    have hfirst : ∀ t ∈ Icc 0 segment.1, HasDerivWithinAt
        (fun t => f (run (segment :: later) s t)) (f' (run (segment :: later) s t))
        (Icc 0 segment.1) t := by
      intro t ht
      rw [run_of_le later s ht.2]
      refine (hf s segment.2 t).hasDerivWithinAt.congr (fun u hu => ?_) ?_
      · rw [run_of_le later s hu.2]
      · rw [run_of_le later s ht.2]
    have hsecond : ∀ t ∈ Icc segment.1 (segment.1 + total later), HasDerivWithinAt
        (fun t => f (run (segment :: later) s t)) (f' (run (segment :: later) s t))
        (Icc segment.1 (segment.1 + total later)) t := by
      intro t ht
      have hmem : t - segment.1 ∈ Icc 0 (total later) :=
        ⟨sub_nonneg.2 ht.1, by linarith [ht.2]⟩
      have hshift : HasDerivWithinAt (fun u => u - segment.1) 1
          (Icc segment.1 (segment.1 + total later)) t :=
        ((hasDerivAt_id t).sub_const segment.1).hasDerivWithinAt
      have hmaps : MapsTo (fun u => u - segment.1) (Icc segment.1 (segment.1 + total later))
          (Icc 0 (total later)) := fun u hu => ⟨sub_nonneg.2 hu.1, by linarith [hu.2]⟩
      have hcomp := (ih hlater (s.advance segment.2 segment.1) _ hmem).comp t hshift hmaps
      rw [mul_one] at hcomp
      rw [run_of_ge hlater s ht.1]
      refine hcomp.congr (fun u hu => ?_) ?_
      · rw [run_of_ge hlater s hu.1]
        rfl
      · rw [run_of_ge hlater s ht.1]
        rfl
    rw [total_cons]
    exact hasDerivWithinAt_glue hsegment (by linarith) hfirst hsecond

theorem hasDerivAt_position (s : State ℝ) (jerk t : ℝ) :
    HasDerivAt (fun t => (s.advance jerk t).position) (s.advance jerk t).velocity t := by
  have hlinear := (hasDerivAt_id t).const_mul s.velocity
  have hsquare := ((hasDerivAt_pow 2 t).const_mul s.acceleration).div_const 2
  have hcube := ((hasDerivAt_pow 3 t).const_mul jerk).div_const 6
  refine (((hlinear.add hsquare).add hcube).const_add s.position).congr_deriv ?_
  simp only [State.advance]
  ring

theorem hasDerivAt_velocity (s : State ℝ) (jerk t : ℝ) :
    HasDerivAt (fun t => (s.advance jerk t).velocity) (s.advance jerk t).acceleration t := by
  have hlinear := (hasDerivAt_id t).const_mul s.acceleration
  have hsquare := ((hasDerivAt_pow 2 t).const_mul jerk).div_const 2
  refine ((hlinear.add hsquare).const_add s.velocity).congr_deriv ?_
  simp only [State.advance]
  ring

end Run

/-- A time clamped to a motion of the duration `T`. -/
def clamp {K : Type*} [Zero K] [LinearOrder K] (T t : K) : K := min (max t 0) T

section Clamp

variable {T t t' : ℝ}

theorem clamp_mem (hT : 0 ≤ T) (t : ℝ) : clamp T t ∈ Icc 0 T :=
  ⟨le_min (le_max_right _ _) hT, min_le_right _ _⟩

theorem clamp_of_mem (ht : t ∈ Icc 0 T) : clamp T t = t := by
  rw [clamp, max_eq_left ht.1, min_eq_left ht.2]

theorem clamp_of_nonpos (hT : 0 ≤ T) (ht : t ≤ 0) : clamp T t = 0 := by
  rw [clamp, max_eq_right ht, min_eq_left hT]

theorem clamp_of_ge (hT : 0 ≤ T) (ht : T ≤ t) : clamp T t = T := by
  rw [clamp, max_eq_left (hT.trans ht), min_eq_right ht]

theorem clamp_mono (h : t ≤ t') : clamp T t ≤ clamp T t' :=
  min_le_min_right _ (max_le_max_right _ h)

theorem clamp_sub_le (h : t ≤ t') : clamp T t' - clamp T t ≤ t' - t := by
  have hmax : max t' 0 ≤ max t 0 + (t' - t) :=
    max_le (by linarith [le_max_left t 0]) (by linarith [le_max_right t 0])
  rw [sub_le_iff_le_add', clamp, clamp]
  rcases le_total (max t 0) T with hle | hle
  · rw [min_eq_left hle]
    exact (min_le_left _ _).trans hmax
  · rw [min_eq_right hle]
    exact (min_le_right _ _).trans (le_add_of_nonneg_right (sub_nonneg.2 h))

theorem continuous_clamp (T : ℝ) : Continuous (clamp T) :=
  (continuous_id.max continuous_const).min continuous_const

end Clamp

section Clamped

variable {V A J : ℝ} {segments : List (ℝ × ℝ)} {s : State ℝ} (h : Keeps V A J segments s)
include h

theorem Keeps.continuous_position :
    Continuous fun t => (run segments s (clamp (total segments) t)).position := by
  have hrun : ContinuousOn (fun t => (run segments s t).position) (Icc 0 (total segments)) :=
    fun t ht => (hasDerivWithinAt_run hasDerivAt_position h.forward s t ht).continuousWithinAt
  exact hrun.comp_continuous (continuous_clamp _) (clamp_mem h.forward.total_nonneg)

theorem Keeps.continuous_velocity :
    Continuous fun t => (run segments s (clamp (total segments) t)).velocity := by
  have hrun : ContinuousOn (fun t => (run segments s t).velocity) (Icc 0 (total segments)) :=
    fun t ht => (hasDerivWithinAt_run hasDerivAt_velocity h.forward s t ht).continuousWithinAt
  exact hrun.comp_continuous (continuous_clamp _) (clamp_mem h.forward.total_nonneg)

theorem Keeps.clamped_within (t : ℝ) :
    (run segments s (clamp (total segments) t)).Within V A :=
  h.within (clamp_mem h.forward.total_nonneg t).1

theorem Keeps.clamped_jerk (hJ : 0 ≤ J) {t t' : ℝ} (htt' : t ≤ t') :
    |(run segments s (clamp (total segments) t')).acceleration -
      (run segments s (clamp (total segments) t)).acceleration| ≤ J * (t' - t) :=
  (h.acceleration_sub_le hJ (clamp_mem h.forward.total_nonneg t).1 (clamp_mono htt')).trans
    (mul_le_mul_of_nonneg_left (clamp_sub_le htt') hJ)

theorem Keeps.continuous_acceleration (hJ : 0 ≤ J) :
    Continuous fun t => (run segments s (clamp (total segments) t)).acceleration := by
  refine (LipschitzWith.of_dist_le_mul (K := ⟨J, hJ⟩) fun t t' => ?_).continuous
  rw [Real.dist_eq, Real.dist_eq]
  rcases le_total t t' with hle | hle
  · rw [abs_sub_comm, abs_sub_comm t, abs_of_nonneg (sub_nonneg.2 hle)]
    exact h.clamped_jerk hJ hle
  · rw [abs_of_nonneg (sub_nonneg.2 hle)]
    exact h.clamped_jerk hJ hle

theorem Keeps.position_mono {t t' : ℝ} (ht : 0 ≤ t) (htt' : t ≤ t') (ht' : t' ≤ total segments) :
    (run segments s t).position ≤ (run segments s t').position := by
  have hsub : Icc t t' ⊆ Icc 0 (total segments) := Icc_subset_Icc ht ht'
  exact le_of_hasDerivWithinAt_nonneg htt'
    (fun u hu => (hasDerivWithinAt_run hasDerivAt_position h.forward s u (hsub hu)).mono hsub)
    fun u hu => (h.within (hsub hu).1).velocity_nonneg

theorem Keeps.monotone_position :
    Monotone fun t => (run segments s (clamp (total segments) t)).position :=
  fun t t' htt' => h.position_mono (clamp_mem h.forward.total_nonneg t).1 (clamp_mono htt')
    (clamp_mem h.forward.total_nonneg t').2

end Clamped

/-- A motion over `distance` in `duration` within the limits, at rest before and after. -/
structure RestToRest (V A J distance duration : ℝ) where
  position : ℝ → ℝ
  velocity : ℝ → ℝ
  acceleration : ℝ → ℝ
  duration_nonneg : 0 ≤ duration
  position_deriv : ∀ t ∈ Icc 0 duration,
    HasDerivWithinAt position (velocity t) (Icc 0 duration) t
  velocity_deriv : ∀ t ∈ Icc 0 duration,
    HasDerivWithinAt velocity (acceleration t) (Icc 0 duration) t
  position_start : position 0 = 0
  position_end : position duration = distance
  velocity_start : velocity 0 = 0
  velocity_end : velocity duration = 0
  acceleration_start : acceleration 0 = 0
  acceleration_end : acceleration duration = 0
  velocity_le : ∀ t ∈ Icc 0 duration, |velocity t| ≤ V
  acceleration_le : ∀ t ∈ Icc 0 duration, |acceleration t| ≤ A
  jerk_le : ∀ t ∈ Icc 0 duration, ∀ t' ∈ Icc 0 duration, t ≤ t' →
    |acceleration t' - acceleration t| ≤ J * (t' - t)

namespace RestToRest

variable {V A J distance duration : ℝ}

/-- The motion that the segments make. -/
noncomputable def ofSegments {segments : List (ℝ × ℝ)} (hJ : 0 ≤ J)
    (h : Keeps V A J segments ⟨0, 0, 0⟩) (hfinish : finish segments ⟨0, 0, 0⟩ = ⟨distance, 0, 0⟩) :
    RestToRest V A J distance (total segments) where
  position t := (run segments ⟨0, 0, 0⟩ t).position
  velocity t := (run segments ⟨0, 0, 0⟩ t).velocity
  acceleration t := (run segments ⟨0, 0, 0⟩ t).acceleration
  duration_nonneg := h.forward.total_nonneg
  position_deriv := hasDerivWithinAt_run hasDerivAt_position h.forward _
  velocity_deriv := hasDerivWithinAt_run hasDerivAt_velocity h.forward _
  position_start := by rw [run_zero h.forward]
  position_end := by rw [run_total h.forward, hfinish]
  velocity_start := by rw [run_zero h.forward]
  velocity_end := by rw [run_total h.forward, hfinish]
  acceleration_start := by rw [run_zero h.forward]
  acceleration_end := by rw [run_total h.forward, hfinish]
  velocity_le t ht := by
    rw [abs_of_nonneg (h.within ht.1).velocity_nonneg]
    exact (h.within ht.1).velocity_le
  acceleration_le t ht := (h.within ht.1).acceleration
  jerk_le t ht t' _ htt' := h.acceleration_sub_le hJ ht.1 htt'

variable (m : RestToRest V A J distance duration)

/-- The same motion, given by other functions. -/
def congr {position velocity acceleration : ℝ → ℝ}
    (hposition : ∀ t ∈ Icc 0 duration, position t = m.position t)
    (hvelocity : ∀ t ∈ Icc 0 duration, velocity t = m.velocity t)
    (hacceleration : ∀ t ∈ Icc 0 duration, acceleration t = m.acceleration t) :
    RestToRest V A J distance duration where
  position := position
  velocity := velocity
  acceleration := acceleration
  duration_nonneg := m.duration_nonneg
  position_deriv t ht := by
    rw [hvelocity t ht]
    exact (m.position_deriv t ht).congr hposition (hposition t ht)
  velocity_deriv t ht := by
    rw [hacceleration t ht]
    exact (m.velocity_deriv t ht).congr hvelocity (hvelocity t ht)
  position_start := by rw [hposition 0 (left_mem_Icc.2 m.duration_nonneg), m.position_start]
  position_end := by rw [hposition _ (right_mem_Icc.2 m.duration_nonneg), m.position_end]
  velocity_start := by rw [hvelocity 0 (left_mem_Icc.2 m.duration_nonneg), m.velocity_start]
  velocity_end := by rw [hvelocity _ (right_mem_Icc.2 m.duration_nonneg), m.velocity_end]
  acceleration_start := by
    rw [hacceleration 0 (left_mem_Icc.2 m.duration_nonneg), m.acceleration_start]
  acceleration_end := by
    rw [hacceleration _ (right_mem_Icc.2 m.duration_nonneg), m.acceleration_end]
  velocity_le t ht := by
    rw [hvelocity t ht]
    exact m.velocity_le t ht
  acceleration_le t ht := by
    rw [hacceleration t ht]
    exact m.acceleration_le t ht
  jerk_le t ht t' ht' htt' := by
    rw [hacceleration t ht, hacceleration t' ht']
    exact m.jerk_le t ht t' ht' htt'

/-- The same motion backwards. -/
def reverse : RestToRest V A J distance duration where
  position t := distance - m.position (duration - t)
  velocity t := m.velocity (duration - t)
  acceleration t := -m.acceleration (duration - t)
  duration_nonneg := m.duration_nonneg
  position_deriv t ht := by
    have hderiv := m.position_deriv _ (mapsTo_reflect duration ht)
    have hreflect := hasDerivWithinAt_comp_reflect (mapsTo_reflect duration) hderiv
    exact (hreflect.const_sub distance).congr_deriv (neg_neg _)
  velocity_deriv t ht :=
    hasDerivWithinAt_comp_reflect (mapsTo_reflect duration)
      (m.velocity_deriv _ (mapsTo_reflect duration ht))
  position_start := by rw [sub_zero, m.position_end, sub_self]
  position_end := by rw [sub_self, m.position_start, sub_zero]
  velocity_start := by rw [sub_zero, m.velocity_end]
  velocity_end := by rw [sub_self, m.velocity_start]
  acceleration_start := by rw [sub_zero, m.acceleration_end, neg_zero]
  acceleration_end := by rw [sub_self, m.acceleration_start, neg_zero]
  velocity_le t ht := m.velocity_le _ (mapsTo_reflect duration ht)
  acceleration_le t ht := by
    rw [abs_neg]
    exact m.acceleration_le _ (mapsTo_reflect duration ht)
  jerk_le t ht t' ht' htt' := by
    have hjerk := m.jerk_le _ (mapsTo_reflect duration ht') _ (mapsTo_reflect duration ht)
      (sub_le_sub_left htt' _)
    rw [sub_sub_sub_cancel_left] at hjerk
    rwa [neg_sub_neg]

/-- The motion slowed down by `k`, over `k` times the distance. -/
noncomputable def stretch (hJ : 0 ≤ J) {k : ℝ} (hk : 1 ≤ k) :
    RestToRest V A J (k * distance) (k * duration) :=
  have hpos : 0 < k := by linarith
  have hmaps : MapsTo (fun t => t / k) (Icc 0 (k * duration)) (Icc 0 duration) := fun t ht =>
    ⟨div_nonneg ht.1 hpos.le, (div_le_iff₀' hpos).2 ht.2⟩
  { position := fun t => k * m.position (t / k)
    velocity := fun t => m.velocity (t / k)
    acceleration := fun t => m.acceleration (t / k) / k
    duration_nonneg := mul_nonneg hpos.le m.duration_nonneg
    position_deriv := fun t ht => by
      have hderiv := hasDerivWithinAt_comp_div hmaps (m.position_deriv _ (hmaps ht))
      exact (hderiv.const_mul k).congr_deriv (mul_div_cancel₀ _ hpos.ne')
    velocity_deriv := fun t ht =>
      hasDerivWithinAt_comp_div hmaps (m.velocity_deriv _ (hmaps ht))
    position_start := by rw [zero_div, m.position_start, mul_zero]
    position_end := by rw [mul_div_cancel_left₀ _ hpos.ne', m.position_end]
    velocity_start := by rw [zero_div, m.velocity_start]
    velocity_end := by rw [mul_div_cancel_left₀ _ hpos.ne', m.velocity_end]
    acceleration_start := by rw [zero_div, m.acceleration_start, zero_div]
    acceleration_end := by rw [mul_div_cancel_left₀ _ hpos.ne', m.acceleration_end, zero_div]
    velocity_le := fun t ht => m.velocity_le _ (hmaps ht)
    acceleration_le := fun t ht => by
      rw [abs_div, abs_of_pos hpos]
      exact (div_le_self (abs_nonneg _) hk).trans (m.acceleration_le _ (hmaps ht))
    jerk_le := fun t ht t' ht' htt' => by
      have hjerk := m.jerk_le _ (hmaps ht) _ (hmaps ht') (div_le_div_of_nonneg_right htt' hpos.le)
      rw [← sub_div, abs_div, abs_of_pos hpos]
      refine (div_le_self (abs_nonneg _) hk).trans (hjerk.trans ?_)
      rw [← sub_div]
      exact mul_le_mul_of_nonneg_left (div_le_self (sub_nonneg.2 htt') hk) hJ }

include m

theorem velocity_ge_after {t t' : ℝ} (ht : 0 ≤ t) (htt' : t ≤ t') (ht' : t' ≤ duration) :
    m.velocity t + m.acceleration t * (t' - t) - J * (t' - t) ^ 2 / 2 ≤ m.velocity t' := by
  have hsub : Icc t t' ⊆ Icc 0 duration := Icc_subset_Icc ht ht'
  have hderiv : ∀ u ∈ Icc t t', HasDerivWithinAt
      (fun u => m.velocity u - (m.acceleration t * (u - t) - J * (u - t) ^ 2 / 2))
      (m.acceleration u - (m.acceleration t - J * (u - t))) (Icc t t') u := by
    intro u hu
    have hlinear := ((hasDerivAt_id u).sub_const t).const_mul (m.acceleration t)
    have hsquare := ((((hasDerivAt_id u).sub_const t).pow 2).const_mul J).div_const 2
    refine (((m.velocity_deriv u (hsub hu)).mono hsub).sub
      (hlinear.sub hsquare).hasDerivWithinAt).congr_deriv ?_
    simp only [id]
    ring
  have hgrows := le_of_hasDerivWithinAt_nonneg htt' hderiv fun u hu => by
    have hjerk := abs_le.1 (m.jerk_le t (hsub (left_mem_Icc.2 htt')) u (hsub hu) hu.1)
    linarith [hjerk.1]
  simp only [sub_self] at hgrows
  linarith

theorem velocity_ge_before {t t' : ℝ} (ht : 0 ≤ t) (htt' : t ≤ t') (ht' : t' ≤ duration) :
    m.velocity t' - m.acceleration t' * (t' - t) - J * (t' - t) ^ 2 / 2 ≤ m.velocity t := by
  have hback := m.reverse.velocity_ge_after (sub_nonneg.2 ht') (sub_le_sub_left htt' duration)
    (sub_le_self _ ht)
  simp only [reverse, sub_sub_cancel, sub_sub_sub_cancel_left] at hback
  linarith

theorem duration_le_of_farthest (hJ : 0 ≤ J) (hdistance : 0 < distance) {best : ℝ}
    (hfarthest : ∀ other, RestToRest V A J other best → other ≤ distance) : best ≤ duration := by
  by_contra hlt
  rw [not_le] at hlt
  have hduration : 0 < duration := by
    refine m.duration_nonneg.lt_of_ne fun hzero => ?_
    have hsame := congrArg m.position hzero
    rw [m.position_start, m.position_end] at hsame
    exact hdistance.ne hsame
  have hk : 1 < best / duration := (one_lt_div hduration).2 hlt
  have hstretched := m.stretch hJ hk.le
  rw [div_mul_cancel₀ _ hduration.ne'] at hstretched
  have hfar := hfarthest _ hstretched
  exact absurd hfar (not_le.2 (lt_mul_of_one_lt_left hdistance hk))

theorem acceleration_pair_le {half s : ℝ} (hhalf : duration = 2 * half) (hs : s ∈ Icc 0 half) :
    m.acceleration (half - s) - m.acceleration (half + s) ≤
      2 * min (J * s) (min A (J * (half - s))) := by
  have hhalf0 : 0 ≤ half := hs.1.trans hs.2
  have hleft : half - s ∈ Icc 0 duration := ⟨sub_nonneg.2 hs.2, by linarith [hs.1]⟩
  have hright : half + s ∈ Icc 0 duration := ⟨by linarith [hs.1], by linarith [hs.2]⟩
  have hstart : (0 : ℝ) ∈ Icc 0 duration := left_mem_Icc.2 m.duration_nonneg
  have hend : duration ∈ Icc 0 duration := right_mem_Icc.2 m.duration_nonneg
  have hbetween := abs_le.1 (m.jerk_le _ hleft _ hright (by linarith [hs.1]))
  have hbefore := abs_le.1 (m.jerk_le _ hstart _ hleft hleft.1)
  have hafter := abs_le.1 (m.jerk_le _ hright _ hend hright.2)
  rw [m.acceleration_start] at hbefore
  rw [m.acceleration_end] at hafter
  have hbound := abs_le.1 (m.acceleration_le _ hleft)
  have hbound' := abs_le.1 (m.acceleration_le _ hright)
  rw [mul_min_of_nonneg _ _ zero_le_two, mul_min_of_nonneg _ _ zero_le_two]
  refine le_min ?_ (le_min ?_ ?_)
  · linarith [hbetween.1]
  · linarith [hbound.2, hbound'.1]
  · have hrest : J * (duration - (half + s)) = J * (half - s) := by
      rw [hhalf]
      ring
    linarith [hbefore.2, hafter.2]

section Pairs

variable {half s : ℝ} (hhalf : duration = 2 * half)
include hhalf

omit m in
theorem mapsTo_before : MapsTo (fun s => half - s) (Icc 0 half) (Icc 0 duration) :=
  fun s hs => ⟨sub_nonneg.2 hs.2, by linarith [hs.1, hs.2]⟩

omit m in
theorem mapsTo_after : MapsTo (fun s => half + s) (Icc 0 half) (Icc 0 duration) :=
  fun s hs => ⟨by linarith [hs.1, hs.2], by linarith [hs.2]⟩

theorem velocity_pair_deriv (hs : s ∈ Icc 0 half) :
    HasDerivWithinAt (fun s => m.velocity (half - s) + m.velocity (half + s))
      (-m.acceleration (half - s) + m.acceleration (half + s)) (Icc 0 half) s :=
  (hasDerivWithinAt_comp_reflect (mapsTo_before hhalf)
    (m.velocity_deriv _ (mapsTo_before hhalf hs))).add
    (hasDerivWithinAt_comp_shift (mapsTo_after hhalf)
      (m.velocity_deriv _ (mapsTo_after hhalf hs)))

theorem position_pair_deriv (hs : s ∈ Icc 0 half) :
    HasDerivWithinAt (fun s => m.position (half + s) - m.position (half - s))
      (m.velocity (half - s) + m.velocity (half + s)) (Icc 0 half) s := by
  have hafter := hasDerivWithinAt_comp_shift (mapsTo_after hhalf)
    (m.position_deriv _ (mapsTo_after hhalf hs))
  have hbefore := hasDerivWithinAt_comp_reflect (mapsTo_before hhalf)
    (m.position_deriv _ (mapsTo_before hhalf hs))
  refine (hafter.sub hbefore).congr_deriv ?_
  ring

theorem velocity_pair_end : m.velocity (half - half) + m.velocity (half + half) = 0 := by
  rw [sub_self, ← two_mul, ← hhalf, m.velocity_start, m.velocity_end, add_zero]

theorem position_pair_end : m.position (half + half) - m.position (half - half) = distance := by
  rw [sub_self, ← two_mul, ← hhalf, m.position_start, m.position_end, sub_zero]

theorem distance_le_of_pairs {farthest : ℝ} (best : RestToRest V A J farthest duration)
    (hbest : ∀ s ∈ Icc 0 half, 2 * min (J * s) (min A (J * (half - s))) ≤
      best.acceleration (half - s) - best.acceleration (half + s)) : distance ≤ farthest := by
  have hhalf0 : 0 ≤ half := by linarith [m.duration_nonneg]
  have hvelocity : ∀ s ∈ Icc 0 half, m.velocity (half - s) + m.velocity (half + s) ≤
      best.velocity (half - s) + best.velocity (half + s) := by
    intro s hs
    have hsub : Icc s half ⊆ Icc 0 half := Icc_subset_Icc_left hs.1
    have hgrows := le_of_hasDerivWithinAt_nonneg hs.2
      (fun u hu => ((m.velocity_pair_deriv hhalf (hsub hu)).sub
        (best.velocity_pair_deriv hhalf (hsub hu))).mono hsub) fun u hu => by
          linarith [m.acceleration_pair_le hhalf (hsub hu), hbest u (hsub hu)]
    simp only [Pi.sub_apply] at hgrows
    rw [m.velocity_pair_end hhalf, best.velocity_pair_end hhalf] at hgrows
    linarith
  have hfarther := le_of_hasDerivWithinAt_nonneg hhalf0
    (fun s hs => (best.position_pair_deriv hhalf hs).sub (m.position_pair_deriv hhalf hs))
    fun s hs => sub_nonneg.2 (hvelocity s hs)
  simp only [Pi.sub_apply] at hfarther
  rw [m.position_pair_end hhalf, best.position_pair_end hhalf, add_zero, sub_zero, sub_self,
    sub_self, sub_self] at hfarther
  linarith

end Pairs

theorem velocity_add_le (hJ : 0 < J) {t : ℝ} (ht : t ∈ Icc 0 duration)
    (hpos : 0 ≤ m.acceleration t) : m.velocity t + m.acceleration t ^ 2 / (2 * J) ≤ V := by
  have hend : duration ∈ Icc 0 duration := right_mem_Icc.2 m.duration_nonneg
  have hjerk := abs_le.1 (m.jerk_le t ht duration hend ht.2)
  rw [m.acceleration_end] at hjerk
  have htime : t + m.acceleration t / J ≤ duration := by
    rw [← le_sub_iff_add_le', div_le_iff₀' hJ]
    linarith [hjerk.1]
  have hlater : t ≤ t + m.acceleration t / J := le_add_of_nonneg_right (div_nonneg hpos hJ.le)
  have hgain := m.velocity_ge_after ht.1 hlater htime
  have hlimit := (abs_le.1 (m.velocity_le _ ⟨ht.1.trans hlater, htime⟩)).2
  rw [add_sub_cancel_left] at hgain
  refine le_trans (le_of_eq ?_) (hgain.trans hlimit)
  field_simp
  ring

section Cruise

variable {farthest ramp rise : ℝ} (best : RestToRest V A J farthest duration)
  (hramp : ramp ∈ Icc 0 rise) (hrise : rise ≤ duration)
  (hfull : ∀ t ∈ Icc 0 (rise - ramp), min (J * t) A ≤ best.acceleration t)
include hramp hrise hfull

theorem velocity_le_before_round {t : ℝ} (ht : t ∈ Icc 0 (rise - ramp)) :
    m.velocity t ≤ best.velocity t := by
  have hsub : Icc 0 t ⊆ Icc 0 duration := Icc_subset_Icc_right (by linarith [ht.2, hramp.1])
  have hgrows := le_of_hasDerivWithinAt_nonneg ht.1
    (fun u hu => ((best.velocity_deriv u (hsub hu)).sub (m.velocity_deriv u (hsub hu))).mono hsub)
    fun u hu => by
      have hzero : (0 : ℝ) ∈ Icc 0 duration := left_mem_Icc.2 m.duration_nonneg
      have hjerk := abs_le.1 (m.jerk_le 0 hzero u (hsub hu) hu.1)
      have hlimit := abs_le.1 (m.acceleration_le u (hsub hu))
      rw [m.acceleration_start, sub_zero, sub_zero] at hjerk
      have hbest := hfull u ⟨hu.1, hu.2.trans ht.2⟩
      exact sub_nonneg.2 ((le_min hjerk.2 hlimit.2).trans hbest)
  simp only [Pi.sub_apply] at hgrows
  rw [best.velocity_start, m.velocity_start, sub_zero] at hgrows
  exact sub_nonneg.1 hgrows

theorem velocity_le_rising (hJ : 0 < J)
    (hround : ∀ t ∈ Icc (rise - ramp) rise, best.velocity t = V - J * (rise - t) ^ 2 / 2)
    {t : ℝ} (ht : t ∈ Icc 0 rise) : m.velocity t ≤ best.velocity t := by
  rcases le_or_gt t (rise - ramp) with hle | hlt
  · exact m.velocity_le_before_round best hramp hrise hfull ⟨ht.1, hle⟩
  -- otherwise the motion would have been too fast already when the rounding begins
  rw [hround t ⟨hlt.le, ht.2⟩]
  by_contra hfast
  rw [not_le] at hfast
  have htime : 0 ≤ J * (rise - t) := mul_nonneg hJ.le (sub_nonneg.2 ht.2)
  have hacceleration : m.acceleration t ≤ J * (rise - t) := by
    by_contra hstrong
    rw [not_le] at hstrong
    have hlimit := m.velocity_add_le hJ ⟨ht.1, ht.2.trans hrise⟩ (htime.trans hstrong.le)
    have hsquare : (J * (rise - t)) ^ 2 / (2 * J) < m.acceleration t ^ 2 / (2 * J) :=
      div_lt_div_of_pos_right (pow_lt_pow_left₀ hstrong htime two_ne_zero) (by positivity)
    have hsame : (J * (rise - t)) ^ 2 / (2 * J) = J * (rise - t) ^ 2 / 2 := by
      field_simp
    linarith
  have hstart : rise - ramp ∈ Icc 0 (rise - ramp) :=
    ⟨sub_nonneg.2 hramp.2, le_rfl⟩
  have hbefore := m.velocity_ge_before hstart.1 hlt.le (ht.2.trans hrise)
  have hslow := m.velocity_le_before_round best hramp hrise hfull hstart
  rw [hround _ ⟨le_rfl, sub_le_self _ hramp.1⟩] at hslow
  have hgained : m.acceleration t * (t - (rise - ramp)) ≤ J * (rise - t) * (t - (rise - ramp)) :=
    mul_le_mul_of_nonneg_right hacceleration (sub_nonneg.2 hlt.le)
  nlinarith

omit hrise in
theorem distance_le_of_cruise (hJ : 0 < J) (hrise : 2 * rise ≤ duration)
    (hround : ∀ t ∈ Icc (rise - ramp) rise, best.velocity t = V - J * (rise - t) ^ 2 / 2)
    (hcruise : ∀ t ∈ Icc rise (duration - rise), best.velocity t = V)
    (hsymm : ∀ t ∈ Icc 0 rise, best.velocity (duration - t) = best.velocity t) :
    distance ≤ farthest := by
  have hrise0 : 0 ≤ rise := hramp.1.trans hramp.2
  have hrise' : rise ≤ duration := by linarith
  have hvelocity : ∀ t ∈ Icc 0 duration, m.velocity t ≤ best.velocity t := by
    intro t ht
    rcases le_or_gt t rise with hle | hlt
    · exact m.velocity_le_rising best hramp hrise' hfull hJ hround ⟨ht.1, hle⟩
    rcases le_or_gt t (duration - rise) with hle' | hlt'
    · rw [hcruise t ⟨hlt.le, hle'⟩]
      exact (abs_le.1 (m.velocity_le t ht)).2
    · have hback : duration - t ∈ Icc 0 rise := ⟨sub_nonneg.2 ht.2, by linarith⟩
      have hslow := m.reverse.velocity_le_rising best hramp hrise' hfull hJ hround hback
      have hsame := hsymm _ hback
      rw [sub_sub_cancel] at hsame
      rw [hsame]
      simpa only [reverse, sub_sub_cancel] using hslow
  have hfarther := le_of_hasDerivWithinAt_nonneg m.duration_nonneg
    (fun t ht => (best.position_deriv t ht).sub (m.position_deriv t ht))
    fun t ht => sub_nonneg.2 (hvelocity t ht)
  simp only [Pi.sub_apply] at hfarther
  rw [m.position_start, m.position_end, best.position_start, best.position_end, sub_zero]
    at hfarther
  exact sub_nonneg.1 hfarther

end Cruise

end RestToRest

end JerkMotion
