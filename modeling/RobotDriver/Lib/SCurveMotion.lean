import RobotDriver.Lib.RestToRest

/-!
# S-curves

A pulse of acceleration ramps it up, holds it and ramps it down again. Two opposite pulses with a
cruise between them make a motion from rest to rest. If they leave no limit unused, it is the
shortest one over its distance.
-/

open Set

namespace JerkMotion

section Pulse

variable {K : Type*} [Field K]

def pulse (ramp hold jerk : K) : List (K × K) := [(ramp, jerk), (hold, 0), (ramp, -jerk)]

variable (ramp hold jerk : K)

theorem total_pulse : total (pulse ramp hold jerk) = 2 * ramp + hold := by
  simp only [pulse, total_cons, total_nil]
  ring

theorem finish_pulse [CharZero K] (x v : K) : finish (pulse ramp hold jerk) ⟨x, v, 0⟩ =
    ⟨x + (v * (2 * ramp + hold) + jerk * ramp * (ramp + hold) * (2 * ramp + hold) / 2),
      v + jerk * ramp * (ramp + hold), 0⟩ := by
  simp only [pulse, finish_cons, finish_nil, State.advance, State.mk.injEq]
  refine ⟨?_, ?_, ?_⟩
  · field_simp
    ring
  · field_simp
    ring
  · ring

variable [LinearOrder K] {ramp hold jerk} (hramp : 0 ≤ ramp) (hhold : 0 ≤ hold) {s : State K}
  {t : K}

theorem run_pulse_ramp (ht : t ≤ ramp) :
    run (pulse ramp hold jerk) s t = s.advance jerk t :=
  run_of_le _ s ht

include hramp hhold in
theorem run_pulse_hold [IsStrictOrderedRing K] (ht : ramp ≤ t) (ht' : t ≤ ramp + hold) :
    run (pulse ramp hold jerk) s t = (s.advance jerk ramp).advance 0 (t - ramp) := by
  have hforward : Forward [(hold, 0), (ramp, -jerk)] := by
    simpa [Forward] using ⟨hhold, hramp⟩
  refine (run_of_ge hforward s ht).trans (run_of_le _ _ ?_)
  linarith

include hramp hhold in
theorem run_pulse_round [IsStrictOrderedRing K] (ht : ramp + hold ≤ t)
    (ht' : t ≤ 2 * ramp + hold) : run (pulse ramp hold jerk) s t =
      ((s.advance jerk ramp).advance 0 hold).advance (-jerk) (t - ramp - hold) := by
  have hforward : Forward [(hold, 0), (ramp, -jerk)] := by
    simpa [Forward] using ⟨hhold, hramp⟩
  have hle : ramp ≤ t := (le_add_of_nonneg_right hhold).trans ht
  refine (run_of_ge hforward s hle).trans ?_
  refine (run_of_ge hforward.cons.2 _ (le_sub_iff_add_le'.2 ht)).trans (run_of_le _ _ ?_)
  linarith

variable [IsStrictOrderedRing K] {V A J x v : K}

include hramp hhold in
theorem acceleration_pulse (ht : t ≤ 2 * ramp + hold) :
    (run (pulse ramp hold jerk) ⟨x, v, 0⟩ t).acceleration =
      jerk * min t (min ramp (2 * ramp + hold - t)) := by
  rcases le_total t ramp with hle | hle
  · have hmin : min t (min ramp (2 * ramp + hold - t)) = t :=
      min_eq_left (le_min hle (by linarith))
    rw [run_pulse_ramp hle, hmin]
    simp [State.advance]
  rcases le_total t (ramp + hold) with hle' | hle'
  · have hmin : min t (min ramp (2 * ramp + hold - t)) = ramp := by
      rw [min_eq_left (by linarith : ramp ≤ 2 * ramp + hold - t), min_eq_right hle]
    rw [run_pulse_hold hramp hhold hle hle', hmin]
    simp [State.advance]
  · have hmin : min t (min ramp (2 * ramp + hold - t)) = 2 * ramp + hold - t := by
      rw [min_eq_right (by linarith : 2 * ramp + hold - t ≤ ramp), min_eq_right (by linarith)]
    rw [run_pulse_round hramp hhold hle' ht, hmin]
    simp only [State.advance]
    ring

include hramp hhold in
theorem velocity_pulse_round (ht : ramp + hold ≤ t) (ht' : t ≤ 2 * ramp + hold) :
    (run (pulse ramp hold jerk) ⟨x, v, 0⟩ t).velocity =
      v + jerk * ramp * (ramp + hold) - jerk * (2 * ramp + hold - t) ^ 2 / 2 := by
  rw [run_pulse_round hramp hhold ht ht']
  simp only [State.advance]
  field_simp
  ring

theorem velocity_pulse_ramp (ht : t ≤ ramp) :
    (run (pulse ramp hold jerk) ⟨x, v, 0⟩ t).velocity = v + jerk * t ^ 2 / 2 := by
  rw [run_pulse_ramp ht]
  simp only [State.advance]
  ring

include hramp hhold in
theorem velocity_pulse_hold (ht : ramp ≤ t) (ht' : t ≤ ramp + hold) :
    (run (pulse ramp hold jerk) ⟨x, v, 0⟩ t).velocity = v + jerk * ramp * (t - ramp / 2) := by
  rw [run_pulse_hold hramp hhold ht ht']
  simp only [State.advance]
  field_simp
  ring

include hramp hhold in
theorem velocity_pulse_neg (jerk x v x' v' : K) (ht : t ≤ 2 * ramp + hold) :
    (run (pulse ramp hold (-jerk)) ⟨x, v, 0⟩ t).velocity +
      (run (pulse ramp hold jerk) ⟨x', v', 0⟩ t).velocity = v + v' := by
  rcases le_total t ramp with hle | hle
  · rw [velocity_pulse_ramp hle, velocity_pulse_ramp hle]
    ring
  rcases le_total t (ramp + hold) with hle' | hle'
  · rw [velocity_pulse_hold hramp hhold hle hle', velocity_pulse_hold hramp hhold hle hle']
    ring
  · rw [velocity_pulse_round hramp hhold hle' ht, velocity_pulse_round hramp hhold hle' ht]
    ring

include hramp hhold in
theorem velocity_pulse_symm (ht : 0 ≤ t) (ht' : t ≤ 2 * ramp + hold) :
    (run (pulse ramp hold jerk) ⟨x, v, 0⟩ (2 * ramp + hold - t)).velocity =
      2 * v + jerk * ramp * (ramp + hold) - (run (pulse ramp hold jerk) ⟨x, v, 0⟩ t).velocity := by
  rcases le_total t ramp with hle | hle
  · rw [velocity_pulse_ramp hle, velocity_pulse_round hramp hhold (by linarith) (by linarith)]
    ring
  rcases le_total t (ramp + hold) with hle' | hle'
  · rw [velocity_pulse_hold hramp hhold hle hle',
      velocity_pulse_hold hramp hhold (by linarith) (by linarith)]
    ring
  · rw [velocity_pulse_round hramp hhold hle' ht', velocity_pulse_ramp (by linarith)]
    ring

omit [LinearOrder K] [IsStrictOrderedRing K] in
theorem advance_ramp (x v : K) : (⟨x, v, 0⟩ : State K).advance jerk ramp =
    ⟨x + (v * ramp + jerk * ramp ^ 3 / 6), v + jerk * ramp * ramp / 2, jerk * ramp⟩ := by
  simp only [State.advance, State.mk.injEq]
  refine ⟨?_, ?_, ?_⟩
  · ring
  · ring
  · ring

omit [LinearOrder K] [IsStrictOrderedRing K] in
theorem advance_hold (x v a : K) : (⟨x, v, a⟩ : State K).advance 0 hold =
    ⟨x + (v * hold + a * hold ^ 2 / 2), v + a * hold, a⟩ := by
  simp [State.advance]

omit [IsStrictOrderedRing K] in
theorem sign_pulse (jerk ramp : K) :
    (0 ≤ (0 : K) ∧ 0 ≤ jerk * ramp ∨ (0 : K) ≤ 0 ∧ jerk * ramp ≤ 0) ∧
      (0 ≤ jerk * ramp ∧ 0 ≤ jerk * ramp ∨ jerk * ramp ≤ 0 ∧ jerk * ramp ≤ 0) := by
  rcases le_total 0 (jerk * ramp) with h | h
  · exact ⟨.inl ⟨le_rfl, h⟩, .inl ⟨h, h⟩⟩
  · exact ⟨.inr ⟨le_rfl, h⟩, .inr ⟨h, h⟩⟩

include hramp hhold in
theorem velocity_between (hv : 0 ≤ v) (hV : v ≤ V) (hv' : 0 ≤ v + jerk * ramp * (ramp + hold))
    (hV' : v + jerk * ramp * (ramp + hold) ≤ V) :
    (0 ≤ v + jerk * ramp * ramp / 2 ∧ v + jerk * ramp * ramp / 2 ≤ V) ∧
      0 ≤ v + jerk * ramp * ramp / 2 + jerk * ramp * hold ∧
      v + jerk * ramp * ramp / 2 + jerk * ramp * hold ≤ V := by
  rw [mul_add, ← add_assoc] at hv' hV'
  rcases le_total 0 (jerk * ramp) with hsign | hsign
  · have hfirst : 0 ≤ jerk * ramp * ramp := mul_nonneg hsign hramp
    have hsecond : 0 ≤ jerk * ramp * hold := mul_nonneg hsign hhold
    refine ⟨⟨?_, ?_⟩, ?_, ?_⟩
    all_goals linarith
  · have hfirst : jerk * ramp * ramp ≤ 0 := mul_nonpos_of_nonpos_of_nonneg hsign hramp
    have hsecond : jerk * ramp * hold ≤ 0 := mul_nonpos_of_nonpos_of_nonneg hsign hhold
    refine ⟨⟨?_, ?_⟩, ?_, ?_⟩
    all_goals linarith

include hramp hhold in
theorem keeps_pulse (hJ : |jerk| ≤ J) (hA : |jerk * ramp| ≤ A) (hv : 0 ≤ v) (hV : v ≤ V)
    (hv' : 0 ≤ v + jerk * ramp * (ramp + hold)) (hV' : v + jerk * ramp * (ramp + hold) ≤ V) :
    Keeps V A J (pulse ramp hold jerk) ⟨x, v, 0⟩ := by
  have hA0 : |(0 : K)| ≤ A := abs_zero.trans_le ((abs_nonneg _).trans hA)
  have hJ0 : |(0 : K)| ≤ J := abs_zero.trans_le ((abs_nonneg _).trans hJ)
  obtain ⟨⟨hfirst, hfirst'⟩, hsecond, hsecond'⟩ := velocity_between hramp hhold hv hV hv' hV'
  obtain ⟨hup, hflat⟩ := sign_pulse jerk ramp
  have hback : jerk * ramp + -jerk * ramp = 0 := by ring
  have hend : (finish (pulse ramp hold jerk) ⟨x, v, 0⟩).Within V A := by
    rw [finish_pulse]
    exact ⟨hv', hV', hA0⟩
  refine ⟨⟨⟨hv, hV, hA0⟩, hramp, hJ, ?_⟩, ⟨?_, hhold, hJ0, ?_⟩, ⟨?_, hramp, ?_, ?_⟩, hend⟩
  · rw [advance_ramp]
    exact hup
  · rw [advance_ramp]
    exact ⟨hfirst, hfirst', hA⟩
  · rw [advance_ramp, advance_hold]
    exact hflat
  · rw [advance_ramp, advance_hold]
    exact ⟨hsecond, hsecond', hA⟩
  · rwa [abs_neg]
  · rw [advance_ramp, advance_hold, State.advance, hback]
    exact hup.imp And.symm And.symm

end Pulse

@[simp] theorem advance_cruise {K : Type*} [Field K] (x v t : K) :
    (⟨x, v, 0⟩ : State K).advance 0 t = ⟨x + v * t, v, 0⟩ := by
  simp [State.advance]

/-- Two opposite pulses with a cruise between them. -/
def scurve {K : Type*} [Field K] (ramp hold cruise jerk : K) : List (K × K) :=
  pulse ramp hold jerk ++ ((cruise, 0) :: pulse ramp hold (-jerk))

/-- The times of an S-curve within the limits. -/
structure SCurve (ramp hold cruise V A J : ℝ) : Prop where
  ramp_nonneg : 0 ≤ ramp
  hold_nonneg : 0 ≤ hold
  cruise_nonneg : 0 ≤ cruise
  jerk_pos : 0 < J
  acceleration_le : J * ramp ≤ A
  velocity_le : J * ramp * (ramp + hold) ≤ V

namespace SCurve

variable {ramp hold cruise V A J : ℝ}

theorem finish_rise : finish (pulse ramp hold J) ⟨0, 0, 0⟩ =
    ⟨J * ramp * (ramp + hold) * (2 * ramp + hold) / 2, J * ramp * (ramp + hold), 0⟩ := by
  rw [finish_pulse, zero_mul, zero_add, zero_add, zero_add]

theorem finish_eq : finish (scurve ramp hold cruise J) ⟨0, 0, 0⟩ =
    ⟨J * ramp * (ramp + hold) * (2 * ramp + hold + cruise), 0, 0⟩ := by
  rw [scurve, finish_append, finish_rise, finish_cons, advance_cruise, finish_pulse]
  simp only [State.mk.injEq]
  refine ⟨?_, ?_, trivial⟩
  · ring
  · ring

theorem total_eq : total (scurve ramp hold cruise J) = 2 * (2 * ramp + hold) + cruise := by
  rw [scurve, total_append, total_cons, total_pulse, total_pulse]
  ring

variable (h : SCurve ramp hold cruise V A J)
include h

theorem peak_nonneg : 0 ≤ J * ramp * (ramp + hold) :=
  mul_nonneg (mul_nonneg h.jerk_pos.le h.ramp_nonneg) (add_nonneg h.ramp_nonneg h.hold_nonneg)

theorem acceleration_nonneg : 0 ≤ J * ramp := mul_nonneg h.jerk_pos.le h.ramp_nonneg

theorem keeps_rise : Keeps V A J (pulse ramp hold J) ⟨0, 0, 0⟩ := by
  refine keeps_pulse h.ramp_nonneg h.hold_nonneg ?_ ?_ le_rfl ?_ ?_ ?_
  · rw [abs_of_pos h.jerk_pos]
  · rw [abs_of_nonneg h.acceleration_nonneg]
    exact h.acceleration_le
  · exact h.peak_nonneg.trans h.velocity_le
  · rw [zero_add]
    exact h.peak_nonneg
  · rw [zero_add]
    exact h.velocity_le

theorem keeps_fall (x : ℝ) :
    Keeps V A J (pulse ramp hold (-J)) ⟨x, J * ramp * (ramp + hold), 0⟩ := by
  have hzero : J * ramp * (ramp + hold) + -J * ramp * (ramp + hold) = 0 := by ring
  refine keeps_pulse h.ramp_nonneg h.hold_nonneg ?_ ?_ h.peak_nonneg h.velocity_le ?_ ?_
  · rw [abs_neg, abs_of_pos h.jerk_pos]
  · rw [neg_mul, abs_neg, abs_of_nonneg h.acceleration_nonneg]
    exact h.acceleration_le
  · exact hzero.ge
  · rw [hzero]
    exact h.peak_nonneg.trans h.velocity_le

theorem keeps_cruise (x : ℝ) : Steady V A J (cruise, 0) ⟨x, J * ramp * (ramp + hold), 0⟩ := by
  refine ⟨⟨h.peak_nonneg, h.velocity_le, ?_⟩, h.cruise_nonneg, ?_, .inl ⟨le_rfl, ?_⟩⟩
  · exact abs_zero.trans_le (h.acceleration_nonneg.trans h.acceleration_le)
  · exact abs_zero.trans_le h.jerk_pos.le
  · rw [advance_cruise]

theorem keeps : Keeps V A J (scurve ramp hold cruise J) ⟨0, 0, 0⟩ := by
  rw [scurve, keeps_append, finish_rise]
  refine ⟨h.keeps_rise, h.keeps_cruise _, ?_⟩
  rw [advance_cruise]
  exact h.keeps_fall _

theorem forward_fall : Forward (pulse ramp hold (-J)) := (h.keeps_fall 0).forward

theorem forward_after : Forward ((cruise, 0) :: pulse ramp hold (-J)) :=
  List.forall_mem_cons.2 ⟨h.cruise_nonneg, h.forward_fall⟩

theorem run_rise {t : ℝ} (ht : 0 ≤ t) (ht' : t ≤ 2 * ramp + hold) :
    run (scurve ramp hold cruise J) ⟨0, 0, 0⟩ t = run (pulse ramp hold J) ⟨0, 0, 0⟩ t := by
  exact run_append_of_le h.keeps_rise.forward h.forward_after _
    (ht'.trans_eq (total_pulse ramp hold J).symm) ht

theorem run_after {t : ℝ} (ht : 2 * ramp + hold ≤ t) :
    run (scurve ramp hold cruise J) ⟨0, 0, 0⟩ t = run ((cruise, 0) :: pulse ramp hold (-J))
      ⟨J * ramp * (ramp + hold) * (2 * ramp + hold) / 2, J * ramp * (ramp + hold), 0⟩
      (t - (2 * ramp + hold)) := by
  rw [scurve, run_append_of_ge h.keeps_rise.forward h.forward_after _
    ((total_pulse ramp hold J).trans_le ht), finish_rise, total_pulse]

theorem run_cruise {t : ℝ} (ht : 2 * ramp + hold ≤ t) (ht' : t ≤ 2 * ramp + hold + cruise) :
    run (scurve ramp hold cruise J) ⟨0, 0, 0⟩ t =
      ⟨J * ramp * (ramp + hold) * (2 * ramp + hold) / 2 +
        J * ramp * (ramp + hold) * (t - (2 * ramp + hold)), J * ramp * (ramp + hold), 0⟩ := by
  rw [h.run_after ht, run_of_le _ _ (sub_le_iff_le_add'.2 ht'), advance_cruise]

theorem run_fall {t : ℝ} (ht : 2 * ramp + hold + cruise ≤ t) :
    run (scurve ramp hold cruise J) ⟨0, 0, 0⟩ t =
      run (pulse ramp hold (-J)) ⟨J * ramp * (ramp + hold) * (2 * ramp + hold) / 2 +
        J * ramp * (ramp + hold) * cruise, J * ramp * (ramp + hold), 0⟩
        (t - (2 * ramp + hold + cruise)) := by
  have hle : 2 * ramp + hold ≤ t := (le_add_of_nonneg_right h.cruise_nonneg).trans ht
  rw [h.run_after hle, run_of_ge h.forward_fall _ (le_sub_iff_add_le'.2 ht), advance_cruise,
    sub_sub]

/-- An S-curve as a motion from rest to rest. -/
noncomputable def motion : RestToRest V A J (J * ramp * (ramp + hold) * (2 * ramp + hold + cruise))
    (total (scurve ramp hold cruise J)) :=
  RestToRest.ofSegments h.jerk_pos.le h.keeps finish_eq

/-- All of the acceleration is used, or the time for it is too short. -/
def Full (ramp hold A J : ℝ) : Prop := J * ramp = A ∨ hold = 0

omit h in
theorem Full.min_le (hfull : Full ramp hold A J) (hJ : 0 < J) {s : ℝ}
    (hs : s ≤ 2 * ramp + hold) : min (J * s) (min A (J * (2 * ramp + hold - s))) ≤
      J * min s (min ramp (2 * ramp + hold - s)) := by
  rw [mul_min_of_nonneg _ _ hJ.le, mul_min_of_nonneg _ _ hJ.le]
  rcases hfull with rfl | rfl
  · exact le_rfl
  · refine le_min (min_le_left _ _) (le_min ?_ ?_)
    · rcases le_total s ramp with hle | hle
      · exact (min_le_left _ _).trans (mul_le_mul_of_nonneg_left hle hJ.le)
      · refine (min_le_right _ _).trans ((min_le_right _ _).trans ?_)
        exact mul_le_mul_of_nonneg_left (by linarith) hJ.le
    · exact (min_le_right _ _).trans (min_le_right _ _)

theorem acceleration_rise {t : ℝ} (ht : t ∈ Icc 0 (2 * ramp + hold)) :
    h.motion.acceleration t = J * min t (min ramp (2 * ramp + hold - t)) := by
  have hrun := h.run_rise ht.1 ht.2
  exact (congrArg State.acceleration hrun).trans
    (acceleration_pulse h.ramp_nonneg h.hold_nonneg ht.2)

theorem acceleration_fall {t : ℝ} (ht : t ∈ Icc 0 (2 * ramp + hold)) :
    h.motion.acceleration (2 * ramp + hold + cruise + t) =
      -J * min t (min ramp (2 * ramp + hold - t)) := by
  have hrun := h.run_fall (le_add_of_nonneg_right ht.1)
  rw [add_sub_cancel_left] at hrun
  exact (congrArg State.acceleration hrun).trans
    (acceleration_pulse h.ramp_nonneg h.hold_nonneg ht.2)

theorem farthest_of_no_cruise (hfull : Full ramp hold A J) (hcruise : cruise = 0) {distance : ℝ}
    (m : RestToRest V A J distance (total (scurve ramp hold cruise J))) :
    distance ≤ J * ramp * (ramp + hold) * (2 * ramp + hold + cruise) := by
  subst hcruise
  have hhalf : total (scurve ramp hold 0 J) = 2 * (2 * ramp + hold) := by
    rw [total_eq, add_zero]
  refine m.distance_le_of_pairs hhalf h.motion fun s hs => ?_
  have hback : 2 * ramp + hold - s ∈ Icc 0 (2 * ramp + hold) :=
    ⟨sub_nonneg.2 hs.2, sub_le_self _ hs.1⟩
  have htime : 2 * ramp + hold + s = 2 * ramp + hold + 0 + s := by ring
  have hfall : h.motion.acceleration (2 * ramp + hold + s) =
      -J * min s (min ramp (2 * ramp + hold - s)) :=
    (congrArg h.motion.acceleration htime).trans (h.acceleration_fall hs)
  have hsame : min (2 * ramp + hold - s) (min ramp s) =
      min s (min ramp (2 * ramp + hold - s)) := by
    rw [min_comm, min_comm ramp, min_assoc]
  rw [h.acceleration_rise hback, hfall, sub_sub_cancel, hsame, neg_mul, sub_neg_eq_add, ← two_mul]
  exact mul_le_mul_of_nonneg_left (hfull.min_le h.jerk_pos hs.2) zero_le_two

theorem velocity_fall {t : ℝ} (ht : t ∈ Icc 0 (2 * ramp + hold)) :
    h.motion.velocity (total (scurve ramp hold cruise J) - t) = h.motion.velocity t := by
  have htime : total (scurve ramp hold cruise J) - t =
      2 * ramp + hold + cruise + (2 * ramp + hold - t) := by
    rw [total_eq]
    ring
  have hrise : h.motion.velocity t = (run (pulse ramp hold J) ⟨0, 0, 0⟩ t).velocity :=
    congrArg State.velocity (h.run_rise ht.1 ht.2)
  have hfall := congrArg State.velocity
    (h.run_fall (le_add_of_nonneg_right (sub_nonneg.2 ht.2)))
  rw [add_sub_cancel_left, velocity_pulse_symm h.ramp_nonneg h.hold_nonneg ht.1 ht.2] at hfall
  have hneg := velocity_pulse_neg h.ramp_nonneg h.hold_nonneg J
    (J * ramp * (ramp + hold) * (2 * ramp + hold) / 2 + J * ramp * (ramp + hold) * cruise)
    (J * ramp * (ramp + hold)) 0 0 ht.2
  rw [htime, hrise]
  refine hfall.trans ?_
  linarith

theorem acceleration_full (hfull : Full ramp hold A J) {t : ℝ} (ht : t ∈ Icc 0 (ramp + hold)) :
    min (J * t) A ≤ h.motion.acceleration t := by
  have hle : t ≤ 2 * ramp + hold := by linarith [ht.2, h.ramp_nonneg]
  rw [h.acceleration_rise ⟨ht.1, hle⟩]
  refine le_trans ?_ (hfull.min_le h.jerk_pos hle)
  refine le_min (min_le_left _ _) (le_min (min_le_right _ _) ?_)
  have hleft : J * ramp ≤ J * (2 * ramp + hold - t) :=
    mul_le_mul_of_nonneg_left (by linarith [ht.2]) h.jerk_pos.le
  rcases hfull with rfl | rfl
  · exact (min_le_right _ _).trans hleft
  · rw [add_zero] at ht
    exact (min_le_left _ _).trans ((mul_le_mul_of_nonneg_left ht.2 h.jerk_pos.le).trans hleft)

theorem farthest_of_cruise (hfull : Full ramp hold A J) (hpeak : J * ramp * (ramp + hold) = V)
    {distance : ℝ} (m : RestToRest V A J distance (total (scurve ramp hold cruise J))) :
    distance ≤ J * ramp * (ramp + hold) * (2 * ramp + hold + cruise) := by
  have htotal : total (scurve ramp hold cruise J) = 2 * (2 * ramp + hold) + cruise := total_eq
  have hsub : 2 * ramp + hold - ramp = ramp + hold := by ring
  have hramp : ramp ∈ Icc 0 (2 * ramp + hold) :=
    ⟨h.ramp_nonneg, by linarith [h.ramp_nonneg, h.hold_nonneg]⟩
  refine m.distance_le_of_cruise h.motion hramp ?_ h.jerk_pos ?_ ?_ ?_
    fun t ht => h.velocity_fall ht
  · rw [hsub]
    exact fun t ht => h.acceleration_full hfull ht
  · rw [htotal]
    exact le_add_of_nonneg_right h.cruise_nonneg
  · intro t ht
    rw [hsub] at ht
    have hround : (run (pulse ramp hold J) ⟨0, 0, 0⟩ t).velocity =
        0 + J * ramp * (ramp + hold) - J * (2 * ramp + hold - t) ^ 2 / 2 :=
      velocity_pulse_round h.ramp_nonneg h.hold_nonneg ht.1 ht.2
    have ht0 : 0 ≤ t := (add_nonneg h.ramp_nonneg h.hold_nonneg).trans ht.1
    rw [zero_add, hpeak] at hround
    exact (congrArg State.velocity (h.run_rise ht0 ht.2)).trans hround
  · intro t ht
    rw [htotal] at ht
    exact (congrArg State.velocity (h.run_cruise ht.1 (by linarith [ht.2]))).trans hpeak

theorem shortest (hfull : Full ramp hold A J)
    (hpeak : J * ramp * (ramp + hold) = V ∨ cruise = 0) {duration : ℝ}
    (hpos : 0 < J * ramp * (ramp + hold) * (2 * ramp + hold + cruise))
    (m : RestToRest V A J (J * ramp * (ramp + hold) * (2 * ramp + hold + cruise)) duration) :
    total (scurve ramp hold cruise J) ≤ duration := by
  refine m.duration_le_of_farthest h.jerk_pos.le hpos fun other hother => ?_
  rcases hpeak with hpeak | hcruise
  · exact h.farthest_of_cruise hfull hpeak hother
  · exact h.farthest_of_no_cruise hfull hcruise hother

end SCurve

end JerkMotion
