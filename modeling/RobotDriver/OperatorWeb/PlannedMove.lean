import RobotDriver.Lib.SCurveMotion
import RobotDriver.OperatorWeb.SCurve

/-!
# Planned moves are exact

Sampling a profile runs its segments for the clamped time. Where `_segments` drops nothing, the plan
of a move goes from start to target on a straight line, and no motion within its limits is shorter.
-/

namespace RobotDriver.OperatorWeb.Trajectory

open JerkMotion Set

section Sample

theorem sampleLoop_eq_run {K : Type*} [Field K] [LinearOrder K] [IsStrictOrderedRing K]
    (segments : List (K × K)) (remaining : K) (s : State K) :
    Profile.sampleLoop segments remaining s = run segments s remaining := by
  induction segments generalizing remaining s with
  | nil => rfl
  | cons segment rest ih =>
    rw [Profile.sampleLoop]
    rcases le_or_gt remaining segment.1 with hle | hlt
    · rw [min_eq_right hle, sub_self, if_pos le_rfl, run_of_le _ _ hle]
    · rw [min_eq_left hlt.le, if_neg (not_le.2 (sub_pos.2 hlt)), run_of_lt _ _ hlt]
      exact ih _ _

variable {profile : Profile ℝ}

theorem sample_eq_run (hforward : Forward profile.segments)
    (hrest : (finish profile.segments profile.initial).velocity = 0 ∧
      (finish profile.segments profile.initial).acceleration = 0) (t : ℝ) :
    profile.sample t =
      run profile.segments profile.initial (clamp (total profile.segments) t) := by
  have hsample : Profile.sampleLoop profile.segments (min (max t 0) profile.duration)
      profile.initial = run profile.segments profile.initial (clamp (total profile.segments) t) :=
    sampleLoop_eq_run _ _ _
  rw [Profile.sample, hsample]
  by_cases hend : profile.duration ≤ t
  · have hfinish : run profile.segments profile.initial (clamp (total profile.segments) t) =
        finish profile.segments profile.initial := by
      rw [clamp_of_ge hforward.total_nonneg hend, run_total hforward]
    rw [if_pos hend, hfinish]
    obtain ⟨hvelocity, hacceleration⟩ := hrest
    generalize finish profile.segments profile.initial = s at hvelocity hacceleration
    obtain ⟨x, v, a⟩ := s
    dsimp only at hvelocity hacceleration ⊢
    rw [hvelocity, hacceleration]
  · rw [if_neg hend]

end Sample

theorem epsilon_pos : (0 : ℝ) < epsilon := by
  rw [epsilon]
  norm_num

section Phases

variable {p : Phases ℝ} {limits : Limits ℝ} {distance : ℝ}

theorem Phases.items_eq (p : Phases ℝ) (jerk : ℝ) :
    p.items jerk = JerkMotion.scurve p.ramp p.hold p.cruise jerk := by
  simp [Phases.items, JerkMotion.scurve, pulse]

theorem Phases.Valid.scurve (h : p.Valid limits distance) :
    SCurve p.ramp p.hold p.cruise limits.velocity limits.acceleration limits.jerk :=
  ⟨h.ramp_nonneg, h.hold_nonneg, h.cruise_nonneg, limits.jerk_pos, h.acceleration_le, h.peak_le⟩

/-- No phase is so short that `_segments` drops it. -/
def Phases.Kept (p : Phases ℝ) (jerk : ℝ) : Prop :=
  ∀ item ∈ p.items jerk, item.1 = 0 ∨ epsilon < item.1

end Phases

/-- The profile of the phases. -/
def Phases.profile {K : Type*} [Field K] [LinearOrder K] (p : Phases K) (jerk : K) : Profile K :=
  { segments := segments (p.items jerk) }

section Profile

variable {p : Phases ℝ} {V A J : ℝ} (h : SCurve p.ramp p.hold p.cruise V A J) (hkept : p.Kept J)
include hkept

theorem profile_duration :
    (p.profile J).duration = total (JerkMotion.scurve p.ramp p.hold p.cruise J) := by
  refine (total_filter epsilon_pos hkept).trans ?_
  rw [Phases.items_eq]

theorem run_profile (s : State ℝ) {t : ℝ} (ht : 0 ≤ t) : run (p.profile J).segments s t =
    run (JerkMotion.scurve p.ramp p.hold p.cruise J) s t := by
  refine (run_filter epsilon_pos hkept s ht).trans ?_
  rw [Phases.items_eq]

include h

omit hkept in
theorem profile_forward : Forward (p.profile J).segments := by
  have hforward := h.keeps.forward
  rw [← Phases.items_eq] at hforward
  intro item hitem
  have hmem : item ∈ (p.items J).filter fun item => epsilon < item.1 := hitem
  exact hforward item (List.mem_filter.1 hmem).1

theorem profile_sample (t : ℝ) : (p.profile J).sample t =
    run (JerkMotion.scurve p.ramp p.hold p.cruise J) ⟨0, 0, 0⟩
      (clamp (total (JerkMotion.scurve p.ramp p.hold p.cruise J)) t) := by
  have hforward := profile_forward h
  have htotal : total (p.profile J).segments =
      total (JerkMotion.scurve p.ramp p.hold p.cruise J) := profile_duration hkept
  have hnonneg := h.keeps.forward.total_nonneg
  have hfinish : finish (p.profile J).segments (p.profile J).initial =
      finish (JerkMotion.scurve p.ramp p.hold p.cruise J) ⟨0, 0, 0⟩ := by
    rw [← run_total hforward, htotal, run_profile hkept _ hnonneg]
    exact run_total h.keeps.forward _
  rw [sample_eq_run hforward, htotal, run_profile hkept _ (clamp_mem hnonneg t).1]
  · rfl
  · rw [hfinish, SCurve.finish_eq]
    exact ⟨rfl, rfl⟩

end Profile

/-- A profile that covers the distance from rest to rest, smoothly and as fast as the limits let. -/
structure ExactProfile (limits : Limits ℝ) (distance : ℝ) (profile : Profile ℝ) : Prop where
  position_start : ∀ t ≤ 0, profile.sample t = ⟨0, 0, 0⟩
  position_end : ∀ t, profile.duration ≤ t → profile.sample t = ⟨distance, 0, 0⟩
  continuous_position : Continuous fun t => (profile.sample t).position
  continuous_velocity : Continuous fun t => (profile.sample t).velocity
  continuous_acceleration : Continuous fun t => (profile.sample t).acceleration
  monotone_position : Monotone fun t => (profile.sample t).position
  velocity_le : ∀ t, |(profile.sample t).velocity| ≤ limits.velocity
  acceleration_le : ∀ t, |(profile.sample t).acceleration| ≤ limits.acceleration
  jerk_le : ∀ t t', t ≤ t' →
    |(profile.sample t').acceleration - (profile.sample t).acceleration| ≤ limits.jerk * (t' - t)
  motion : ∃ m : RestToRest limits.velocity limits.acceleration limits.jerk distance
    profile.duration, ∀ t, profile.sample t = ⟨m.position t, m.velocity t, m.acceleration t⟩
  shortest : ∀ duration, RestToRest limits.velocity limits.acceleration limits.jerk distance
    duration → profile.duration ≤ duration

section Exact

theorem ExactProfile.position_nonneg {limits : Limits ℝ} {distance : ℝ} {profile : Profile ℝ}
    (h : ExactProfile limits distance profile) (t : ℝ) : 0 ≤ (profile.sample t).position := by
  have hstart := h.monotone_position (min_le_left t 0)
  dsimp only at hstart
  rwa [h.position_start _ (min_le_right t 0)] at hstart

theorem ExactProfile.position_le {limits : Limits ℝ} {distance : ℝ} {profile : Profile ℝ}
    (h : ExactProfile limits distance profile) (t : ℝ) :
    (profile.sample t).position ≤ distance := by
  have hend := h.monotone_position (le_max_left t profile.duration)
  dsimp only at hend
  rwa [h.position_end _ (le_max_right t profile.duration)] at hend

variable {p : Phases ℝ} {limits : Limits ℝ} {distance : ℝ}

theorem profile_exact (h : p.Valid limits distance) (hkept : p.Kept limits.jerk)
    (hdistance : 0 < distance) : ExactProfile limits distance (p.profile limits.jerk) := by
  have hcurve := h.scurve
  have hkeeps := hcurve.keeps
  have hsample := profile_sample hcurve hkept
  have hduration := profile_duration hkept
  have hnonneg := hkeeps.forward.total_nonneg
  have hjerk := limits.jerk_pos.le
  have hpeak : limits.jerk * p.ramp * (p.ramp + p.hold) * (2 * p.ramp + p.hold + p.cruise) =
      distance := h.distance_eq
  refine ⟨fun t ht => ?_, fun t ht => ?_, ?_, ?_, ?_, ?_, fun t => ?_, fun t => ?_,
    fun t t' htt' => ?_, ?_, fun duration m => ?_⟩
  · rw [hsample, clamp_of_nonpos hnonneg ht, run_zero hkeeps.forward]
  · rw [hduration] at ht
    rw [hsample, clamp_of_ge hnonneg ht, run_total hkeeps.forward, SCurve.finish_eq, hpeak]
  · simpa only [hsample] using hkeeps.continuous_position
  · simpa only [hsample] using hkeeps.continuous_velocity
  · simpa only [hsample] using hkeeps.continuous_acceleration hjerk
  · simpa only [hsample] using hkeeps.monotone_position
  · rw [hsample, abs_of_nonneg (hkeeps.clamped_within t).velocity_nonneg]
    exact (hkeeps.clamped_within t).velocity_le
  · rw [hsample]
    exact (hkeeps.clamped_within t).acceleration
  · rw [hsample, hsample]
    exact hkeeps.clamped_jerk hjerk htt'
  · rw [hduration, ← hpeak]
    have hinside : ∀ t ∈ Icc 0 (total (JerkMotion.scurve p.ramp p.hold p.cruise limits.jerk)),
        (p.profile limits.jerk).sample t =
          run (JerkMotion.scurve p.ramp p.hold p.cruise limits.jerk) ⟨0, 0, 0⟩ t := by
      intro t ht
      rw [hsample, clamp_of_mem ht]
    exact ⟨hcurve.motion.congr (fun t ht => congrArg State.position (hinside t ht))
      (fun t ht => congrArg State.velocity (hinside t ht))
      (fun t ht => congrArg State.acceleration (hinside t ht)), fun t => rfl⟩
  · rw [hduration]
    rw [← hpeak] at hdistance m
    exact hcurve.shortest h.acceleration_full h.peak_full hdistance m

theorem sample_empty (t : ℝ) : ({} : Profile ℝ).sample t = ⟨0, 0, 0⟩ := by
  have hforward : Forward ({} : Profile ℝ).segments := List.forall_mem_nil _
  exact sample_eq_run hforward ⟨rfl, rfl⟩ t

theorem empty_exact (limits : Limits ℝ) : ExactProfile limits 0 {} := by
  have hwithin : (⟨0, 0, 0⟩ : State ℝ).Within limits.velocity limits.acceleration :=
    ⟨le_rfl, limits.velocity_pos.le, abs_zero.trans_le limits.acceleration_pos.le⟩
  have hkeeps : Keeps limits.velocity limits.acceleration limits.jerk [] ⟨0, 0, 0⟩ := hwithin
  have hmotion : ∃ m : RestToRest limits.velocity limits.acceleration limits.jerk 0
      ({} : Profile ℝ).duration,
      ∀ t, ({} : Profile ℝ).sample t = ⟨m.position t, m.velocity t, m.acceleration t⟩ :=
    ⟨(RestToRest.ofSegments limits.jerk_pos.le hkeeps rfl).congr
      (fun t _ => congrArg State.position (sample_empty t))
      (fun t _ => congrArg State.velocity (sample_empty t))
      (fun t _ => congrArg State.acceleration (sample_empty t)), fun t => rfl⟩
  refine ⟨fun t _ => sample_empty t, fun t _ => sample_empty t, ?_, ?_, ?_, ?_, fun t => ?_,
    fun t => ?_, fun t t' htt' => ?_, hmotion, fun duration m => m.duration_nonneg⟩
  all_goals simp only [sample_empty]
  · exact continuous_const
  · exact continuous_const
  · exact continuous_const
  · exact monotone_const
  · exact abs_zero.trans_le limits.velocity_pos.le
  · exact abs_zero.trans_le limits.acceleration_pos.le
  · rw [sub_self, abs_zero]
    exact mul_nonneg limits.jerk_pos.le (sub_nonneg.2 htt')

end Exact

section Line

/-- The joints at the share `r` of the way. -/
def between (start target : List ℝ) (r : ℝ) : List ℝ :=
  List.zipWith (fun origin goal => origin + r * (goal - origin)) start target

theorem between_zero {start target : List ℝ} (hlength : start.length = target.length) :
    between start target 0 = start := by
  induction start generalizing target with
  | nil => rfl
  | cons origin rest ih =>
    cases target with
    | nil => cases hlength
    | cons goal others =>
      have hrest := ih (Nat.succ.inj hlength)
      rw [between, List.zipWith_cons_cons, zero_mul, add_zero]
      exact congrArg (origin :: ·) hrest

theorem between_one {start target : List ℝ} (hlength : start.length = target.length) :
    between start target 1 = target := by
  induction start generalizing target with
  | nil => exact (List.length_eq_zero_iff.1 hlength.symm).symm
  | cons origin rest ih =>
    cases target with
    | nil => cases hlength
    | cons goal others =>
      have hrest := ih (Nat.succ.inj hlength)
      rw [between, List.zipWith_cons_cons, one_mul, add_sub_cancel]
      exact congrArg (goal :: ·) hrest

theorem zipWith_direction (start target : List ℝ) (distance u : ℝ) :
    List.zipWith (fun o d => o + d * u) start
        ((List.zipWith (fun origin goal => goal - origin) start target).map (· / distance)) =
      between start target (u / distance) := by
  induction start generalizing target with
  | nil => rfl
  | cons origin rest ih =>
    cases target with
    | nil => rfl
    | cons goal others =>
      have hrest := ih others
      have hfirst : origin + (goal - origin) / distance * u =
          origin + u / distance * (goal - origin) := by ring
      rw [List.zipWith_cons_cons, List.map_cons, List.zipWith_cons_cons, hfirst, hrest]
      rfl

theorem between_monotone (start target : List ℝ) (joint : ℕ) {r : ℝ → ℝ} (hr : Monotone r) :
    (Monotone fun t => (between start target (r t)).getD joint 0) ∨
      Antitone fun t => (between start target (r t)).getD joint 0 := by
  simp only [between, List.getD_eq_getElem?_getD, List.getElem?_zipWith]
  cases start[joint]? with
  | none => exact .inl monotone_const
  | some origin =>
    cases target[joint]? with
    | none => exact .inl monotone_const
    | some goal =>
      dsimp only [Option.getD_some]
      rcases le_total origin goal with hle | hle
      · exact .inl ((hr.mul_const (sub_nonneg.2 hle)).const_add origin)
      · exact .inr ((hr.mul_const_of_nonpos (sub_nonpos.2 hle)).const_add origin)

end Line

/-- What a planned move has to be. -/
structure ExactMove (limits : Limits ℝ) (start target : List ℝ) (plan : Plan ℝ) : Prop where
  start_eq : plan.start = start
  target_eq : plan.target = target
  profile : ExactProfile limits
    (largest (List.zipWith (fun origin goal => goal - origin) start target)) plan.profile
  at_rest : ∀ t, t ≤ 0 ∨ plan.duration ≤ t →
    ∀ x ∈ (plan.state t).velocities ++ (plan.state t).accelerations, x = 0
  continuous : ∀ joint, Continuous (fun t => (plan.state t).positions.getD joint 0) ∧
    Continuous (fun t => (plan.state t).velocities.getD joint 0) ∧
    Continuous fun t => (plan.state t).accelerations.getD joint 0
  straight : ∀ t, ∃ r ∈ Icc (0 : ℝ) 1, (plan.state t).positions = between start target r
  monotone : ∀ joint, (Monotone fun t => (plan.state t).positions.getD joint 0) ∨
    Antitone fun t => (plan.state t).positions.getD joint 0

/-- The move is nothing or longer than `epsilon`, and so are its phases. -/
structure NoneDropped (start target : List ℝ) (limits : Limits ℝ) : Prop where
  distance : largest (List.zipWith (fun origin goal => goal - origin) start target) = 0 ∨
    epsilon < largest (List.zipWith (fun origin goal => goal - origin) start target)
  phases : (phases (largest (List.zipWith (fun origin goal => goal - origin) start target))
    limits).Kept limits.jerk

section Joints

variable {limits : Limits ℝ} {distance : ℝ} {plan : Plan ℝ}

theorem ExactProfile.at_rest (h : ExactProfile limits distance plan.profile) {t : ℝ}
    (ht : t ≤ 0 ∨ plan.duration ≤ t) :
    ∀ x ∈ (plan.state t).velocities ++ (plan.state t).accelerations, x = 0 := by
  have hsample : (plan.profile.sample t).velocity = 0 ∧
      (plan.profile.sample t).acceleration = 0 := by
    rcases ht with ht | ht
    · rw [h.position_start t ht]
      exact ⟨rfl, rfl⟩
    · rw [h.position_end t ht]
      exact ⟨rfl, rfl⟩
  intro x hx
  rw [Plan.state] at hx
  dsimp only at hx
  rw [hsample.1, hsample.2, ← List.map_append, List.mem_map] at hx
  obtain ⟨d, -, rfl⟩ := hx
  exact mul_zero d

theorem continuous_map (direction : List ℝ) (joint : ℕ) {f : ℝ → ℝ} (hf : Continuous f) :
    Continuous fun t => (direction.map fun d => d * f t).getD joint 0 := by
  simp only [List.getD_eq_getElem?_getD, List.getElem?_map]
  cases direction[joint]? with
  | none => exact continuous_const
  | some d => exact continuous_const.mul hf

theorem continuous_zipWith (origin direction : List ℝ) (joint : ℕ) {f : ℝ → ℝ}
    (hf : Continuous f) :
    Continuous fun t => (List.zipWith (fun o d => o + d * f t) origin direction).getD joint 0 := by
  simp only [List.getD_eq_getElem?_getD, List.getElem?_zipWith]
  cases origin[joint]? with
  | none => exact continuous_const
  | some o =>
    cases direction[joint]? with
    | none => exact continuous_const
    | some d => exact continuous_const.add (continuous_const.mul hf)

theorem ExactProfile.continuous (h : ExactProfile limits distance plan.profile) (joint : ℕ) :
    Continuous (fun t => (plan.state t).positions.getD joint 0) ∧
      Continuous (fun t => (plan.state t).velocities.getD joint 0) ∧
      Continuous fun t => (plan.state t).accelerations.getD joint 0 :=
  ⟨continuous_zipWith _ _ joint h.continuous_position,
    continuous_map _ joint h.continuous_velocity,
    continuous_map _ joint h.continuous_acceleration⟩

end Joints

section Move

variable {start target : List ℝ} {limits : Limits ℝ}

theorem abs_le_largest {delta : List ℝ} {d : ℝ} (h : d ∈ delta) : |d| ≤ largest delta := by
  induction delta with
  | nil => cases h
  | cons first rest ih =>
    rcases List.mem_cons.1 h with rfl | h
    · exact le_max_left _ _
    · exact (ih h).trans (le_max_right _ _)

theorem eq_of_largest_eq_zero (hlength : start.length = target.length)
    (h : largest (List.zipWith (fun origin goal => goal - origin) start target) = 0) :
    start = target := by
  have hdelta : ∀ d ∈ List.zipWith (fun origin goal => goal - origin) start target, d = 0 :=
    fun d hd => abs_nonpos_iff.1 ((abs_le_largest hd).trans_eq h)
  clear h
  induction start generalizing target with
  | nil => exact (List.length_eq_zero_iff.1 hlength.symm).symm
  | cons origin rest ih =>
    cases target with
    | nil => cases hlength
    | cons goal others =>
      obtain ⟨hfirst, hrest⟩ := List.forall_mem_cons.1 hdelta
      rw [sub_eq_zero.1 hfirst, ih (Nat.succ.inj hlength) hrest]

theorem zipWith_zero (start target : List ℝ) (u : ℝ) :
    List.zipWith (fun o d => o + d * u) start
        ((List.zipWith (fun origin goal => goal - origin) start target).map fun _ => 0) =
      between start target 0 := by
  have hline := zipWith_direction start target 0 u
  simpa only [div_zero] using hline

theorem planMove_still (hlength : start.length = target.length) (hne : start ≠ [])
    (hstill : largest (List.zipWith (fun origin goal => goal - origin) start target) = 0) :
    ∃ plan, planMove start target limits = .ok plan ∧ ExactMove limits start target plan := by
  have hsmall : largest (List.zipWith (fun origin goal => goal - origin) start target) ≤
      epsilon := hstill.trans_le epsilon_pos.le
  have hguard : ¬(start.length ≠ target.length ∨ start = []) := by
    rintro (h | h)
    · exact h hlength
    · exact hne h
  refine ⟨⟨start, (List.zipWith (fun origin goal => goal - origin) start target).map fun _ => 0,
    {}⟩, ?_, ?_⟩
  · rw [planMove, if_neg hguard]
    exact if_pos hsmall
  have hpositions : ∀ t, (Plan.state ⟨start, (List.zipWith (fun origin goal => goal - origin)
      start target).map fun _ => 0, {}⟩ t).positions = between start target 0 :=
    fun t => zipWith_zero start target _
  have hsame := eq_of_largest_eq_zero hlength hstill
  have hexact := empty_exact limits
  refine ⟨(hpositions _).trans (between_zero hlength), ?_, ?_, fun t => hexact.at_rest,
    hexact.continuous, fun t => ⟨0, ⟨le_rfl, zero_le_one⟩, hpositions t⟩, fun joint => ?_⟩
  · exact ((hpositions _).trans (between_zero hlength)).trans hsame
  · rw [hstill]
    exact hexact
  · simp only [hpositions]
    exact .inl monotone_const

theorem planMove_moving (hlength : start.length = target.length) (hne : start ≠ [])
    (hfar : epsilon < largest (List.zipWith (fun origin goal => goal - origin) start target))
    (hkept : (phases (largest (List.zipWith (fun origin goal => goal - origin) start target))
      limits).Kept limits.jerk) :
    ∃ plan, planMove start target limits = .ok plan ∧ ExactMove limits start target plan := by
  have hguard : ¬(start.length ≠ target.length ∨ start = []) := by
    rintro (h | h)
    · exact h hlength
    · exact hne h
  have hpos := epsilon_pos.trans hfar
  have hexact := profile_exact (phases_valid limits hpos.le) hkept hpos
  have hmove : planMove start target limits = .ok ⟨start,
      (List.zipWith (fun origin goal => goal - origin) start target).map
        (· / largest (List.zipWith (fun origin goal => goal - origin) start target)),
      (phases (largest (List.zipWith (fun origin goal => goal - origin) start target))
        limits).profile limits.jerk⟩ := by
    rw [planMove, if_neg hguard]
    dsimp only
    rw [if_neg (not_le.2 hfar), scurve, if_neg (not_lt.2 hpos.le), if_neg (not_le.2 hfar)]
    rfl
  refine ⟨_, hmove, ?_⟩
  have hpositions : ∀ (profile : Profile ℝ) (t : ℝ), (Plan.state ⟨start,
      (List.zipWith (fun origin goal => goal - origin) start target).map
        (· / largest (List.zipWith (fun origin goal => goal - origin) start target)),
      profile⟩ t).positions = between start target ((profile.sample t).position /
        largest (List.zipWith (fun origin goal => goal - origin) start target)) :=
    fun profile t => zipWith_direction start target _ _
  refine ⟨?_, ?_, hexact, fun t => hexact.at_rest, hexact.continuous,
    fun t => ⟨_, ?_, hpositions _ t⟩, fun joint => ?_⟩
  · refine (hpositions _ _).trans ?_
    rw [hexact.position_start 0 le_rfl, zero_div, between_zero hlength]
  · refine (hpositions _ _).trans ?_
    rw [Plan.duration, hexact.position_end _ le_rfl, div_self hpos.ne', between_one hlength]
  · exact ⟨div_nonneg (hexact.position_nonneg t) hpos.le,
      (div_le_one hpos).2 (hexact.position_le t)⟩
  · simp only [hpositions]
    exact between_monotone start target joint fun t t' htt' =>
      div_le_div_of_nonneg_right (hexact.monotone_position htt') hpos.le

end Move

/-- The plan of a move is exact. -/
theorem planMove_exact (start target : List ℝ) (limits : Limits ℝ)
    (hlength : start.length = target.length) (hne : start ≠ [])
    (hkept : NoneDropped start target limits) :
    ∃ plan, planMove start target limits = .ok plan ∧ ExactMove limits start target plan := by
  rcases hkept.distance with hstill | hfar
  · exact planMove_still hlength hne hstill
  · exact planMove_moving hlength hne hfar hkept.phases

/-- Two joints move by ten and by five, with a hold and a cruise. -/
theorem planMove_exact_ten : ∃ plan,
    planMove [(0 : ℝ), 4] [10, -1] ⟨2, 1, 1, two_pos, one_pos, one_pos⟩ = .ok plan ∧
      ExactMove ⟨2, 1, 1, two_pos, one_pos, one_pos⟩ [0, 4] [10, -1] plan := by
  have hten : largest (List.zipWith (fun origin goal => goal - origin) [(0 : ℝ), 4] [10, -1]) =
      10 := by
    norm_num [largest, abs_of_nonneg, abs_of_nonpos]
  have hphases : phases (10 : ℝ) ⟨2, 1, 1, two_pos, one_pos, one_pos⟩ = ⟨1, 1, 2⟩ := by
    norm_num [phases]
  refine planMove_exact _ _ _ rfl (List.cons_ne_nil _ _) ⟨.inr ?_, ?_⟩
  · rw [hten]
    norm_num [epsilon]
  · rw [hten, hphases]
    norm_num [Phases.Kept, Phases.items, epsilon]

theorem largest_singleton (origin goal : ℝ) :
    largest (List.zipWith (fun origin goal => goal - origin) [origin] [goal]) =
      |goal - origin| := by
  simp [largest]

theorem phases_epsilon : phases (epsilon : ℝ) ⟨1, 1, 500, one_pos, one_pos, by norm_num⟩ =
    ⟨1 / 100000, 0, 0⟩ := by
  have hcbrt : RootMath.cbrt (epsilon / (2 * 500) : ℝ) = 1 / 100000 := by
    have hshare : (0 : ℝ) ≤ epsilon / (2 * 500) := by norm_num [epsilon]
    have hcube : RootMath.cbrt (epsilon / (2 * 500) : ℝ) ^ 3 = (1 / 100000) ^ 3 := by
      rw [cbrt_pow hshare]
      norm_num [epsilon]
    exact (pow_left_inj₀ (cbrt_nonneg hshare) (by norm_num) three_ne_zero).1 hcube
  have htime : ((1 : ℝ) * 1 / 500 + RootMath.sqrt ((1 : ℝ) ^ 4 / 500 ^ 2 + 4 * 1 * epsilon)) /
      (2 * 1) < 2 * (1 / 500) := by
    have hroot : √((1 : ℝ) ^ 4 / 500 ^ 2 + 4 * 1 * epsilon) < 1 / 250 := by
      rw [Real.sqrt_lt' (by norm_num)]
      norm_num [epsilon]
    have hmath : RootMath.sqrt ((1 : ℝ) ^ 4 / 500 ^ 2 + 4 * 1 * epsilon) < 1 / 250 := hroot
    linarith
  have hfull : (1 : ℝ) * 1 ≤ 1 * 500 := by norm_num
  have hcruise : (epsilon : ℝ) / 1 - (1 / 500 + 1 / 1) < 0 := by norm_num [epsilon]
  rw [phases]
  dsimp only
  rw [if_pos hfull]
  dsimp only
  rw [if_pos hcruise, if_pos htime, hcbrt]
  norm_num

/-- A move of `epsilon` itself is planned as none, whatever its phases. -/
theorem planMove_epsilon_stays : ¬∀ (start target : List ℝ) (limits : Limits ℝ),
    start.length = target.length → start ≠ [] →
      (phases (largest (List.zipWith (fun origin goal => goal - origin) start target))
        limits).Kept limits.jerk →
      ∃ plan, planMove start target limits = .ok plan ∧ ExactMove limits start target plan := by
  intro h
  have hdistance : |(epsilon : ℝ) - 0| = epsilon := by rw [sub_zero, abs_of_pos epsilon_pos]
  have hkept : (phases (largest (List.zipWith (fun origin goal => goal - origin) [(0 : ℝ)]
      [epsilon])) ⟨1, 1, 500, one_pos, one_pos, by norm_num⟩).Kept 500 := by
    rw [largest_singleton, hdistance, phases_epsilon]
    norm_num [Phases.Kept, Phases.items, epsilon]
  obtain ⟨plan, hplan, hexact⟩ := h [0] [epsilon] ⟨1, 1, 500, one_pos, one_pos, by norm_num⟩ rfl
    (List.cons_ne_nil _ _) hkept
  have hstays : planMove [(0 : ℝ)] [epsilon] ⟨1, 1, 500, one_pos, one_pos, by norm_num⟩ =
      .ok ⟨[0], [0], {}⟩ := by
    simp [planMove, largest, abs_of_pos epsilon_pos, epsilon_pos.le]
  rw [hstays] at hplan
  obtain rfl := Except.ok.inj hplan
  have htarget := hexact.target_eq
  simp [Plan.target, Plan.state, epsilon_pos.ne] at htarget

end RobotDriver.OperatorWeb.Trajectory
