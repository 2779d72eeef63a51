import Mathlib.Algebra.Order.BigOperators.Group.List
import Mathlib.Algebra.Order.Field.Basic
import Mathlib.Tactic.FieldSimp
import Mathlib.Tactic.Linarith
import Mathlib.Tactic.Ring
import RobotDriver.Lib.Numerals

/-!
# Motions of piecewise constant jerk

A motion along a path is a state to start from and a list of segments, each a duration with the jerk
that holds for so long. `run` is the state after a time; it follows the bounds that the states
between the segments keep.
-/

namespace JerkMotion

structure State (K : Type*) where
  position : K
  velocity : K
  acceleration : K

variable {K : Type*} [Field K]

namespace State

/-- The state after the time `t` of constant jerk. -/
def advance (s : State K) (jerk t : K) : State K where
  position := s.position + (s.velocity * t + s.acceleration * t ^ 2 / 2 + jerk * t ^ 3 / 6)
  velocity := s.velocity + (s.acceleration * t + jerk * t ^ 2 / 2)
  acceleration := s.acceleration + jerk * t

@[simp] theorem advance_zero (s : State K) (jerk : K) : s.advance jerk 0 = s := by
  simp [advance]

end State

/-- The time that all segments take. -/
def total (segments : List (K × K)) : K := (segments.map Prod.fst).sum

/-- The state after all segments. -/
def finish (segments : List (K × K)) (s : State K) : State K :=
  segments.foldl (fun s segment => s.advance segment.2 segment.1) s

@[simp] theorem total_nil : total ([] : List (K × K)) = 0 := rfl

@[simp] theorem total_cons (segment : K × K) (rest : List (K × K)) :
    total (segment :: rest) = segment.1 + total rest := List.sum_cons

@[simp] theorem total_append (first second : List (K × K)) :
    total (first ++ second) = total first + total second := by
  rw [total, List.map_append, List.sum_append, total, total]

@[simp] theorem finish_nil (s : State K) : finish [] s = s := rfl

@[simp] theorem finish_cons (segment : K × K) (rest : List (K × K)) (s : State K) :
    finish (segment :: rest) s = finish rest (s.advance segment.2 segment.1) := rfl

theorem finish_append (first second : List (K × K)) (s : State K) :
    finish (first ++ second) s = finish second (finish first s) := List.foldl_append

/-- No segment has a negative duration. -/
def Forward [LE K] (segments : List (K × K)) : Prop := ∀ segment ∈ segments, 0 ≤ segment.1

variable [LinearOrder K]

/-- No segment exceeds the jerk limit. -/
def Gentle (J : K) (segments : List (K × K)) : Prop := ∀ segment ∈ segments, |segment.2| ≤ J

/-- The state after the time `t`, at most the time of all segments. -/
def run : List (K × K) → State K → K → State K
  | [], s, _ => s
  | (duration, jerk) :: rest, s, t =>
    if t ≤ duration then s.advance jerk t else run rest (s.advance jerk duration) (t - duration)

section Run

variable {segments : List (K × K)} {s : State K} {t : K}

@[simp] theorem run_nil (s : State K) (t : K) : run [] s t = s := rfl

theorem run_of_le {duration jerk : K} (later : List (K × K)) (s : State K) (h : t ≤ duration) :
    run ((duration, jerk) :: later) s t = s.advance jerk t := if_pos h

theorem run_of_lt {duration jerk : K} (later : List (K × K)) (s : State K) (h : duration < t) :
    run ((duration, jerk) :: later) s t = run later (s.advance jerk duration) (t - duration) :=
  if_neg (not_le.2 h)

theorem Forward.cons {segment : K × K} {later : List (K × K)} (h : Forward (segment :: later)) :
    0 ≤ segment.1 ∧ Forward later :=
  List.forall_mem_cons.1 h

theorem run_zero (h : Forward segments) (s : State K) : run segments s 0 = s := by
  cases segments with
  | nil => rfl
  | cons segment later => exact (run_of_le later s h.cons.1).trans (s.advance_zero _)

theorem run_of_ge {duration jerk : K} {later : List (K × K)} (hlater : Forward later)
    (s : State K) (h : duration ≤ t) :
    run ((duration, jerk) :: later) s t = run later (s.advance jerk duration) (t - duration) := by
  rcases h.lt_or_eq with h | rfl
  · exact run_of_lt later s h
  · rw [run_of_le later s le_rfl, sub_self, run_zero hlater]

variable [IsStrictOrderedRing K]

theorem Forward.total_nonneg (h : Forward segments) : 0 ≤ total segments :=
  List.sum_nonneg (List.forall_mem_map.2 h)

theorem run_total (h : Forward segments) (s : State K) :
    run segments s (total segments) = finish segments s := by
  induction segments generalizing s with
  | nil => rfl
  | cons segment later ih =>
    have hle : segment.1 ≤ total (segment :: later) := by
      rw [total_cons]
      exact le_add_of_nonneg_right h.cons.2.total_nonneg
    refine (run_of_ge h.cons.2 s hle).trans ?_
    rw [total_cons, add_sub_cancel_left, ih h.cons.2, finish_cons]

theorem run_append_of_ge {first second : List (K × K)} (hfirst : Forward first)
    (hsecond : Forward second) (s : State K) (h : total first ≤ t) :
    run (first ++ second) s t = run second (finish first s) (t - total first) := by
  induction first generalizing s t with
  | nil => rw [List.nil_append, total_nil, sub_zero, finish_nil]
  | cons segment later ih =>
    rw [total_cons] at h
    have hlater : Forward (later ++ second) := by
      intro other hother
      exact (List.mem_append.1 hother).elim (hfirst.cons.2 other) (hsecond other)
    have hle : segment.1 ≤ t := (le_add_of_nonneg_right hfirst.cons.2.total_nonneg).trans h
    refine (run_of_ge hlater s hle).trans ?_
    rw [ih hfirst.cons.2 _ (by linarith), total_cons, finish_cons, sub_sub]

theorem run_append_of_le {first second : List (K × K)} (hfirst : Forward first)
    (hsecond : Forward second) (s : State K) (h : t ≤ total first) (ht : 0 ≤ t) :
    run (first ++ second) s t = run first s t := by
  induction first generalizing s t with
  | nil =>
    have hzero : t = 0 := le_antisymm h ht
    rw [hzero, List.nil_append, run_zero hsecond, run_nil]
  | cons segment later ih =>
    rw [total_cons] at h
    rcases le_or_gt t segment.1 with hle | hlt
    · exact (run_of_le _ s hle).trans (run_of_le later s hle).symm
    · refine (run_of_lt _ s hlt).trans (Eq.trans ?_ (run_of_lt later s hlt).symm)
      exact ih hfirst.cons.2 _ (by linarith) (by linarith)

theorem run_filter {ε : K} (hε : 0 < ε)
    (hkept : ∀ segment ∈ segments, segment.1 = 0 ∨ ε < segment.1) (s : State K) (ht : 0 ≤ t) :
    run (segments.filter fun segment => ε < segment.1) s t = run segments s t := by
  induction segments generalizing s t with
  | nil => rfl
  | cons segment later ih =>
    obtain ⟨hsegment, hlater⟩ := List.forall_mem_cons.1 hkept
    have hforward : Forward later := fun other hother =>
      (hlater other hother).elim (fun h => h.ge) fun h => (hε.trans h).le
    rcases hsegment with hzero | hlong
    · rw [List.filter_cons_of_neg (by simpa [hzero] using hε.le), ih hlater s ht]
      refine ((run_of_ge hforward s (hzero.trans_le ht)).trans ?_).symm
      rw [hzero, sub_zero, State.advance_zero]
    · rw [List.filter_cons_of_pos (by simpa using hlong)]
      rcases le_or_gt t segment.1 with hle | hlt
      · exact (run_of_le _ s hle).trans (run_of_le later s hle).symm
      · refine (run_of_lt _ s hlt).trans (Eq.trans ?_ (run_of_lt later s hlt).symm)
        exact ih hlater _ (by linarith)

omit [IsStrictOrderedRing K] in
theorem total_filter {ε : K} (hε : 0 < ε)
    (hkept : ∀ segment ∈ segments, segment.1 = 0 ∨ ε < segment.1) :
    total (segments.filter fun segment => ε < segment.1) = total segments := by
  induction segments with
  | nil => rfl
  | cons segment later ih =>
    obtain ⟨hsegment, hlater⟩ := List.forall_mem_cons.1 hkept
    rcases hsegment with hzero | hlong
    · rw [List.filter_cons_of_neg (by simpa [hzero] using hε.le), ih hlater, total_cons, hzero,
        zero_add]
    · rw [List.filter_cons_of_pos (by simpa using hlong), total_cons, total_cons, ih hlater]

end Run

section Limits

variable (V A J : K)

structure State.Within (s : State K) : Prop where
  velocity_nonneg : 0 ≤ s.velocity
  velocity_le : s.velocity ≤ V
  acceleration : |s.acceleration| ≤ A

/-- A segment within the jerk limit whose acceleration does not change its sign. -/
structure Steady (segment : K × K) (s : State K) : Prop where
  start : s.Within V A
  duration : 0 ≤ segment.1
  jerk : |segment.2| ≤ J
  sign : 0 ≤ s.acceleration ∧ 0 ≤ (s.advance segment.2 segment.1).acceleration ∨
    s.acceleration ≤ 0 ∧ (s.advance segment.2 segment.1).acceleration ≤ 0

/-- The states between the segments are within the limits. -/
def Keeps : List (K × K) → State K → Prop
  | [], s => s.Within V A
  | segment :: later, s => Steady V A J segment s ∧ Keeps later (s.advance segment.2 segment.1)

end Limits

section Keeps

variable {V A J : K} {segments : List (K × K)} {s : State K}

theorem Keeps.forward (h : Keeps V A J segments s) : Forward segments := by
  induction segments generalizing s with
  | nil => exact List.forall_mem_nil _
  | cons segment later ih => exact List.forall_mem_cons.2 ⟨h.1.duration, ih h.2⟩

theorem Keeps.gentle (h : Keeps V A J segments s) : Gentle J segments := by
  induction segments generalizing s with
  | nil => exact List.forall_mem_nil _
  | cons segment later ih => exact List.forall_mem_cons.2 ⟨h.1.jerk, ih h.2⟩

theorem Keeps.start (h : Keeps V A J segments s) : s.Within V A := by
  cases segments with
  | nil => exact h
  | cons segment later => exact h.1.start

theorem keeps_append {first second : List (K × K)} :
    Keeps V A J (first ++ second) s ↔
      Keeps V A J first s ∧ Keeps V A J second (finish first s) := by
  induction first generalizing s with
  | nil => exact ⟨fun h => ⟨h.start, h⟩, fun h => h.2⟩
  | cons segment later ih => exact (and_congr_right fun _ => ih).trans and_assoc.symm

end Keeps

section Bounds

variable [IsStrictOrderedRing K] {V A J : K} {segments : List (K × K)} {s : State K}
  {jerk d t t' c : K}

theorem le_acceleration (hstart : c ≤ s.acceleration) (hend : c ≤ (s.advance jerk d).acceleration)
    (ht : 0 ≤ t) (hle : t ≤ d) : c ≤ (s.advance jerk t).acceleration := by
  simp only [State.advance] at hend ⊢
  rcases le_total 0 jerk with hjerk | hjerk
  · have hgrown : 0 ≤ jerk * t := mul_nonneg hjerk ht
    linarith
  · have hless : jerk * d ≤ jerk * t := mul_le_mul_of_nonpos_left hle hjerk
    linarith

theorem acceleration_le (hstart : s.acceleration ≤ c) (hend : (s.advance jerk d).acceleration ≤ c)
    (ht : 0 ≤ t) (hle : t ≤ d) : (s.advance jerk t).acceleration ≤ c := by
  simp only [State.advance] at hend ⊢
  rcases le_total 0 jerk with hjerk | hjerk
  · have hless : jerk * t ≤ jerk * d := mul_le_mul_of_nonneg_left hle hjerk
    linarith
  · have hshrunk : jerk * t ≤ 0 := mul_nonpos_of_nonpos_of_nonneg hjerk ht
    linarith

theorem velocity_sub (s : State K) (jerk t t' : K) :
    (s.advance jerk t').velocity - (s.advance jerk t).velocity =
      (t' - t) * (s.advance jerk ((t + t') / 2)).acceleration := by
  simp only [State.advance]
  ring

theorem velocity_le_of_rising (hstart : 0 ≤ s.acceleration)
    (hend : 0 ≤ (s.advance jerk d).acceleration) (ht : 0 ≤ t) (htt' : t ≤ t') (hle : t' ≤ d) :
    (s.advance jerk t).velocity ≤ (s.advance jerk t').velocity := by
  have hmiddle : 0 ≤ (s.advance jerk ((t + t') / 2)).acceleration :=
    le_acceleration hstart hend (by linarith) (by linarith)
  have hgain := mul_nonneg (sub_nonneg.2 htt') hmiddle
  rw [← velocity_sub] at hgain
  exact sub_nonneg.1 hgain

theorem velocity_le_of_falling (hstart : s.acceleration ≤ 0)
    (hend : (s.advance jerk d).acceleration ≤ 0) (ht : 0 ≤ t) (htt' : t ≤ t') (hle : t' ≤ d) :
    (s.advance jerk t').velocity ≤ (s.advance jerk t).velocity := by
  have hmiddle : (s.advance jerk ((t + t') / 2)).acceleration ≤ 0 :=
    acceleration_le hstart hend (by linarith) (by linarith)
  have hloss := mul_nonpos_of_nonneg_of_nonpos (sub_nonneg.2 htt') hmiddle
  rw [← velocity_sub] at hloss
  exact sub_nonpos.1 hloss

theorem Steady.within {segment : K × K} (h : Steady V A J segment s)
    (hend : (s.advance segment.2 segment.1).Within V A) (ht : 0 ≤ t) (hle : t ≤ segment.1) :
    (s.advance segment.2 t).Within V A := by
  obtain ⟨hlow, hhigh⟩ := abs_le.1 h.start.acceleration
  obtain ⟨hlow', hhigh'⟩ := abs_le.1 hend.acceleration
  have hbound : |(s.advance segment.2 t).acceleration| ≤ A :=
    abs_le.2 ⟨le_acceleration hlow hlow' ht hle, acceleration_le hhigh hhigh' ht hle⟩
  have hfirst := h.start.velocity_nonneg
  have hfirst' := h.start.velocity_le
  rcases h.sign with ⟨hstart, hstop⟩ | ⟨hstart, hstop⟩
  · have hmore := velocity_le_of_rising hstart hstop le_rfl ht hle
    have hless := velocity_le_of_rising hstart hstop ht hle le_rfl
    rw [State.advance_zero] at hmore
    exact ⟨hfirst.trans hmore, hless.trans hend.velocity_le, hbound⟩
  · have hless := velocity_le_of_falling hstart hstop le_rfl ht hle
    have hmore := velocity_le_of_falling hstart hstop ht hle le_rfl
    rw [State.advance_zero] at hless
    exact ⟨hend.velocity_nonneg.trans hmore, hless.trans hfirst', hbound⟩

theorem Keeps.within (h : Keeps V A J segments s) (ht : 0 ≤ t) : (run segments s t).Within V A := by
  induction segments generalizing s t with
  | nil => exact h
  | cons segment later ih =>
    rcases le_or_gt t segment.1 with hle | hlt
    · rw [run_of_le later s hle]
      exact h.1.within h.2.start ht hle
    · rw [run_of_lt later s hlt]
      exact ih h.2 (sub_nonneg.2 hlt.le)

theorem Gentle.acceleration_sub_le (h : Gentle J segments) (hforward : Forward segments)
    (hJ : 0 ≤ J) (ht : 0 ≤ t) (htt' : t ≤ t') :
    |(run segments s t').acceleration - (run segments s t).acceleration| ≤ J * (t' - t) := by
  induction segments generalizing s t t' with
  | nil =>
    rw [run_nil, run_nil, sub_self, abs_zero]
    exact mul_nonneg hJ (sub_nonneg.2 htt')
  | cons segment later ih =>
    obtain ⟨hsegment, hlater⟩ := List.forall_mem_cons.1 h
    have hwithin : ∀ a b, a ≤ b → |(s.advance segment.2 b).acceleration -
        (s.advance segment.2 a).acceleration| ≤ J * (b - a) := by
      intro a b hab
      have hchange : (s.advance segment.2 b).acceleration - (s.advance segment.2 a).acceleration =
          segment.2 * (b - a) := by
        simp only [State.advance]
        ring
      rw [hchange, abs_mul, abs_of_nonneg (sub_nonneg.2 hab)]
      exact mul_le_mul_of_nonneg_right hsegment (sub_nonneg.2 hab)
    rcases le_or_gt t' segment.1 with hle' | hlt'
    · rw [run_of_le later s hle', run_of_le later s (htt'.trans hle')]
      exact hwithin t t' htt'
    rw [run_of_lt later s hlt']
    rcases le_or_gt t segment.1 with hle | hlt
    · -- the segment ends in between
      rw [run_of_le later s hle]
      have hrest := ih (s := s.advance segment.2 segment.1) hlater hforward.cons.2 le_rfl
        (sub_nonneg.2 hlt'.le)
      rw [run_zero hforward.cons.2, sub_zero] at hrest
      have hfirst := hwithin t segment.1 hle
      have hsum := (abs_sub_le _ _ _).trans (add_le_add hrest hfirst)
      linarith
    · rw [run_of_lt later s hlt]
      have hrest := ih (s := s.advance segment.2 segment.1) hlater hforward.cons.2
        (sub_nonneg.2 hlt.le) (sub_le_sub_right htt' segment.1)
      rwa [sub_sub_sub_cancel_right] at hrest

theorem Keeps.acceleration_sub_le (h : Keeps V A J segments s) (hJ : 0 ≤ J) (ht : 0 ≤ t)
    (htt' : t ≤ t') :
    |(run segments s t').acceleration - (run segments s t).acceleration| ≤ J * (t' - t) :=
  h.gentle.acceleration_sub_le h.forward hJ ht htt'

end Bounds

end JerkMotion
