import Mathlib.Analysis.InnerProductSpace.Basic
import RobotDriver.Lib.Numerals

/-!
# Clipping a vector to a ball

`clip r` keeps the direction of a vector and cuts its length at `r`. It is the nearest point of the
ball of radius `r`; so a walk of bounded length toward a point of the ball, clipped to the ball
afterwards, keeps its bound only where it ends in the ball by itself.
-/

namespace RadialClip

variable {E : Type*} [NormedAddCommGroup E] [InnerProductSpace ℝ E]

open scoped RealInnerProductSpace

noncomputable def clip (r : ℝ) (v : E) : E := if r < ‖v‖ then (r / ‖v‖) • v else v

variable {r : ℝ} {v w : E}

theorem clip_of_le (h : ‖v‖ ≤ r) : clip r v = v := if_neg h.not_gt

theorem clip_of_lt (h : r < ‖v‖) : clip r v = (r / ‖v‖) • v := if_pos h

theorem norm_clip_of_lt (hr : 0 ≤ r) (h : r < ‖v‖) : ‖clip r v‖ = r := by
  have hv : 0 < ‖v‖ := hr.trans_lt h
  rw [clip_of_lt h, norm_smul, Real.norm_of_nonneg (div_nonneg hr hv.le), div_mul_cancel₀ _ hv.ne']

theorem norm_clip_le (hr : 0 ≤ r) (v : E) : ‖clip r v‖ ≤ r := by
  rcases le_or_gt ‖v‖ r with h | h
  · rwa [clip_of_le h]
  · exact (norm_clip_of_lt hr h).le

theorem exists_clip_eq_smul (hr : 0 ≤ r) (v : E) : ∃ t : ℝ, 0 ≤ t ∧ t ≤ 1 ∧ clip r v = t • v := by
  rcases le_or_gt ‖v‖ r with h | h
  · exact ⟨1, zero_le_one, le_rfl, by rw [clip_of_le h, one_smul]⟩
  · exact ⟨r / ‖v‖, div_nonneg hr (norm_nonneg v), div_le_one_of_le₀ h.le (norm_nonneg v),
      clip_of_lt h⟩

theorem inner_sub_clip_nonpos (hr : 0 ≤ r) (hw : ‖w‖ ≤ r) (v : E) :
    ⟪v - clip r v, w - clip r v⟫ ≤ 0 := by
  rcases le_or_gt ‖v‖ r with h | h
  · rw [clip_of_le h, sub_self, inner_zero_left]
  have hv : 0 < ‖v‖ := hr.trans_lt h
  have hsub : v - clip r v = (1 - r / ‖v‖) • v := by rw [clip_of_lt h, sub_smul, one_smul]
  have hclip : ⟪v, clip r v⟫ = r * ‖v‖ := by
    rw [clip_of_lt h, real_inner_smul_right, real_inner_self_eq_norm_sq]
    field_simp
  have hinner : ⟪v, w⟫ ≤ r * ‖v‖ :=
    (real_inner_le_norm v w).trans (by rw [mul_comm]; gcongr)
  rw [hsub, real_inner_smul_left, inner_sub_right, hclip]
  refine mul_nonpos_of_nonneg_of_nonpos ?_ (sub_nonpos.2 hinner)
  rw [sub_nonneg]
  exact div_le_one_of_le₀ h.le hv.le

theorem norm_clip_step_le_iff {m : ℝ} (hm : 0 ≤ m) (hr : 0 ≤ r) (hw : ‖w‖ ≤ r) (v : E) :
    ‖clip r (v + clip m (w - v)) - v‖ ≤ m ↔ ‖v + clip m (w - v)‖ ≤ r := by
  constructor
  · intro hmoved
    by_contra! hout
    have hlong : m < ‖w - v‖ := by
      by_contra! hshort
      rw [clip_of_le hshort, add_sub_cancel] at hout
      exact hout.not_ge hw
    obtain ⟨t, ht, ht', hstep⟩ := exists_clip_eq_smul hm (w - v)
    set u := v + clip m (w - v) with hu
    have huv : u - v = t • (w - v) := by rw [hu, add_sub_cancel_left, hstep]
    have hlength : ‖u - v‖ = m := by
      rw [hu, add_sub_cancel_left, norm_clip_of_lt hm hlong]
    have hstrict : t < 1 := by
      refine ht'.lt_of_ne ?_
      rintro rfl
      rw [huv, one_smul] at hlength
      exact hlong.ne' hlength
    have hgap : 0 < ‖u - clip r u‖ := by
      rw [norm_pos_iff, sub_ne_zero]
      intro heq
      rw [heq] at hout
      exact hout.not_ge (norm_clip_le hr u)
    -- from the clipped end, both the target and the start lie beyond the end of the step
    have hbehind : ⟪u - clip r u, w - u⟫ ≤ 0 := by
      have hsum : w - clip r u = (w - u) + (u - clip r u) := (sub_add_sub_cancel _ _ _).symm
      have hobtuse := inner_sub_clip_nonpos hr hw u
      rw [hsum, inner_add_right, real_inner_self_eq_norm_sq] at hobtuse
      linarith [sq_nonneg ‖u - clip r u‖]
    have hway : t • (w - u) = (1 - t) • (u - v) := by
      have hwu : w - u = (w - v) - (u - v) := (sub_sub_sub_cancel_right _ _ _).symm
      rw [hwu, smul_sub, ← huv, sub_smul, one_smul]
    have hstart : ⟪u - clip r u, u - v⟫ ≤ 0 := by
      have hscaled := congrArg (fun z => ⟪u - clip r u, z⟫) hway
      simp only [real_inner_smul_right] at hscaled
      have hnonpos := mul_nonpos_of_nonneg_of_nonpos ht hbehind
      rw [hscaled] at hnonpos
      exact nonpos_of_mul_nonpos_right hnonpos (sub_pos.2 hstrict)
    have hsquare : ‖clip r u - v‖ ^ 2 =
        m ^ 2 - 2 * ⟪u - clip r u, u - v⟫ + ‖u - clip r u‖ ^ 2 := by
      have hsub : clip r u - v = (u - v) - (u - clip r u) := by abel
      rw [hsub, norm_sub_sq_real, hlength, real_inner_comm]
    have hshort : ‖clip r u - v‖ ^ 2 ≤ m ^ 2 := pow_le_pow_left₀ (norm_nonneg _) hmoved 2
    linarith [pow_pos hgap 2]
  · intro hin
    rw [clip_of_le hin, add_sub_cancel_left]
    exact norm_clip_le hm _

theorem norm_step_le_iff_exists {m : ℝ} (hm : 0 ≤ m) (hw : ‖w‖ ≤ r) (v : E) :
    ‖v + clip m (w - v)‖ ≤ r ↔
      ∃ t : ℝ, 0 ≤ t ∧ t ≤ 1 ∧ ‖t • (w - v)‖ ≤ m ∧ ‖v + t • (w - v)‖ ≤ r := by
  constructor
  · intro hin
    obtain ⟨t, ht, ht', hclip⟩ := exists_clip_eq_smul hm (w - v)
    exact ⟨t, ht, ht', hclip ▸ norm_clip_le hm _, hclip ▸ hin⟩
  · rintro ⟨s, hs, hs', hnear, hball⟩
    rcases le_or_gt ‖w - v‖ m with hshort | hlong
    · rwa [clip_of_le hshort, add_sub_cancel]
    have hpos : 0 < ‖w - v‖ := hm.trans_lt hlong
    have hst : s ≤ m / ‖w - v‖ := by
      rwa [le_div_iff₀ hpos, ← Real.norm_of_nonneg hs, ← norm_smul]
    have ht : m / ‖w - v‖ ≤ 1 := div_le_one_of_le₀ hlong.le hpos.le
    rw [clip_of_lt hlong]
    set t := m / ‖w - v‖
    -- the end lies between the point of the way and the target of the step
    rcases hs'.eq_or_lt with rfl | hlt
    · rwa [le_antisymm ht hst]
    have hne : 1 - s ≠ 0 := (sub_pos.2 hlt).ne'
    have hsum : v + t • (w - v) =
        ((1 - t) / (1 - s)) • (v + s • (w - v)) + ((t - s) / (1 - s)) • w := by
      match_scalars <;> field_simp <;> ring
    have hleft : 0 ≤ (1 - t) / (1 - s) := div_nonneg (sub_nonneg.2 ht) (sub_pos.2 hlt).le
    have hright : 0 ≤ (t - s) / (1 - s) := div_nonneg (sub_nonneg.2 hst) (sub_pos.2 hlt).le
    rw [hsum]
    calc ‖((1 - t) / (1 - s)) • (v + s • (w - v)) + ((t - s) / (1 - s)) • w‖
        ≤ ((1 - t) / (1 - s)) * ‖v + s • (w - v)‖ + ((t - s) / (1 - s)) * ‖w‖ := by
          refine (norm_add_le _ _).trans_eq ?_
          rw [norm_smul, norm_smul, Real.norm_of_nonneg hleft, Real.norm_of_nonneg hright]
      _ ≤ ((1 - t) / (1 - s)) * r + ((t - s) / (1 - s)) * r :=
          add_le_add (mul_le_mul_of_nonneg_left hball hleft) (mul_le_mul_of_nonneg_left hw hright)
      _ = r := by
          field_simp
          ring

end RadialClip
