import Mathlib.Data.Nat.Count

/-!
# Ranked progress along a sequence of states

A rank that never grows and falls at every marked step bounds the number of marked steps. When
every index that is not done is followed by one that is done or has a lower rank, a done index is
reached.
-/

namespace Progress

variable (rank : ℕ → ℕ) {marked : ℕ → Prop} [DecidablePred marked]

theorem count_add_rank_le {n : ℕ} (hle : ∀ k < n, rank (k + 1) ≤ rank k)
    (hlt : ∀ k < n, marked k → rank (k + 1) < rank k) :
    Nat.count marked n + rank n ≤ rank 0 := by
  induction n with
  | zero => simp
  | succ n ih =>
    have hprev := ih (fun k hk => hle k (by omega)) (fun k hk => hlt k (by omega))
    have hstep := hle n (by omega)
    rw [Nat.count_succ]
    split
    · have hmarked := hlt n (by omega) ‹_›
      omega
    · omega

theorem eventually_of_rank (done : ℕ → Prop) (start : ℕ)
    (h : ∀ i, start ≤ i → ¬done i → ∃ j, i < j ∧ (done j ∨ rank j < rank i)) :
    ∃ n, start ≤ n ∧ done n := by
  have hrank : ∀ r i, start ≤ i → rank i ≤ r → ∃ n, start ≤ n ∧ done n := by
    intro r
    induction r with
    | zero =>
      intro i hi hr
      by_cases hdone : done i
      · exact ⟨i, hi, hdone⟩
      · obtain ⟨j, hij, hj | hj⟩ := h i hi hdone
        · exact ⟨j, by omega, hj⟩
        · omega
    | succ r ih =>
      intro i hi hr
      by_cases hdone : done i
      · exact ⟨i, hi, hdone⟩
      · obtain ⟨j, hij, hj | hj⟩ := h i hi hdone
        · exact ⟨j, by omega, hj⟩
        · exact ih j (by omega) (by omega)
  exact hrank (rank start) start le_rfl le_rfl

end Progress
