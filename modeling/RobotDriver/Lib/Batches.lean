import Mathlib.Data.List.SplitLengths
import Mathlib.Data.List.Nodup
import Mathlib.Data.List.Perm.Basic

/-!
# Batches of a list

A list of batches partitions a list when the batches are non-empty, no element occurs twice in
them, and they hold the elements of the list and no others. A consecutive cut of a list into
batches of one size is such a partition of a list without repetitions.
-/

namespace RobotDriver

variable {α β : Type*}

structure Partitions (batches : List (List α)) (whole : List α) : Prop where
  nodup : batches.flatten.Nodup
  nonempty : ∀ batch ∈ batches, batch ≠ []
  covers : ∀ x, x ∈ batches.flatten ↔ x ∈ whole

namespace Partitions

variable {batches : List (List α)} {whole : List α}

theorem iff_and : Partitions batches whole ↔ batches.flatten.Nodup ∧
    (∀ batch ∈ batches, batch ≠ []) ∧ ∀ x, x ∈ batches.flatten ↔ x ∈ whole :=
  ⟨fun h => ⟨h.nodup, h.nonempty, h.covers⟩, fun h => ⟨h.1, h.2.1, h.2.2⟩⟩

theorem mem_iff (h : Partitions batches whole) {x : α} :
    x ∈ whole ↔ ∃ batch ∈ batches, x ∈ batch := by
  rw [← h.covers x, List.mem_flatten]

theorem perm (h : Partitions batches whole) (hw : whole.Nodup) : batches.flatten.Perm whole :=
  (List.perm_ext_iff_of_nodup h.nodup hw).2 h.covers

theorem length_le_flatten (batches : List (List α)) (h : ∀ batch ∈ batches, batch ≠ []) :
    batches.length ≤ batches.flatten.length := by
  induction batches with
  | nil => simp
  | cons batch batches ih =>
    have hpos : 0 < batch.length := List.length_pos_iff.2 (h batch (by simp))
    have hrest := ih fun b hb => h b (List.mem_cons_of_mem _ hb)
    simp only [List.length_cons, List.flatten_cons, List.length_append]
    omega

theorem length_le (h : Partitions batches whole) (hw : whole.Nodup) :
    batches.length ≤ whole.length := by
  rw [← (h.perm hw).length_eq]
  exact length_le_flatten batches h.nonempty

theorem ne_nil (h : Partitions batches whole) (hw : whole ≠ []) : batches ≠ [] := by
  rintro rfl
  obtain ⟨x, hx⟩ := List.exists_mem_of_ne_nil whole hw
  simpa using (h.covers x).2 hx

theorem index_unique (h : batches.flatten.Nodup) {i j : ℕ} {first second : List α} {x : α}
    (hi : batches[i]? = some first) (hj : batches[j]? = some second) (hx : x ∈ first)
    (hy : x ∈ second) : i = j := by
  by_contra hne
  have hdisjoint := (List.nodup_flatten.1 h).2
  rw [List.pairwise_iff_getElem] at hdisjoint
  obtain ⟨hil, rfl⟩ := List.getElem?_eq_some_iff.1 hi
  obtain ⟨hjl, rfl⟩ := List.getElem?_eq_some_iff.1 hj
  rcases Nat.lt_or_gt_of_ne hne with hlt | hlt
  · exact hdisjoint i j hil hjl hlt hx hy
  · exact hdisjoint j i hjl hil hlt hy hx

theorem existsUnique (h : Partitions batches whole) {x : α} (hx : x ∈ whole) :
    ∃! i : ℕ, ∃ batch, batches[i]? = some batch ∧ x ∈ batch := by
  obtain ⟨batch, hb, hxb⟩ := h.mem_iff.1 hx
  obtain ⟨i, hi⟩ := List.getElem?_of_mem hb
  refine ⟨i, ⟨batch, hi, hxb⟩, ?_⟩
  rintro j ⟨other, hj, hxo⟩
  exact index_unique h.nodup hj hi hxo hxb

theorem map (h : Partitions batches whole) {f : α → β}
    (hf : ∀ x ∈ whole, ∀ y ∈ whole, f x = f y → x = y) :
    Partitions (batches.map (List.map f)) (whole.map f) := by
  refine ⟨?_, ?_, fun y => ?_⟩
  · rw [← List.map_flatten]
    exact List.Nodup.map_on (fun x hx y hy => hf x ((h.covers x).1 hx) y ((h.covers y).1 hy)) h.nodup
  · simp only [List.mem_map, forall_exists_index, and_imp]
    rintro _ batch hb rfl
    simpa using h.nonempty batch hb
  · rw [← List.map_flatten, List.mem_map, List.mem_map]
    simp only [h.covers]

end Partitions

theorem map_idxOf_self [DecidableEq α] {whole : List α} (h : whole.Nodup) :
    whole.map whole.idxOf = List.range whole.length := by
  apply List.ext_getElem
  · simp
  · intro i hi _
    simp only [List.getElem_map, List.getElem_range]
    exact h.idxOf_getElem i (by simpa using hi)

theorem idxOf_injOn [DecidableEq α] {whole : List α} :
    ∀ x ∈ whole, ∀ y ∈ whole, whole.idxOf x = whole.idxOf y → x = y :=
  fun _ hx _ _ h => (List.idxOf_inj hx).1 h

theorem Partitions.axes [DecidableEq α] {batches : List (List α)} {whole : List α}
    (h : Partitions batches whole) (hw : whole.Nodup) :
    Partitions (batches.map (List.map whole.idxOf)) (List.range whole.length) := by
  rw [← map_idxOf_self hw]
  exact h.map idxOf_injOn

/-- The cut of a list at every multiple of a size, as `count` slices starting at `start`. -/
def slices (size : ℕ) (xs : List α) : ℕ → ℕ → List (List α)
  | _, 0 => []
  | start, count + 1 => (xs.drop start).take size :: slices size xs (start + size) count

theorem flatten_slices (size : ℕ) (xs : List α) (start count : ℕ) :
    (slices size xs start count).flatten = (xs.drop start).take (size * count) := by
  induction count generalizing start with
  | zero => simp [slices]
  | succ count ih =>
    rw [slices, List.flatten_cons, ih, Nat.mul_succ, Nat.add_comm (size * count), List.take_add,
      List.drop_drop]

theorem slices_ne_nil {size : ℕ} (hs : 0 < size) {xs : List α} {start count : ℕ}
    (h : start + size * count < xs.length + size) :
    ∀ batch ∈ slices size xs start count, batch ≠ [] := by
  induction count generalizing start with
  | zero => simp [slices]
  | succ count ih =>
    rw [Nat.mul_succ] at h
    intro batch hb
    rcases List.mem_cons.1 hb with rfl | hb
    · have hpos : 0 < ((xs.drop start).take size).length := by
        simp only [List.length_take, List.length_drop]
        omega
      exact List.length_pos_iff.1 hpos
    · exact ih (by omega) batch hb

/-- The consecutive batches of one positive size, the last one possibly shorter. -/
def chunks (size : ℕ) (xs : List α) : List (List α) :=
  slices size xs 0 ((xs.length + size - 1) / size)

theorem flatten_chunks {size : ℕ} (hs : 0 < size) (xs : List α) :
    (chunks size xs).flatten = xs := by
  rw [chunks, flatten_slices, List.drop_zero]
  apply List.take_of_length_le
  have hdiv := Nat.div_add_mod (xs.length + size - 1) size
  have hmod := Nat.mod_lt (xs.length + size - 1) hs
  omega

theorem chunks_ne_nil {size : ℕ} (hs : 0 < size) (xs : List α) :
    ∀ batch ∈ chunks size xs, batch ≠ [] := by
  apply slices_ne_nil hs
  have hdiv := Nat.div_add_mod (xs.length + size - 1) size
  omega

end RobotDriver
