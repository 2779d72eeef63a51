import Mathlib.Data.List.Perm.Subperm
import Mathlib.Tactic.IntervalCases

/-!
# Triple buffers

A writer and a reader own one slot each and exchange it with the slot between them. The shared
word holds the index of the middle slot and one bit above the index, set while its content is
unread. A slot is stored and copied member by member.
-/

namespace TripleBuffer

def indexMask : ℕ := 3

def freshBit : ℕ := 4

section Words

variable {index : ℕ}

theorem mask_of_lt (h : index < 3) : index &&& indexMask = index := by
  interval_cases index <;> rfl

theorem mask_fresh_of_lt (h : index < 3) : (index ||| freshBit) &&& indexMask = index := by
  interval_cases index <;> rfl

theorem clean_of_lt (h : index < 3) : index &&& freshBit = 0 := by
  interval_cases index <;> rfl

theorem fresh_of_lt (h : index < 3) : (index ||| freshBit) &&& freshBit ≠ 0 := by
  interval_cases index <;> decide

end Words

/-- The slots of the writer, of the reader and between them are distinct. -/
structure Distinct (back middle front : ℕ) : Prop where
  back_lt : back < 3
  middle_lt : middle < 3
  front_lt : front < 3
  back_middle : back ≠ middle
  back_front : back ≠ front
  middle_front : middle ≠ front

variable {back middle front : ℕ}

theorem Distinct.exchange_back (h : Distinct back middle front) : Distinct middle back front :=
  ⟨h.middle_lt, h.back_lt, h.front_lt, h.back_middle.symm, h.middle_front, h.back_front⟩

theorem Distinct.exchange_front (h : Distinct back middle front) : Distinct back front middle :=
  ⟨h.back_lt, h.front_lt, h.middle_lt, h.back_front, h.back_middle, h.middle_front.symm⟩

theorem Distinct.perm (h : Distinct back middle front) :
    [back, middle, front].Perm [0, 1, 2] := by
  have hnodup : [back, middle, front].Nodup := by
    simp [h.back_middle, h.back_front, h.middle_front]
  refine (List.subperm_of_subset hnodup ?_).perm_of_length_le le_rfl
  intro index hindex
  have hlt : index < 3 := by
    simp only [List.mem_cons, List.not_mem_nil, or_false] at hindex
    rcases hindex with rfl | rfl | rfl
    · exact h.back_lt
    · exact h.middle_lt
    · exact h.front_lt
  interval_cases index <;> decide

section Members

variable {α : Type*}

/-- The slot after the first `count` stores. -/
def afterStores (stores : List (α → α)) (count : ℕ) (slot : α) : α :=
  (stores.take count).foldl (fun slot store => store slot) slot

theorem afterStores_succ (stores : List (α → α)) (count : ℕ) (slot : α) :
    (stores[count]?.getD id) (afterStores stores count slot) =
      afterStores stores (count + 1) slot := by
  unfold afterStores
  by_cases hcount : count < stores.length
  · rw [List.take_succ_eq_append_getElem hcount, List.foldl_append]
    simp [hcount]
  · rw [List.take_of_length_le (by omega), List.take_of_length_le (by omega)]
    simp [List.getElem?_eq_none (by omega : stores.length ≤ count)]

end Members

end TripleBuffer
