import Mathlib.Tactic.SplitIfs

/-!
# Computations that may fail

What the success and the failure of a sequence of `Except` steps say about each step.
-/

namespace RobotDriver

universe u v

variable {ε : Type u} {α β : Type v}

theorem bind_eq_ok_iff {x : Except ε α} {f : α → Except ε β} {b : β} :
    (x >>= f) = .ok b ↔ ∃ a, x = .ok a ∧ f a = .ok b := by
  cases x with
  | error e | ok a => simp [bind, Except.bind]

theorem forM_eq_ok_iff {ι : Type*} {f : ι → Except ε PUnit.{v + 1}} {xs : List ι} :
    xs.forM f = .ok ⟨⟩ ↔ ∀ x ∈ xs, f x = .ok ⟨⟩ := by
  induction xs with
  | nil => simp [List.forM, pure, Except.pure]
  | cons x xs ih =>
    change (f x >>= fun _ => xs.forM f) = .ok ⟨⟩ ↔ _
    rw [bind_eq_ok_iff, List.forall_mem_cons]
    exact ⟨fun ⟨_, hx, hxs⟩ => ⟨hx, ih.1 hxs⟩, fun ⟨hx, hxs⟩ => ⟨_, hx, ih.2 hxs⟩⟩

theorem forall_of_mapM_eq_ok {ι : Type v} {f : ι → Except ε α} {P : α → Prop}
    (hf : ∀ i a, f i = .ok a → P a) {is : List ι} {as : List α} (h : is.mapM f = .ok as) :
    as.length = is.length ∧ ∀ a ∈ as, P a := by
  induction is generalizing as with
  | nil =>
    cases h
    exact ⟨rfl, List.forall_mem_nil P⟩
  | cons i rest ih =>
    rw [List.mapM_cons] at h
    obtain ⟨a, ha, h⟩ := bind_eq_ok_iff.1 h
    obtain ⟨others, hothers, h⟩ := bind_eq_ok_iff.1 h
    cases h
    obtain ⟨hlength, hall⟩ := ih hothers
    exact ⟨congrArg (· + 1) hlength, List.forall_mem_cons.2 ⟨hf i a ha, hall⟩⟩

theorem ok_bind (a : α) (f : α → Except ε β) : ((.ok a : Except ε α) >>= f) = f a := rfl

def require (p : Prop) [Decidable p] (message : ε) : Except ε PUnit.{v + 1} :=
  if p then .ok ⟨⟩ else .error message

@[simp] theorem require_eq_ok_iff {p : Prop} [Decidable p] {message : ε} {u : PUnit.{v + 1}} :
    require p message = .ok u ↔ p := by
  unfold require
  split_ifs with h <;> simp [h]

theorem require_of {p : Prop} [Decidable p] (h : p) {message : ε} :
    require p message = .ok PUnit.unit.{v + 1} := if_pos h

/-- Every failure of the computation is of the given kind. -/
def FailsOnly (P : ε → Prop) (x : Except ε α) : Prop := ∀ e, x = .error e → P e

namespace FailsOnly

variable {P : ε → Prop}

theorem ok (a : α) : FailsOnly P (.ok a : Except ε α) := nofun

theorem pure (a : α) : FailsOnly P (Pure.pure a : Except ε α) := nofun

theorem error {e : ε} (h : P e) : FailsOnly P (.error e : Except ε α) := by
  intro e' he
  rwa [← Except.error.inj he]

theorem bind {x : Except ε α} {f : α → Except ε β} (hx : FailsOnly P x)
    (hf : ∀ a, x = .ok a → FailsOnly P (f a)) : FailsOnly P (x >>= f) := by
  intro e he
  cases x with
  | error e' => exact hx e (by simpa [Bind.bind, Except.bind] using he)
  | ok a => exact hf a rfl e he

theorem bind_iff {x : Except ε α} {f : α → Except ε β} :
    FailsOnly P (x >>= f) ↔ FailsOnly P x ∧ ∀ a, x = .ok a → FailsOnly P (f a) := by
  refine ⟨fun h => ⟨fun e hx => ?_, fun a hx => ?_⟩, fun h => h.1.bind h.2⟩
  · rw [hx] at h
    exact h e rfl
  · rwa [hx] at h

theorem mapM {ι : Type v} {f : ι → Except ε α} (h : ∀ i, FailsOnly P (f i)) (is : List ι) :
    FailsOnly P (is.mapM f) := by
  induction is with
  | nil => exact ok []
  | cons i rest ih =>
    rw [List.mapM_cons]
    exact (h i).bind fun a _ => ih.bind fun as _ => ok (a :: as)

theorem ite {p : Prop} [Decidable p] {x y : Except ε α} (hx : p → FailsOnly P x)
    (hy : ¬ p → FailsOnly P y) : FailsOnly P (if p then x else y) := by
  split_ifs with h
  · exact hx h
  · exact hy h

end FailsOnly

end RobotDriver
