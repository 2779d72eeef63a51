import Mathlib.Tactic.TypeStar

/-!
# Triples for computations with a state that may throw

`Triple pre x post fail` says that `x`, started in a state of `pre`, returns in `post` or throws in
`fail`. The state survives an exception, so both say what has been done until then.
-/

variable {σ ε α β : Type}

def Triple (pre : σ → Prop) (x : ExceptT ε (StateM σ) α) (post : α → σ → Prop)
    (fail : ε → σ → Prop) : Prop :=
  ∀ s, pre s → (∀ a s', x s = (.ok a, s') → post a s') ∧ ∀ e s', x s = (.error e, s') → fail e s'

namespace Triple

variable {pre pre' : σ → Prop} {x : ExceptT ε (StateM σ) α} {f : α → ExceptT ε (StateM σ) β}
  {post post' : α → σ → Prop} {fail fail' : ε → σ → Prop} {last : β → σ → Prop}

theorem run_bind_ok {s s' : σ} {a : α} (h : x s = (.ok a, s')) : (x >>= f) s = f a s' := by
  have hrun : (x >>= f) s = ExceptT.bindCont f (x s).1 (x s).2 := rfl
  rw [hrun, h]
  rfl

theorem run_bind_error {s s' : σ} {e : ε} (h : x s = (.error e, s')) :
    (x >>= f) s = (.error e, s') := by
  have hrun : (x >>= f) s = ExceptT.bindCont f (x s).1 (x s).2 := rfl
  rw [hrun, h]
  rfl

theorem run_modify {g : σ → σ} {s : σ} :
    (modify g : ExceptT ε (StateM σ) PUnit) s = (.ok ⟨⟩, g s) := rfl

theorem run_bind_modify {g : σ → σ} {f : PUnit → ExceptT ε (StateM σ) β} {s : σ} :
    ((modify g : ExceptT ε (StateM σ) PUnit) >>= f) s = f ⟨⟩ (g s) :=
  run_bind_ok rfl

theorem run_bind_pure_error_iff {b : β} {s s' : σ} {e : ε} :
    (x >>= fun _ => pure b) s = (.error e, s') ↔ x s = (.error e, s') := by
  rcases hx : x s with ⟨e' | a, t⟩
  · rw [run_bind_error hx, Prod.mk.injEq, Prod.mk.injEq, Except.error.injEq, Except.error.injEq]
  · rw [run_bind_ok hx]
    refine iff_of_false (fun h => ?_) fun h => ?_
    · cases h
    · cases h

theorem of_run (hok : ∀ s, pre s → ∀ a s', x s = (.ok a, s') → post a s')
    (herror : ∀ s, pre s → ∀ e s', x s = (.error e, s') → fail e s') : Triple pre x post fail :=
  fun s hs => ⟨hok s hs, herror s hs⟩

theorem of_pure {a : α} (h : ∀ s, pre s → post a s) :
    Triple pre (pure a : ExceptT ε (StateM σ) α) post fail := by
  refine of_run ?_ ?_
  · intro s hs b s' hrun
    cases hrun
    exact h s hs
  · intro s hs e s' hrun
    cases hrun

theorem of_throw {e : ε} (h : ∀ s, pre s → fail e s) :
    Triple pre (throw e : ExceptT ε (StateM σ) α) post fail := by
  refine of_run ?_ ?_
  · intro s hs a s' hrun
    cases hrun
  · intro s hs e' s' hrun
    cases hrun
    exact h s hs

theorem of_modify {g : σ → σ} {post : PUnit → σ → Prop} (h : ∀ s, pre s → post ⟨⟩ (g s)) :
    Triple pre (modify g : ExceptT ε (StateM σ) PUnit) post fail := by
  refine of_run ?_ ?_
  · intro s hs a s' hrun
    cases hrun
    exact h s hs
  · intro s hs e s' hrun
    cases hrun

theorem bind (hx : Triple pre x post fail) (hf : ∀ a, Triple (post a) (f a) last fail) :
    Triple pre (x >>= f) last fail := by
  intro s hs
  obtain ⟨hok, herror⟩ := hx s hs
  rcases hxs : x s with ⟨e | a, s'⟩
  · rw [run_bind_error hxs]
    refine ⟨fun b t hrun => ?_, fun e' t hrun => ?_⟩
    · cases hrun
    · cases hrun
      exact herror e s' hxs
  · rw [run_bind_ok hxs]
    exact hf a s' (hok a s' hxs)

theorem forM {ι : Type} {P : σ → Prop} {f : ι → ExceptT ε (StateM σ) PUnit}
    (h : ∀ i, Triple P (f i) (fun _ => P) fail) (is : List ι) :
    Triple P (is.forM f) (fun _ => P) fail := by
  induction is with
  | nil => exact of_pure fun s hs => hs
  | cons i is ih => exact (h i).bind fun _ => ih

theorem weaken (h : Triple pre' x post' fail') (hpre : ∀ s, pre s → pre' s)
    (hpost : ∀ a s, post' a s → post a s) (hfail : ∀ e s, fail' e s → fail e s) :
    Triple pre x post fail := by
  intro s hs
  obtain ⟨hok, herror⟩ := h s (hpre s hs)
  exact ⟨fun a s' hx => hpost a s' (hok a s' hx), fun e s' hx => hfail e s' (herror e s' hx)⟩

theorem ite {p : Prop} [Decidable p] {y : ExceptT ε (StateM σ) α}
    (hx : p → Triple pre x post fail) (hy : ¬p → Triple pre y post fail) :
    Triple pre (if p then x else y) post fail := by
  by_cases hp : p
  · rw [if_pos hp]
    exact hx hp
  · rw [if_neg hp]
    exact hy hp

end Triple

/-!
# Computations on objects that simulate functions on values

`Simulates R R' fail x y` says that `x`, started in a state that stands for a value, throws where
`y` does, and otherwise ends in one that stands for the value of `y` and its own result.
-/

variable {σ ε γ γ' γ'' α β ι : Type}

def Simulates (R : γ → σ → Prop) (R' : γ' → α → σ → Prop) (fail : σ → Prop)
    (x : ExceptT ε (StateM σ) α) (y : γ → Except ε γ') : Prop :=
  ∀ c s, R c s → (∀ c', y c = .ok c' → ∃ a s', x s = (.ok a, s') ∧ R' c' a s') ∧
    ∀ e, y c = .error e → ∃ s', x s = (.error e, s') ∧ fail s'

namespace Simulates

variable {R : γ → σ → Prop} {R' : γ' → α → σ → Prop} {R'' : γ'' → β → σ → Prop} {fail : σ → Prop}
  {x : ExceptT ε (StateM σ) α} {y : γ → Except ε γ'}

theorem of_ok {f : γ → γ'} (h : ∀ c s, R c s → ∃ a s', x s = (.ok a, s') ∧ R' (f c) a s') :
    Simulates R R' fail x (fun c => .ok (f c)) := by
  intro c s hs
  refine ⟨fun c' hc' => ?_, fun e he => ?_⟩
  · cases hc'
    exact h c s hs
  · cases he

theorem of_cases (h : ∀ c s, R c s →
    (∃ c' a s', y c = .ok c' ∧ x s = (.ok a, s') ∧ R' c' a s') ∨
      ∃ e s', y c = .error e ∧ x s = (.error e, s') ∧ fail s') : Simulates R R' fail x y := by
  intro c s hs
  rcases h c s hs with ⟨c', a, s', hy, hrun, hs'⟩ | ⟨e, s', hy, hrun, hs'⟩
  · refine ⟨fun d hd => ?_, fun e he => ?_⟩
    · rw [hy] at hd
      exact ⟨a, s', hrun, Except.ok.inj hd ▸ hs'⟩
    · rw [hy] at he
      cases he
  · refine ⟨fun d hd => ?_, fun e' he' => ?_⟩
    · rw [hy] at hd
      cases hd
    · rw [hy] at he'
      exact ⟨s', Except.error.inj he' ▸ hrun, hs'⟩

theorem bind {f : α → ExceptT ε (StateM σ) β} {g : γ' → Except ε γ''}
    (hx : Simulates R R' fail x y)
    (hf : ∀ a, Simulates (fun c s => R' c a s) R'' fail (f a) g) :
    Simulates R R'' fail (x >>= f) (fun c => y c >>= g) := by
  intro c s hs
  obtain ⟨hok, herror⟩ := hx c s hs
  dsimp only
  cases hy : y c with
  | error e =>
    obtain ⟨s', hrun, hfail⟩ := herror e hy
    refine ⟨fun c' hc' => ?_, fun e' he' => ?_⟩
    · cases hc'
    · cases he'
      exact ⟨s', Triple.run_bind_error hrun, hfail⟩
  | ok c' =>
    obtain ⟨a, s', hrun, hs'⟩ := hok c' hy
    rw [Triple.run_bind_ok hrun]
    exact hf a c' s' hs'

theorem pure {f : γ → γ'} {a : α} (h : ∀ c s, R c s → R' (f c) a s) :
    Simulates R R' fail (Pure.pure a : ExceptT ε (StateM σ) α) (fun c => .ok (f c)) :=
  of_ok fun c s hs => ⟨a, s, rfl, h c s hs⟩

theorem foldlM {R : γ → α → σ → Prop} {f : α → ι → ExceptT ε (StateM σ) α}
    {g : γ → ι → Except ε γ} (is : List ι)
    (h : ∀ i ∈ is, ∀ a, Simulates (fun c s => R c a s) R fail (f a i) (fun c => g c i)) (a : α) :
    Simulates (fun c s => R c a s) R fail (is.foldlM f a) (fun c => is.foldlM g c) := by
  induction is generalizing a with
  | nil => exact pure fun c s hs => hs
  | cons i is ih =>
    obtain ⟨hi, his⟩ := List.forall_mem_cons.1 h
    simp only [List.foldlM_cons]
    exact (hi a).bind (ih his)

theorem forM_map {κ : Type} {R : γ → σ → Prop} {f : κ → ExceptT ε (StateM σ) PUnit}
    {g : γ → ι → Except ε γ} (image : ι → κ) (is : List ι)
    (h : ∀ i ∈ is, Simulates R (fun c _ s => R c s) fail (f (image i)) (fun c => g c i)) :
    Simulates R (fun c _ s => R c s) fail ((is.map image).forM f) (fun c => is.foldlM g c) := by
  induction is with
  | nil => exact pure fun c s hs => hs
  | cons i is ih =>
    obtain ⟨hi, his⟩ := List.forall_mem_cons.1 h
    simp only [List.foldlM_cons]
    exact hi.bind fun _ => ih his

theorem forM {R : γ → σ → Prop} {f : ι → ExceptT ε (StateM σ) PUnit} {g : γ → ι → Except ε γ}
    (is : List ι)
    (h : ∀ i ∈ is, Simulates R (fun c _ s => R c s) fail (f i) (fun c => g c i)) :
    Simulates R (fun c _ s => R c s) fail (is.forM f) (fun c => is.foldlM g c) := by
  have hmap := forM_map (f := f) id is h
  rwa [List.map_id] at hmap

theorem run_forM_map {κ : Type} {f : κ → ExceptT ε (StateM σ) PUnit} {g : ι → Except ε PUnit}
    (image : ι → κ) (is : List ι) {s : σ} (h : ∀ i ∈ is, f (image i) s = (g i, s)) :
    ((is.map image).forM f) s = (is.forM g, s) := by
  induction is with
  | nil => rfl
  | cons i is ih =>
    obtain ⟨hi, his⟩ := List.forall_mem_cons.1 h
    have hrun : (((i :: is).map image).forM f) s =
        (f (image i) >>= fun _ => (is.map image).forM f) s := rfl
    have hcheck : (i :: is).forM g = (g i >>= fun _ => is.forM g) := rfl
    rw [hrun, hcheck]
    cases hg : g i with
    | error e =>
      rw [hg] at hi
      exact Triple.run_bind_error hi
    | ok done =>
      rw [hg] at hi
      rw [Triple.run_bind_ok hi]
      exact ih his

end Simulates
