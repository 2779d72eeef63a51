import Mathlib.Data.List.Induction
import Mathlib.Order.Basic

/-!
# Labelled runs of a deterministic step function

A system is a function `step : S → A → S`; the label carries every choice of the environment.
`run` folds it over a list of labels, and `Along step ok s as` asks that every step of the run
satisfies `ok` at the state it is taken from. An invariant that survives the steps allowed by
`ok` therefore holds after every run along which `ok` holds.
-/

namespace LabelledRun

variable {S A : Type*} (step : S → A → S)

def run (s : S) (as : List A) : S := as.foldl step s

def Along (ok : S → A → Prop) : S → List A → Prop
  | _, [] => True
  | s, a :: as => ok s a ∧ Along ok (step s a) as

instance Along.decidable (ok : S → A → Prop) [∀ s a, Decidable (ok s a)] :
    ∀ s as, Decidable (Along step ok s as)
  | _, [] => .isTrue trivial
  | s, a :: as => @instDecidableAnd _ _ _ (Along.decidable ok (step s a) as)

@[simp] theorem run_nil (s : S) : run step s [] = s := rfl

@[simp] theorem run_cons (s : S) (a : A) (as : List A) :
    run step s (a :: as) = run step (step s a) as := rfl

theorem run_append (s : S) (as bs : List A) :
    run step s (as ++ bs) = run step (run step s as) bs := by
  simp only [run, List.foldl_append]

theorem run_snoc (s : S) (as : List A) (a : A) :
    run step s (as ++ [a]) = step (run step s as) a := by
  rw [run_append, run_cons, run_nil]

variable {step} {ok ok' : S → A → Prop}

@[simp] theorem along_nil (s : S) : Along step ok s [] := trivial

@[simp] theorem along_cons (s : S) (a : A) (as : List A) :
    Along step ok s (a :: as) ↔ ok s a ∧ Along step ok (step s a) as := Iff.rfl

theorem along_append (s : S) (as bs : List A) :
    Along step ok s (as ++ bs) ↔ Along step ok s as ∧ Along step ok (run step s as) bs := by
  induction as generalizing s with
  | nil => simp only [List.nil_append, along_nil, run_nil, true_and]
  | cons a as ih => simp only [List.cons_append, along_cons, run_cons, ih, and_assoc]

theorem Along.mono (h : ∀ s a, ok s a → ok' s a) {s : S} {as : List A}
    (hs : Along step ok s as) : Along step ok' s as := by
  induction as generalizing s with
  | nil => exact along_nil s
  | cons a as ih => exact ⟨h s a hs.1, ih hs.2⟩

theorem Along.and {s : S} {as : List A} (h : Along step ok s as) (h' : Along step ok' s as) :
    Along step (fun s a => ok s a ∧ ok' s a) s as := by
  induction as generalizing s with
  | nil => exact along_nil s
  | cons a as ih => exact ⟨⟨h.1, h'.1⟩, ih h.2 h'.2⟩

theorem along_congr {s : S} {as : List A} (h : Along step (fun s a => ok s a ↔ ok' s a) s as) :
    Along step ok s as ↔ Along step ok' s as := by
  induction as generalizing s with
  | nil => exact Iff.rfl
  | cons a as ih => exact and_congr h.1 (ih h.2)

theorem along_congr_of_invariant {P : S → Prop} {D : A → Prop}
    (hok : ∀ s a, P s → D a → (ok s a ↔ ok' s a))
    (hstep : ∀ s a, P s → D a → ok s a → P (step s a)) {s : S} {as : List A} (hs : P s)
    (has : ∀ a ∈ as, D a) : Along step ok s as ↔ Along step ok' s as := by
  induction as generalizing s with
  | nil => exact Iff.rfl
  | cons a as ih =>
    obtain ⟨ha, has⟩ := List.forall_mem_cons.1 has
    rw [along_cons, along_cons, hok s a hs ha]
    exact and_congr_right fun h => ih (hstep s a hs ha ((hok s a hs ha).2 h)) has

/-- A property preserved by every allowed step holds at the end of every allowed run. -/
theorem invariant_run {P : S → Prop} (hstep : ∀ s a, P s → ok s a → P (step s a))
    {s : S} {as : List A} (hs : P s) (h : Along step ok s as) : P (run step s as) := by
  induction as generalizing s with
  | nil => exact hs
  | cons a as ih => exact ih (hstep s a hs h.1) h.2

theorem invariant_all {P : S → Prop} (hstep : ∀ s a, P s → P (step s a)) {s : S}
    (hs : P s) (as : List A) : P (run step s as) := by
  induction as generalizing s with
  | nil => exact hs
  | cons a as ih => exact ih (hstep s a hs)

/-- A property reached by a run was entered by some step of it and has held ever since. -/
theorem exists_entry {P : S → Prop} {s : S} (hs : ¬P s) {as : List A} (h : P (run step s as)) :
    ∃ before a after, as = before ++ a :: after ∧ ¬P (run step s before) ∧
      ∀ between rest, after = between ++ rest → P (run step s (before ++ a :: between)) := by
  induction as using List.reverseRecOn with
  | nil => exact absurd h hs
  | append_singleton as a ih =>
    by_cases hlast : P (run step s as)
    · obtain ⟨before, b, after, rfl, hbefore, hafter⟩ := ih hlast
      refine ⟨before, b, after ++ [a], by simp, hbefore, fun between rest heq => ?_⟩
      rcases rest.eq_nil_or_concat with rfl | ⟨rest, c, rfl⟩
      · rw [List.append_nil] at heq
        rw [← heq]
        simpa using h
      · rw [List.concat_eq_append, ← List.append_assoc] at heq
        exact hafter between rest (List.append_inj' heq rfl).1
    · refine ⟨as, a, [], rfl, hlast, fun between rest heq => ?_⟩
      rw [(List.append_eq_nil_iff.1 heq.symm).1]
      exact h

theorem Along.of_invariant {P : S → Prop}
    (hstep : ∀ s a, P s → ok s a → P (step s a))
    (hok : ∀ s a, P s → ok s a → ok' s a) {s : S} {as : List A} (hs : P s)
    (h : Along step ok s as) : Along step ok' s as := by
  induction as generalizing s with
  | nil => exact along_nil s
  | cons a as ih => exact ⟨hok s a hs h.1, ih (hstep s a hs h.1) h.2⟩

theorem along_of_invariant {P : S → Prop} (hstep : ∀ s a, P s → P (step s a))
    (hok : ∀ s a, P s → ok s a) {s : S} (hs : P s) (as : List A) : Along step ok s as := by
  induction as generalizing s with
  | nil => exact along_nil s
  | cons a as ih => exact ⟨hok s a hs, ih (hstep s a hs)⟩

theorem along_of_forall (h : ∀ s a, ok s a) (s : S) (as : List A) : Along step ok s as :=
  along_of_invariant (P := fun _ => True) (fun _ _ => id) (fun s a _ => h s a) trivial as

/-- Step conditions read off a split of the run at any of its steps. -/
theorem along_iff_split (s : S) (as : List A) :
    Along step ok s as ↔ ∀ p a q, as = p ++ a :: q → ok (run step s p) a := by
  induction as generalizing s with
  | nil =>
    refine ⟨fun _ p a q hq => ?_, fun _ => along_nil s⟩
    simp at hq
  | cons b as ih =>
    rw [along_cons, ih]
    constructor
    · rintro ⟨hb, h⟩ p a q hq
      rcases List.cons_eq_append_iff.1 hq with ⟨rfl, hq'⟩ | ⟨p', rfl, hq'⟩
      · cases hq'
        exact hb
      · exact h p' a q hq'
    · intro h
      exact ⟨h [] b as rfl, fun p a q hq => h (b :: p) a q (by rw [hq]; rfl)⟩

/-- No `later` step follows a `first` one. -/
def NeverAfter (step : S → A → S) (first later : S → A → Prop) (s : S) (as : List A) : Prop :=
  ∀ before a between b after, as = before ++ a :: (between ++ b :: after) →
    first (run step s before) a → ¬later (run step s (before ++ a :: between)) b

/-- A flag that records the `first` steps turns `NeverAfter` into a condition on single steps. -/
theorem neverAfter_iff_along {first later : S → A → Prop} {flag inv : S → Prop}
    (hinv : ∀ s a, inv s → inv (step s a))
    (hflag : ∀ s a, inv s → (flag (step s a) ↔ flag s ∨ first s a))
    {s : S} (hs : inv s) (hclear : ¬flag s) (as : List A) :
    NeverAfter step first later s as ↔ Along step (fun s a => flag s → ¬later s a) s as := by
  have hkeep : ∀ bs, inv (run step s bs) := invariant_all hinv hs
  rw [along_iff_split]
  constructor
  · rintro hnever p b q rfl hp
    obtain ⟨before, a, between, rfl, hbefore, hafter⟩ := exists_entry hclear hp
    have hentered := hafter [] between rfl
    rw [run_snoc, hflag _ _ (hkeep before)] at hentered
    exact hnever before a between b q (by simp) (hentered.resolve_left hbefore)
  · rintro hsteps before a between b after rfl hfirst
    refine hsteps (before ++ a :: between) b after (by simp) ?_
    have hset : flag (run step s (before ++ [a])) := by
      rw [run_snoc, hflag _ _ (hkeep before)]
      exact .inr hfirst
    rw [← List.singleton_append, ← List.append_assoc, run_append]
    exact (invariant_all (P := fun s => inv s ∧ flag s)
      (fun s a hs => ⟨hinv s a hs.1, (hflag s a hs.1).2 (.inl hs.2)⟩) ⟨hkeep _, hset⟩ between).2

/-- `P` once reached stays until an exempt step is taken, for every split of the run. -/
def Latched (step : S → A → S) (P : S → Prop) (exempt : S → A → Prop) (s : S) (as : List A) : Prop :=
  ∀ before between after, as = before ++ between ++ after →
    Along step (fun s a => ¬exempt s a) (run step s before) between →
    P (run step s before) → P (run step s (before ++ between))

theorem latched_iff_along {P : S → Prop} {exempt : S → A → Prop} (s : S) (as : List A) :
    Latched step P exempt s as ↔
      Along step (fun s a => P s → ¬exempt s a → P (step s a)) s as := by
  constructor
  · intro h
    rw [along_iff_split]
    intro p a q hq hp hexempt
    have := h p [a] q (by simp [hq]) ⟨hexempt, along_nil _⟩ hp
    rwa [run_snoc] at this
  · rintro h before between after rfl hbetween hp
    rw [List.append_assoc, along_append, along_append] at h
    rw [run_append]
    have hkeep : ∀ s a, P s → (P s → ¬exempt s a → P (step s a)) ∧ ¬exempt s a → P (step s a) :=
      fun s a hs hok => hok.1 hs hok.2
    refine invariant_run hkeep hp ?_
    exact h.2.1.and hbetween

/-- Some `second` step follows a `first` one, with nothing but `within` steps in between. -/
def Followed (step : S → A → S) (first second within : S → A → Prop) (s : S) (as : List A) : Prop :=
  ∃ before a between b after, as = before ++ a :: (between ++ b :: after) ∧
    first (run step s before) a ∧ Along step within (run step s (before ++ [a])) between ∧
    second (run step s (before ++ a :: between)) b

theorem Followed.of_snoc {first second within : S → A → Prop} {s : S} {as : List A} {c : A}
    (h : Followed step first second within s (as ++ [c])) :
    Followed step first second within s as ∨
      second (run step s as) c ∧ ∃ before a between, as = before ++ a :: between ∧
        first (run step s before) a ∧ Along step within (run step s (before ++ [a])) between := by
  obtain ⟨before, a, between, b, after, heq, hfirst, hwithin, hsecond⟩ := h
  rcases after.eq_nil_or_concat with rfl | ⟨rest, d, rfl⟩
  · have heq' : as ++ [c] = (before ++ a :: between) ++ [b] := by simp [heq]
    obtain ⟨rfl, hlast⟩ := List.append_inj' heq' rfl
    rw [← List.singleton_inj.1 hlast] at hsecond
    exact .inr ⟨hsecond, before, a, between, rfl, hfirst, hwithin⟩
  · have heq' : as ++ [c] = (before ++ a :: (between ++ b :: rest)) ++ [d] := by simp [heq]
    obtain ⟨rfl, -⟩ := List.append_inj' heq' rfl
    exact .inl ⟨before, a, between, b, rest, rfl, hfirst, hwithin, hsecond⟩

theorem not_followed_nil {first second within : S → A → Prop} {s : S} :
    ¬Followed step first second within s [] := by
  rintro ⟨before, a, between, b, after, heq, -⟩
  cases before <;> simp at heq

end LabelledRun
