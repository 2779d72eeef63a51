import Mathlib.Data.List.Basic
import Mathlib.Data.List.Sort
import RobotDriver.Lib.Fallible
import RobotDriver.Lib.Numerals

/-!
# The composition artifact on disk

`writeArtifact` stages the files beside the output, moves the old artifact to `.previous` and the
new one in its place. An exception may be raised at any of its file-system steps; the handler then
removes the staging directory and moves `.previous` back where the output is missing.
-/

namespace RobotDriver.Composer

/-- The parts of a path relative to its directory. -/
abbrev Name := List String

/-- The entries below a directory, in the order in which `rmtree` removes them; a directory among
them has no text. -/
abbrev Dir := List (Name × Option String)

def ARTIFACT : Name := ["artifact.yaml"]

/-- A file system step at which an exception may be raised. -/
inductive Step where
  | makeParent
  | makeStaging
  | makeDir (file dir : Name)
  | write (file : Name)
  | remove (entry : Name)
  | removeRoot
  | renameOutput
  | renameStaging
  | clean (entry : Name)
  | cleanRoot
  deriving DecidableEq

inductive WriteError where
  | valueError (message : String)
  | raised (step : Step)

/-- The composition that is to be written; `Y` is what YAML can hold. -/
structure Composed (Y : Type) where
  files : List (Name × String)
  runtimeParameters : Y
  systems : List (String × Y)

structure Manifest (Y : Type) where
  schemaVersion : ℕ
  kind : String
  selection : Y
  files : List String
  runtimeParameters : Y
  preflight : List (String × Y)

def manifest {Y : Type} (chosen : Y) (composed : Composed Y) : Manifest Y where
  schemaVersion := 3
  kind := "rt_control_composition_artifact"
  selection := chosen
  files := (composed.files.map fun file => "/".intercalate file.1).mergeSort (· ≤ ·)
  runtimeParameters := composed.runtimeParameters
  preflight := composed.systems

/-- The output directory, the directory beside it with the previous artifact, and the staging
directory. -/
structure World where
  output : Option Dir
  previous : Option Dir
  staging : Option Dir := none

section Staging

variable (fault : Option Step)

def reach (step : Step) : Except WriteError Unit :=
  if fault = some step then .error (.raised step) else .ok ()

/-- `mkdir` of a directory that may exist; the empty name is the staging directory itself. -/
def makeDir (file : Name) (staging : Dir) (dir : Name) : Except WriteError Dir := do
  reach fault (.makeDir file dir)
  if dir = [] then return staging
  match staging.lookup dir with
  | none => return (dir, none) :: staging
  | some none => return staging
  | some (some _) => throw (.raised (.makeDir file dir))

def writeText (staging : Dir) (file : Name) (text : String) : Except WriteError Dir := do
  reach fault (.write file)
  match staging.lookup file with
  | some none => throw (.raised (.write file))
  | _ => return (file, some text) :: staging.filter (·.1 ≠ file)

def writeFile (staging : Dir) (file : Name × String) : Except WriteError Dir := do
  let staging ← file.1.dropLast.inits.foldlM (makeDir fault file.1) staging
  writeText fault staging file.1 file.2

variable {Y : Type} (dump : Manifest Y → String) (chosen : Y) (composed : Composed Y)

/-- The files and the manifest, written to an empty directory. -/
def writeFiles : Except WriteError Dir := do
  let staging ← composed.files.foldlM (writeFile fault) []
  writeText fault staging ARTIFACT (dump (manifest chosen composed))

end Staging

section Replace

variable (fault : Option Step)

/-- `rmtree` of the previous artifact, and what it leaves at an exception. -/
def rmtree : Dir → Except (WriteError × Dir) Unit
  | [] => (reach fault .removeRoot).mapError (·, [])
  | entry :: entries =>
    if fault = some (.remove entry.1) then .error (.raised (.remove entry.1), entry :: entries)
    else rmtree entries

def removePrevious (w : World) : Except WriteError Unit × World :=
  match w.previous with
  | none => (.ok (), w)
  | some previous =>
    match rmtree fault previous with
    | .ok _ => (.ok (), { w with previous := none })
    | .error (e, left) => (.error e, { w with previous := some left })

/-- A rename is all or nothing. -/
def swap (w : World) : Except WriteError Unit × World :=
  if w.output.isSome ∧ fault = some .renameOutput then (.error (.raised .renameOutput), w)
  else
    let w := if w.output.isSome then { w with previous := w.output, output := none } else w
    if fault = some .renameStaging then (.error (.raised .renameStaging), w)
    else (.ok (), { w with output := w.staging, staging := none })

/-- What an `rmtree` that ignores errors leaves: the entry at which one was raised, and the
directories around it. -/
def rmtreeIgnoringErrors (previous : Dir) : Option Dir :=
  match fault with
  | some (.clean entry) =>
    if previous.any (·.1 = entry) then some (previous.filter (·.1.isPrefixOf entry)) else none
  | some .cleanRoot => some []
  | _ => none

/-- The handler of any exception. -/
def recover (w : World) : World :=
  if w.previous.isSome ∧ w.output = none then ⟨w.previous, none, none⟩
  else { w with staging := none }

variable {Y : Type} (dump : Manifest Y → String) (chosen : Y) (composed : Composed Y)

/-- The body of the `try` block. -/
def replace (w : World) : Except WriteError Unit × World :=
  match writeFiles fault dump chosen composed with
  | .error e => (.error e, w)
  | .ok staging =>
    match removePrevious fault { w with staging := some staging } with
    | (.error e, w) => (.error e, w)
    | (.ok _, w) => swap fault w

def isArtifact (dir : Dir) : Bool := (dir.lookup ARTIFACT).join.isSome

/-- The directory is an absolute path and its configuration has been composed. -/
def writeArtifact (directory : String) (w : World) : Except WriteError Unit × World :=
  if w.output.any (!isArtifact ·) then
    (.error (.valueError
      ("Refusing to replace a directory that is not an artifact: " ++ directory)), w)
  else if fault = some .makeParent then (.error (.raised .makeParent), w)
  else if fault = some .makeStaging then (.error (.raised .makeStaging), w)
  else
    match replace fault dump chosen composed { w with staging := some [] } with
    | (.error e, w) => (.error e, recover w)
    | (.ok _, w) => (.ok (), { w with previous := w.previous.bind (rmtreeIgnoringErrors fault) })

end Replace

end RobotDriver.Composer

/-!
# Is the artifact replaced in one step

With an artifact at the output every exception leaves it there or the new one. Where the output is
missing the only artifact is the one at `.previous`, which is deleted before the new one is in its
place.
-/

namespace RobotDriver.Composer

variable {Y : Type} (dump : Manifest Y → String)

/-- All that a composition writes and nothing else. -/
def Complete (dir : Dir) : Prop :=
  ∃ chosen composed written, writeFiles none dump chosen composed = .ok written ∧ dir.Perm written

/-- The artifact that was there to be replaced. -/
def World.Holds (w : World) (dir : Dir) : Prop :=
  w.output = some dir ∨ w.output = none ∧ w.previous = some dir ∧ Complete dump dir

/-- The output holds what was there or the new artifact, whole, and is not lost. -/
structure Atomic (chosen : Y) (composed : Composed Y) (before : World)
    (result : Except WriteError Unit) (after : World) : Prop where
  returned : result = .ok () → ∃ new, writeFiles none dump chosen composed = .ok new ∧
    after.output = some new
  whole : ∀ dir, after.output = some dir → before.Holds dump dir ∨
    ∃ new, writeFiles none dump chosen composed = .ok new ∧ dir.Perm new
  kept : before.output.isSome → after.output.isSome
  survives : ∀ dir, before.Holds dump dir → Complete dump dir →
    ∃ dir, after.output = some dir ∧ Complete dump dir

section Written

variable {fault : Option Step} {chosen : Y} {composed : Composed Y}

theorem makeDir_mono {file dir : Name} {staging written : Dir}
    (h : makeDir fault file staging dir = .ok written) :
    makeDir none file staging dir = .ok written := by
  unfold makeDir at h ⊢
  cases hreach : reach fault (.makeDir file dir) with
  | error e =>
    rw [hreach] at h
    cases h
  | ok done =>
    rw [hreach] at h
    exact h

theorem writeText_mono {file : Name} {text : String} {staging written : Dir}
    (h : writeText fault staging file text = .ok written) :
    writeText none staging file text = .ok written := by
  unfold writeText at h ⊢
  cases hreach : reach fault (.write file) with
  | error e =>
    rw [hreach] at h
    cases h
  | ok done =>
    rw [hreach] at h
    exact h

theorem foldlM_mono {ι : Type} {f g : Dir → ι → Except WriteError Dir}
    (hfg : ∀ staging i written, f staging i = .ok written → g staging i = .ok written)
    {is : List ι} {staging written : Dir} (h : is.foldlM f staging = .ok written) :
    is.foldlM g staging = .ok written := by
  induction is generalizing staging with
  | nil => exact h
  | cons i is ih =>
    rw [List.foldlM_cons] at h ⊢
    obtain ⟨next, hnext, hrest⟩ := bind_eq_ok_iff.1 h
    rw [hfg staging i next hnext]
    exact ih hrest

theorem writeFile_mono {staging written : Dir} {file : Name × String}
    (h : writeFile fault staging file = .ok written) :
    writeFile none staging file = .ok written := by
  obtain ⟨made, hmade, htext⟩ := bind_eq_ok_iff.1 h
  have hmade' := foldlM_mono (fun _ _ _ => makeDir_mono) hmade
  rw [writeFile, hmade']
  exact writeText_mono htext

theorem writeFiles_mono {written : Dir} (h : writeFiles fault dump chosen composed = .ok written) :
    writeFiles none dump chosen composed = .ok written := by
  obtain ⟨staged, hstaged, htext⟩ := bind_eq_ok_iff.1 h
  have hstaged' := foldlM_mono (fun _ _ _ => writeFile_mono) hstaged
  rw [writeFiles, hstaged']
  exact writeText_mono htext

theorem writeText_ne_nil {file : Name} {text : String} {staging written : Dir}
    (h : writeText fault staging file text = .ok written) : written ≠ [] := by
  obtain ⟨done, -, h⟩ := bind_eq_ok_iff.1 h
  split at h
  · cases h
  · cases h
    exact List.cons_ne_nil _ _

theorem writeFiles_ne_nil {written : Dir}
    (h : writeFiles fault dump chosen composed = .ok written) : written ≠ [] := by
  obtain ⟨staged, -, htext⟩ := bind_eq_ok_iff.1 h
  exact writeText_ne_nil htext

theorem complete_of_perm {dir written : Dir}
    (h : writeFiles none dump chosen composed = .ok written) (hdir : dir.Perm written) :
    Complete dump dir :=
  ⟨chosen, composed, written, h, hdir⟩

theorem not_complete_nil : ¬Complete dump [] := by
  rintro ⟨chosen, composed, written, h, hperm⟩
  exact writeFiles_ne_nil dump h hperm.symm.eq_nil

end Written

section Removal

variable {fault : Option Step}

theorem rmtree_remove {entry : Name} {previous : Dir} (h : entry ∈ previous.map Prod.fst) :
    rmtree (some (.remove entry)) previous =
      .error (.raised (.remove entry), previous.dropWhile (·.1 ≠ entry)) := by
  induction previous with
  | nil => cases h
  | cons first rest ih =>
    rw [rmtree]
    by_cases hfirst : first.1 = entry
    · rw [if_pos (by rw [hfirst]), hfirst, List.dropWhile_cons_of_neg (by simpa using hfirst)]
    · have hrest : entry ∈ rest.map Prod.fst :=
        (List.mem_cons.1 h).resolve_left fun heq => hfirst heq.symm
      rw [if_neg, ih hrest, List.dropWhile_cons_of_pos (by simpa using hfirst)]
      exact fun heq => hfirst (Step.remove.inj (Option.some.inj heq)).symm

theorem rmtree_removeRoot (previous : Dir) :
    rmtree (some .removeRoot) previous = .error (.raised .removeRoot, []) := by
  induction previous with
  | nil => rfl
  | cons first rest ih => rwa [rmtree, if_neg (by simp)]

theorem rmtree_ok (hroot : fault ≠ some .removeRoot) {previous : Dir}
    (hentry : ∀ entry ∈ previous.map Prod.fst, fault ≠ some (.remove entry)) :
    rmtree fault previous = .ok () := by
  induction previous with
  | nil =>
    rw [rmtree, reach, if_neg hroot]
    rfl
  | cons first rest ih =>
    rw [List.map_cons, List.forall_mem_cons] at hentry
    rw [rmtree, if_neg hentry.1, ih hentry.2]

end Removal

section Outcomes

variable {dump} {fault : Option Step} {chosen : Y} {composed : Composed Y} {directory : String}

/-- A step that raises outside the `try` block. -/
def Early (fault : Option Step) : Prop := fault = some .makeParent ∨ fault = some .makeStaging

instance (fault : Option Step) : Decidable (Early fault) := inferInstanceAs (Decidable (_ ∨ _))

variable (fault) in
theorem removePrevious_kept (w : World) :
    ∃ result left, removePrevious fault w = (result, { w with previous := left }) ∧
      (result = .ok () → left = none) := by
  obtain ⟨output, previous, staging⟩ := w
  unfold removePrevious
  cases previous with
  | none => exact ⟨.ok (), none, rfl, fun _ => rfl⟩
  | some previous =>
    dsimp only
    rcases rmtree fault previous with ⟨e, left⟩ | done
    · refine ⟨.error e, some left, rfl, fun h => ?_⟩
      cases h
    · exact ⟨.ok (), none, rfl, fun _ => rfl⟩

variable (dump fault chosen composed directory) in
theorem writeArtifact_present {w : World} {dir : Dir} (houtput : w.output = some dir) :
    (writeArtifact fault dump chosen composed directory w).1 ≠ .ok () ∧
        (writeArtifact fault dump chosen composed directory w).2.output = some dir ∨
      ∃ new, writeFiles fault dump chosen composed = .ok new ∧
        (writeArtifact fault dump chosen composed directory w).2.output = some new := by
  obtain ⟨output, previous, staging⟩ := w
  subst houtput
  unfold writeArtifact
  split_ifs
  · exact .inl ⟨by simp, rfl⟩
  · exact .inl ⟨by simp, rfl⟩
  · exact .inl ⟨by simp, rfl⟩
  unfold replace
  cases hfiles : writeFiles fault dump chosen composed with
  | error e => exact .inl ⟨by simp, by simp [recover]⟩
  | ok new =>
    obtain ⟨result, left, hremove, hleft⟩ :=
      removePrevious_kept fault ⟨some dir, previous, some new⟩
    dsimp only at hremove ⊢
    rw [hremove]
    cases result with
    | error e => exact .inl ⟨by simp, by simp [recover]⟩
    | ok done =>
      rw [hleft rfl]
      unfold swap
      dsimp only
      by_cases hrename : fault = some .renameOutput
      · rw [if_pos ⟨rfl, hrename⟩]
        exact .inl ⟨by simp, by simp [recover]⟩
      rw [if_neg fun h => hrename h.2]
      by_cases hstaging : fault = some .renameStaging
      · rw [if_pos hstaging]
        exact .inl ⟨by simp, by simp [recover]⟩
      · rw [if_neg hstaging]
        exact .inr ⟨new, rfl, rfl⟩

variable (dump chosen composed directory) in
theorem writeArtifact_early {w : World} (houtput : w.output = none) (hearly : Early fault) :
    (writeArtifact fault dump chosen composed directory w).1 ≠ .ok () ∧
      (writeArtifact fault dump chosen composed directory w).2.output = none := by
  obtain ⟨output, previous, staging⟩ := w
  subst houtput
  unfold writeArtifact
  split_ifs with hrefused hparent hstaging
  · exact absurd hrefused Bool.false_ne_true
  · exact ⟨by simp, rfl⟩
  · exact ⟨by simp, rfl⟩
  · exact absurd hearly (not_or.2 ⟨hparent, hstaging⟩)

theorem writeArtifact_missing {previous staging : Option Dir} (hearly : ¬Early fault) :
    writeArtifact fault dump chosen composed directory ⟨none, previous, staging⟩ =
      match writeFiles fault dump chosen composed with
      | .error e => (.error e, recover ⟨none, previous, some []⟩)
      | .ok new =>
        match removePrevious fault ⟨none, previous, some new⟩ with
        | (.error e, w) => (.error e, recover w)
        | (.ok _, _) =>
          if fault = some .renameStaging then (.error (.raised .renameStaging), ⟨none, none, none⟩)
          else (.ok (), ⟨some new, none, none⟩) := by
  obtain ⟨hparent, hstaging⟩ := not_or.1 hearly
  have hpassed : ¬(World.mk none previous staging).output.any (!isArtifact ·) = true :=
    Bool.false_ne_true
  unfold writeArtifact
  rw [if_neg hpassed, if_neg hparent, if_neg hstaging]
  unfold replace
  cases hfiles : writeFiles fault dump chosen composed with
  | error e => rfl
  | ok new =>
    obtain ⟨result, left, hremove, hleft⟩ :=
      removePrevious_kept fault ⟨none, previous, some new⟩
    dsimp only at hremove ⊢
    rw [hremove]
    cases result with
    | error e => rfl
    | ok done =>
      rw [hleft rfl]
      unfold swap
      dsimp only
      rw [if_neg fun h => Bool.false_ne_true h.1]
      by_cases hrename : fault = some .renameStaging
      · rw [if_pos hrename, if_pos hrename]
        rfl
      · rw [if_neg hrename, if_neg hrename]
        rfl

end Outcomes

section Atomicity

variable {dump} {fault : Option Step} {chosen : Y} {composed : Composed Y} {before after : World}
  {result : Except WriteError Unit}

theorem Atomic.of_new {new : Dir} (hnew : writeFiles none dump chosen composed = .ok new)
    (h : after.output = some new) : Atomic dump chosen composed before result after := by
  refine ⟨fun _ => ⟨new, hnew, h⟩, fun dir hdir => .inr ⟨new, hnew, ?_⟩, fun _ => ?_, ?_⟩
  · rw [h] at hdir
    exact Option.some.inj hdir ▸ List.Perm.refl _
  · rw [h]
    rfl
  · exact fun _ _ _ => ⟨new, h, complete_of_perm dump hnew (List.Perm.refl _)⟩

theorem Atomic.of_unchanged {dir : Dir} (hresult : result ≠ .ok ())
    (hbefore : before.output = some dir) (hafter : after.output = some dir) :
    Atomic dump chosen composed before result after := by
  refine ⟨fun h => absurd h hresult, fun other hother => .inl (.inl ?_), fun _ => ?_, ?_⟩
  · rw [hbefore, ← hafter, hother]
  · rw [hafter]
    rfl
  · rintro other (hother | ⟨hmissing, -⟩) hcomplete
    · rw [hbefore] at hother
      exact ⟨dir, hafter, Option.some.inj hother ▸ hcomplete⟩
    · rw [hbefore] at hmissing
      cases hmissing

theorem atomic_missing_iff (hresult : result ≠ .ok ()) (hbefore : before.output = none)
    (hafter : after.output = none) :
    Atomic dump chosen composed before result after ↔
      ∀ previous, before.previous = some previous → ¬Complete dump previous := by
  constructor
  · intro h previous hprevious hcomplete
    obtain ⟨dir, hdir, -⟩ := h.survives previous (.inr ⟨hbefore, hprevious, hcomplete⟩) hcomplete
    rw [hafter] at hdir
    cases hdir
  · intro h
    refine ⟨fun hok => absurd hok hresult, ?_, ?_, ?_⟩
    · intro dir hdir
      rw [hafter] at hdir
      cases hdir
    · intro hsome
      rw [hbefore] at hsome
      cases hsome
    · rintro dir (hdir | ⟨-, hprevious, -⟩) hcomplete
      · rw [hbefore] at hdir
        cases hdir
      · exact absurd hcomplete (h dir hprevious)

theorem atomic_moved_iff {previous left : Dir} (hresult : result ≠ .ok ())
    (hbefore : before.output = none) (hprevious : before.previous = some previous)
    (hafter : after.output = some left) :
    Atomic dump chosen composed before result after ↔
      left = previous ∧ Complete dump previous ∨
        ∃ new, writeFiles none dump chosen composed = .ok new ∧ left.Perm new := by
  have hholds : ∀ dir, before.Holds dump dir ↔ dir = previous ∧ Complete dump previous := by
    intro dir
    rw [World.Holds, hbefore, hprevious, Option.some.injEq]
    constructor
    · rintro (hdir | ⟨-, rfl, hcomplete⟩)
      · cases hdir
      · exact ⟨rfl, hcomplete⟩
    · rintro ⟨rfl, hcomplete⟩
      exact .inr ⟨rfl, rfl, hcomplete⟩
  constructor
  · intro h
    exact (h.whole left hafter).imp_left (hholds left).1
  · intro h
    refine ⟨fun hok => absurd hok hresult, ?_, ?_, ?_⟩
    · intro dir hdir
      rw [hafter] at hdir
      obtain rfl := Option.some.inj hdir
      exact h.imp_left (hholds left).2
    · intro hsome
      rw [hbefore] at hsome
      cases hsome
    · intro dir _ _
      refine ⟨left, hafter, ?_⟩
      rcases h with ⟨rfl, hcomplete⟩ | ⟨new, hnew, hperm⟩
      · exact hcomplete
      · exact complete_of_perm dump hnew hperm

end Atomicity

/-- With the output missing, what becomes of the directory at `.previous`: it is whole where it is
moved back, and not an artifact where it is left behind. -/
def KeepsWhole (chosen : Y) (composed : Composed Y) (fault : Option Step) (previous : Dir) : Prop :=
  if Early fault then ¬Complete dump previous
  else match writeFiles fault dump chosen composed with
    | .error _ => Complete dump previous
    | .ok new =>
      match fault with
      | some (.remove entry) => entry ∈ previous.map Prod.fst →
        previous.head?.map Prod.fst = some entry ∧ Complete dump previous ∨
          (previous.dropWhile (·.1 ≠ entry)).Perm new
      | some .removeRoot => False
      | some .renameStaging => ¬Complete dump previous
      | _ => True

section Missing

variable {dump} {fault : Option Step} {chosen : Y} {composed : Composed Y} {directory : String}
  {w : World} {previous new : Dir}

theorem atomic_iff_of_rmtree_error (houtput : w.output = none)
    (hprevious : w.previous = some previous) (hearly : ¬Early fault)
    (hnew : writeFiles fault dump chosen composed = .ok new) {e : WriteError} {left : Dir}
    (hremove : rmtree fault previous = .error (e, left)) :
    Atomic dump chosen composed w (writeArtifact fault dump chosen composed directory w).1
        (writeArtifact fault dump chosen composed directory w).2 ↔
      left = previous ∧ Complete dump previous ∨ left.Perm new := by
  obtain ⟨output, previous', staging⟩ := w
  subst houtput hprevious
  have hrun : writeArtifact fault dump chosen composed directory ⟨none, some previous, staging⟩ =
      (.error e, ⟨some left, none, none⟩) := by
    rw [writeArtifact_missing hearly, hnew]
    dsimp only [removePrevious]
    rw [hremove]
    rfl
  rw [hrun, atomic_moved_iff (by simp) rfl rfl rfl, writeFiles_mono dump hnew]
  simp only [Except.ok.injEq, exists_eq_left']

theorem atomic_iff_of_removed (houtput : w.output = none)
    (hprevious : ∀ previous, w.previous = some previous → rmtree fault previous = .ok ())
    (hearly : ¬Early fault) (hnew : writeFiles fault dump chosen composed = .ok new) :
    Atomic dump chosen composed w (writeArtifact fault dump chosen composed directory w).1
        (writeArtifact fault dump chosen composed directory w).2 ↔
      (fault = some .renameStaging → ∀ previous, w.previous = some previous →
        ¬Complete dump previous) := by
  obtain ⟨output, previous', staging⟩ := w
  subst houtput
  have hremove : removePrevious fault ⟨none, previous', some new⟩ =
      (.ok (), ⟨none, none, some new⟩) := by
    cases previous' with
    | none => rfl
    | some previous =>
      dsimp only [removePrevious]
      rw [hprevious previous rfl]
  rw [writeArtifact_missing hearly, hnew]
  dsimp only
  rw [hremove]
  by_cases hrename : fault = some .renameStaging
  · rw [if_pos hrename, atomic_missing_iff (by simp) rfl rfl]
    exact ⟨fun h _ => h, fun h => h hrename⟩
  · rw [if_neg hrename]
    exact iff_of_true (Atomic.of_new (writeFiles_mono dump hnew) rfl) (absurd · hrename)

theorem atomic_iff_of_files_error (houtput : w.output = none)
    (hprevious : w.previous = some previous) (hearly : ¬Early fault) {e : WriteError}
    (hfiles : writeFiles fault dump chosen composed = .error e) :
    Atomic dump chosen composed w (writeArtifact fault dump chosen composed directory w).1
        (writeArtifact fault dump chosen composed directory w).2 ↔ Complete dump previous := by
  obtain ⟨output, previous', staging⟩ := w
  subst houtput hprevious
  rw [writeArtifact_missing hearly, hfiles]
  dsimp only
  rw [atomic_moved_iff (by simp) rfl rfl rfl]
  constructor
  · rintro (⟨-, hcomplete⟩ | ⟨new, hnew, hperm⟩)
    · exact hcomplete
    · exact complete_of_perm dump hnew hperm
  · exact fun hcomplete => .inl ⟨rfl, hcomplete⟩

theorem dropWhile_eq_self_iff (entry : Name) (hmem : entry ∈ previous.map Prod.fst) :
    previous.dropWhile (·.1 ≠ entry) = previous ↔ previous.head?.map Prod.fst = some entry := by
  cases previous with
  | nil => cases hmem
  | cons first rest =>
    rw [List.head?_cons, Option.map_some, Option.some.injEq]
    by_cases hfirst : first.1 = entry
    · rw [List.dropWhile_cons_of_neg (by simpa using hfirst)]
      exact iff_of_true rfl hfirst
    · rw [List.dropWhile_cons_of_pos (by simpa using hfirst)]
      refine iff_of_false (fun h => ?_) hfirst
      have hlength := (List.dropWhile_suffix (l := rest) (p := (·.1 ≠ entry))).length_le
      rw [h, List.length_cons] at hlength
      omega

theorem atomic_iff_keepsWhole (houtput : w.output = none) (hprevious : w.previous = some previous) :
    Atomic dump chosen composed w (writeArtifact fault dump chosen composed directory w).1
        (writeArtifact fault dump chosen composed directory w).2 ↔
      KeepsWhole dump chosen composed fault previous := by
  have hprevious' : ∀ (P : Dir → Prop), (∀ dir, w.previous = some dir → P dir) ↔ P previous := by
    intro P
    rw [hprevious]
    exact ⟨fun h => h previous rfl, fun h dir hdir => Option.some.inj hdir ▸ h⟩
  unfold KeepsWhole
  by_cases hearly : Early fault
  · obtain ⟨hresult, hafter⟩ := writeArtifact_early dump chosen composed directory houtput
      hearly
    rw [if_pos hearly, atomic_missing_iff hresult houtput hafter, hprevious']
  rw [if_neg hearly]
  cases hfiles : writeFiles fault dump chosen composed with
  | error e => exact atomic_iff_of_files_error houtput hprevious hearly hfiles
  | ok new =>
    have hremoved : rmtree fault previous = .ok () →
        (Atomic dump chosen composed w (writeArtifact fault dump chosen composed directory w).1
            (writeArtifact fault dump chosen composed directory w).2 ↔
          (fault = some .renameStaging → ¬Complete dump previous)) := by
      intro hok
      rw [atomic_iff_of_removed houtput ((hprevious' _).2 hok) hearly hfiles, hprevious']
    dsimp only
    split
    · next entry =>
      by_cases hmem : entry ∈ previous.map Prod.fst
      · rw [atomic_iff_of_rmtree_error houtput hprevious hearly hfiles (rmtree_remove hmem),
          dropWhile_eq_self_iff entry hmem]
        exact ⟨fun h _ => h, fun h => h hmem⟩
      · rw [hremoved (rmtree_ok (by simp) fun other hother heq => ?_)]
        · exact iff_of_true (fun h => by simp at h) (absurd · hmem)
        · exact hmem (Step.remove.inj (Option.some.inj heq) ▸ hother)
    · rw [atomic_iff_of_rmtree_error houtput hprevious hearly hfiles (rmtree_removeRoot previous)]
      refine iff_of_false ?_ id
      rintro (⟨rfl, hcomplete⟩ | hperm)
      · exact not_complete_nil dump hcomplete
      · exact writeFiles_ne_nil dump hfiles hperm.symm.eq_nil
    · rw [hremoved (rmtree_ok (by simp) fun _ _ => by simp)]
      exact ⟨fun h => h rfl, fun h _ => h⟩
    · next hremove hroot hrename =>
      rw [hremoved (rmtree_ok hroot fun entry _ => hremove entry)]
      exact iff_of_true (absurd · hrename) trivial

theorem atomic_of_nothing (houtput : w.output = none) (hprevious : w.previous = none) :
    Atomic dump chosen composed w (writeArtifact fault dump chosen composed directory w).1
      (writeArtifact fault dump chosen composed directory w).2 := by
  have hnothing : ∀ dir, w.previous = some dir → ¬Complete dump dir := by
    intro dir hdir
    rw [hprevious] at hdir
    cases hdir
  by_cases hearly : Early fault
  · obtain ⟨hresult, hafter⟩ := writeArtifact_early dump chosen composed directory houtput
      hearly
    exact (atomic_missing_iff hresult houtput hafter).2 hnothing
  cases hfiles : writeFiles fault dump chosen composed with
  | ok new =>
    refine (atomic_iff_of_removed houtput (fun dir hdir => ?_) hearly hfiles).2 fun _ => hnothing
    rw [hprevious] at hdir
    cases hdir
  | error e =>
    obtain ⟨output, previous', staging⟩ := w
    subst houtput hprevious
    rw [writeArtifact_missing hearly, hfiles]
    exact (atomic_missing_iff (by simp) rfl rfl).2 hnothing

end Missing

theorem writeArtifact_atomic_iff (chosen : Y) (composed : Composed Y) (fault : Option Step)
    (directory : String) (w : World) :
    Atomic dump chosen composed w (writeArtifact fault dump chosen composed directory w).1
        (writeArtifact fault dump chosen composed directory w).2 ↔
      (w.output = none → ∀ previous, w.previous = some previous →
        KeepsWhole dump chosen composed fault previous) := by
  cases houtput : w.output with
  | some dir =>
    refine iff_of_true ?_ fun h => absurd h (Option.some_ne_none dir)
    have hpresent := writeArtifact_present dump fault chosen composed directory houtput
    rcases hpresent with ⟨hresult, hafter⟩ | ⟨new, hnew, h⟩
    · exact Atomic.of_unchanged hresult houtput hafter
    · exact Atomic.of_new (writeFiles_mono dump hnew) h
  | none =>
    cases hprevious : w.previous with
    | some previous =>
      rw [atomic_iff_keepsWhole houtput hprevious]
      exact ⟨fun h _ dir hdir => Option.some.inj hdir ▸ h, fun h => h rfl previous rfl⟩
    | none =>
      exact iff_of_true (atomic_of_nothing houtput hprevious) fun _ dir hdir =>
        absurd hdir (Option.some_ne_none dir).symm

section Lost

def listing (m : Manifest Unit) : String := "\n".intercalate m.files

def older : Composed Unit := ⟨[(["a.yaml"], "a"), (["b.yaml"], "b")], (), []⟩

def newer : Composed Unit := ⟨[(["a.yaml"], "a")], (), []⟩

/-- A crash between the two renames has left the older artifact at `.previous`. -/
def crashed : World where
  output := none
  previous := (writeFiles none listing () older).toOption

/-- The deletion of `.previous` stops at its last entry, which is then moved to the output. -/
theorem partial_removal_not_atomic :
    ¬Atomic listing () newer crashed
      (writeArtifact (some (.remove ["a.yaml"])) listing () newer "/rt/arms" crashed).1
      (writeArtifact (some (.remove ["a.yaml"])) listing () newer "/rt/arms" crashed).2 := by
  intro h
  rcases h.whole [(["a.yaml"], some "a")] rfl with (hdir | ⟨-, hdir, -⟩) | ⟨new, hnew, hperm⟩
  · cases hdir
  · exact absurd (congrArg (Option.map List.length) hdir) (by decide)
  · have hlength : ((writeFiles none listing () newer).toOption.map List.length) = some 2 := by
      decide
    rw [hnew, Except.toOption, Option.map_some, ← hperm.length_eq] at hlength
    exact absurd hlength (by decide)

end Lost

end RobotDriver.Composer
