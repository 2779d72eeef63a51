import RobotDriver.Composer.MergeSystems

/-!
# Merging results as values

The merge of two results with their lists as values, part by part as `mergeInto` does it, and the
result it has when nothing conflicts.
-/

namespace RobotDriver.Composer.Merge

open Dictionary

/-- A result with its lists. -/
abbrev Result (J : Type) := Content J (List J)

section Parts

variable {J : Type} [DecidableEq J] (identifier : String)

def Entry.append : Entry J (List J) → Entry J (List J) → Entry J (List J)
  | .list previous, .list items => .list (previous ++ items)
  | previous, _ => previous

/-- Why a value cannot be merged into the one before it. -/
def Entry.conflict : Entry J (List J) → Entry J (List J) → Option MergeError
  | .list _, .list _ => none
  | .scalar _, .list _ => some .attributeError
  | .scalar previous, .scalar value =>
    if previous ≠ value then
      some (.valueError ("Conflicting topology metadata for " ++ identifier))
    else none
  | .list _, .scalar _ => some (.valueError ("Conflicting topology metadata for " ++ identifier))

namespace Content

variable (owner other : String) (m c : Result J)

def sameHardware : Except MergeError (Result J) :=
  if owner ≠ other ∨ c.hardwarePlugin ≠ m.hardwarePlugin ∨ c.hardwareParams ≠ m.hardwareParams then
    .error (.valueError
      ("Conflicting plugin/master/cycle/timeout for hardware system " ++ identifier))
  else .ok c

def withKey (key : ListKey) : Except MergeError (Result J) :=
  .ok { c with lists :=
    Function.update c.lists key (some ((c.lists key).getD [] ++ (m.lists key).getD [])) }

def withFile (file : String × String) : Except MergeError (Result J) :=
  if (c.runtimeFiles.lookup file.1).isSome then
    .error (.valueError ("Duplicate runtime file: " ++ file.1))
  else .ok { c with runtimeFiles := assign file.1 file.2 c.runtimeFiles }

def withPreflight : Except MergeError (Result J) :=
  .ok { c with preflightRequired := Option.merge (· || ·) c.preflightRequired m.preflightRequired }

def withTopology (entry : String × Entry J (List J)) : Except MergeError (Result J) :=
  match (c.expectedTopology.lookup entry.1).bind (Entry.conflict identifier · entry.2) with
  | some e => .error e
  | none =>
    let value := ((c.expectedTopology.lookup entry.1).map (Entry.append · entry.2)).getD entry.2
    .ok { c with expectedTopology := assign entry.1 value c.expectedTopology }

def withGroup (group : String × List J) : Except MergeError (Result J) :=
  let names := ((c.actuatorGroups.lookup group.1).map (· ++ group.2)).getD group.2
  .ok { c with actuatorGroups := assign group.1 names c.actuatorGroups }

/-- `mergeInto` on values. -/
def merge : Except MergeError (Result J) := do
  let c ← sameHardware identifier owner other m c
  let c ← ListKey.all.foldlM (withKey m) c
  let c ← m.runtimeFiles.foldlM withFile c
  let c ← withPreflight m c
  let c ← m.expectedTopology.foldlM (withTopology identifier) c
  m.actuatorGroups.foldlM withGroup c

end Content

/-- What a merge without conflicts comes to. -/
def Content.join (c m : Result J) : Result J where
  hardwareSystemId := c.hardwareSystemId
  hardwarePlugin := c.hardwarePlugin
  hardwareParams := c.hardwareParams
  lists key := some ((c.lists key).getD [] ++ (m.lists key).getD [])
  runtimeFiles := c.runtimeFiles ++ m.runtimeFiles
  preflightRequired := Option.merge (· || ·) c.preflightRequired m.preflightRequired
  expectedTopology := joinWith Entry.append c.expectedTopology m.expectedTopology
  actuatorGroups := joinWith (· ++ ·) c.actuatorGroups m.actuatorGroups
  unmerged := c.unmerged

end Parts

section Systems

variable {J : Type} [DecidableEq J] (name : J → String)

/-- The systems with the owner and the merged result of each, and the names met so far. -/
structure Merged (J : Type) where
  systems : List (String × String × Result J) := []
  allNames : List String := []

def Content.elementNames (m : Result J) : List String :=
  [ListKey.joints, .sensors, .gpios].flatMap fun key => ((m.lists key).getD []).map name

/-- `mergeModule` on values. -/
def Merged.add (modules : ℕ → Module J) (merged : Merged J) (entry : String × ℕ) :
    Except MergeError (Merged J) :=
  let m := (modules entry.2).toContent
  let allNames := merged.allNames ++ m.elementNames name
  match merged.systems.lookup m.hardwareSystemId with
  | none => .ok ⟨merged.systems ++ [(m.hardwareSystemId, entry.1, m)], allNames⟩
  | some (owner, c) => do
    let c ← Content.merge m.hardwareSystemId owner entry.1 m c
    .ok ⟨assign m.hardwareSystemId (owner, c) merged.systems, allNames⟩

def unique {α : Type} [DecidableEq α] (values : List α) (context : String) :
    Except MergeError Unit :=
  if values.Nodup then .ok () else .error (.valueError ("Duplicate " ++ context))

/-- `checkSystem` on values. -/
def Content.check (c : Result J) : Except MergeError Unit :=
  match c.lists .managedJoints with
  | none => .error .keyError
  | some managed => do
    unique ((c.lists .resourceClaims).getD []) "physical resource claim"
    unique managed "managed joint"

/-- `mergeSystems` on values. -/
def mergeValues (modules : ℕ → Module J) (rendered : List (String × ℕ)) :
    Except MergeError (Merged J) := do
  let merged ← rendered.foldlM (Merged.add name modules) {}
  merged.systems.forM fun system => system.2.2.check
  unique merged.allNames "hardware resource name"
  return merged

end Systems

end RobotDriver.Composer.Merge
