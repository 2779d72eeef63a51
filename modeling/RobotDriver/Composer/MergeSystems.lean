import RobotDriver.Lib.Dictionary
import RobotDriver.Lib.Triple

/-!
# The systems that rendered modules share

`mergeSystems` copies the first module of a system and merges the later ones into the copy, key by
key. The lists of a result are objects: two results may refer to one list, and extending it changes
both. A list is named by what it was made for, so that every `deepcopy` makes new ones.
-/

namespace RobotDriver.Composer.Merge

/-- The keys of a result with a list that is extended. -/
inductive ListKey where
  | joints
  | sensors
  | gpios
  | managedJoints
  | resourceClaims
  deriving DecidableEq

def ListKey.all : List ListKey := [.joints, .sensors, .gpios, .managedJoints, .resourceClaims]

/-- A topology value: a list, or data that is compared. -/
inductive Entry (J L : Type) where
  | scalar (value : J)
  | list (items : L)

/-- A rendered result with its lists given as `L`; `unmerged` are its other keys. -/
structure Content (J L : Type) where
  hardwareSystemId : String
  hardwarePlugin : J
  hardwareParams : J
  lists : ListKey → Option L
  runtimeFiles : List (String × String)
  preflightRequired : Option Bool
  expectedTopology : List (String × Entry J L)
  actuatorGroups : List (String × L)
  unmerged : J

/-- The result of a renderer: dictionaries, with the one list that every result has. -/
structure Module (J : Type) extends Content J (List J) where
  managed : (lists .managedJoints).isSome = true
  files_nodup : (runtimeFiles.map Prod.fst).Nodup
  topology_nodup : (expectedTopology.map Prod.fst).Nodup
  groups_nodup : (actuatorGroups.map Prod.fst).Nodup

/-- Where a list stands in a result. -/
inductive Path where
  | key (key : ListKey)
  | topology (key : String)
  | group (key : String)
  deriving DecidableEq

/-- What a result was made as: a module, or the copy for a system. -/
inductive Owner where
  | module (index : ℕ)
  | system (identifier : String)
  deriving DecidableEq

abbrev Ref := Owner × Path

def Entry.map {J L M : Type} (f : L → M) : Entry J L → Entry J M
  | .scalar value => .scalar value
  | .list items => .list (f items)

section Content

variable {J L M : Type}

def Content.mapPath (f : Path → L → M) (c : Content J L) : Content J M where
  hardwareSystemId := c.hardwareSystemId
  hardwarePlugin := c.hardwarePlugin
  hardwareParams := c.hardwareParams
  lists key := (c.lists key).map (f (.key key))
  runtimeFiles := c.runtimeFiles
  preflightRequired := c.preflightRequired
  expectedTopology := c.expectedTopology.map fun e => (e.1, e.2.map (f (.topology e.1)))
  actuatorGroups := c.actuatorGroups.map fun e => (e.1, f (.group e.1) e.2)
  unmerged := c.unmerged

def Entry.items : Entry J L → Option L
  | .scalar _ => none
  | .list items => some items

def Content.at (c : Content J L) : Path → Option L
  | .key key => c.lists key
  | .topology key => (c.expectedTopology.lookup key).bind Entry.items
  | .group key => c.actuatorGroups.lookup key

end Content

inductive MergeError where
  | valueError (message : String)
  | attributeError
  | keyError

/-- The results that there are, and the lists they refer to. -/
structure Store (J : Type) where
  results : Owner → Option (Content J Ref)
  lists : Ref → List J

section Store

variable {J : Type}

/-- A result with its lists read. -/
def Store.read (s : Store J) (owner : Owner) : Option (Content J (List J)) :=
  (s.results owner).map (·.mapPath fun _ => s.lists)

def named {L : Type} (owner : Owner) (c : Content J L) : Content J Ref :=
  c.mapPath fun path _ => (owner, path)

@[simp] theorem named_hardwareSystemId {L : Type} (owner : Owner) (c : Content J L) :
    (named owner c).hardwareSystemId = c.hardwareSystemId := rfl

@[simp] theorem named_runtimeFiles {L : Type} (owner : Owner) (c : Content J L) :
    (named owner c).runtimeFiles = c.runtimeFiles := rfl

@[simp] theorem named_preflightRequired {L : Type} (owner : Owner) (c : Content J L) :
    (named owner c).preflightRequired = c.preflightRequired := rfl

/-- The modules as they were rendered. -/
def Store.initial (modules : ℕ → Module J) : Store J where
  results
    | .module index => some (named (.module index) (modules index).toContent)
    | .system _ => none
  lists
    | (.module index, path) => ((modules index).toContent.at path).getD []
    | (.system _, _) => []

/-- `deepcopy` of a result for a system. -/
def Store.deepcopy (s : Store J) (source : Content J Ref) (identifier : String) : Store J where
  results :=
    Function.update s.results (.system identifier) (some (named (.system identifier) source))
  lists ref :=
    if ref.1 = .system identifier then ((source.at ref.2).map s.lists).getD [] else s.lists ref

def Store.extend (s : Store J) (ref : Ref) (items : List J) : Store J :=
  { s with lists := Function.update s.lists ref (s.lists ref ++ items) }

def Store.write (s : Store J) (identifier : String) (merged : Content J Ref) : Store J :=
  { s with results := Function.update s.results (.system identifier) (some merged) }

/-- A new list, made for a place in the result of a system. -/
def Store.allocate (s : Store J) (ref : Ref) (items : List J) : Store J :=
  { s with lists := Function.update s.lists ref items }

@[simp] theorem Store.extend_lists (s : Store J) (ref : Ref) (items : List J) :
    (s.extend ref items).lists = Function.update s.lists ref (s.lists ref ++ items) := rfl

@[simp] theorem Store.allocate_results (s : Store J) (ref : Ref) (items : List J) :
    (s.allocate ref items).results = s.results := rfl

@[simp] theorem Store.allocate_lists (s : Store J) (ref : Ref) (items : List J) :
    (s.allocate ref items).lists = Function.update s.lists ref items := rfl

@[simp] theorem Store.write_results (s : Store J) (identifier : String) (merged : Content J Ref) :
    (s.write identifier merged).results =
      Function.update s.results (.system identifier) (some merged) := rfl

@[simp] theorem Store.write_lists (s : Store J) (identifier : String) (merged : Content J Ref) :
    (s.write identifier merged).lists = s.lists := rfl

end Store

abbrev MergeM (J : Type) := ExceptT MergeError (StateM (Store J))

section Merge

variable {J : Type} [DecidableEq J] (identifier : String) (source : Content J Ref)

/-- What is done to the merged result of the system. -/
def onMerged (f : Content J Ref → MergeM J Unit) : MergeM J Unit := fun s =>
  match s.results (.system identifier) with
  | none => (.error .keyError, s)
  | some merged => f merged s

def checkOwner (owner other : String) : MergeM J Unit := onMerged identifier fun merged =>
  if owner ≠ other ∨ merged.hardwarePlugin ≠ source.hardwarePlugin ∨
      merged.hardwareParams ≠ source.hardwareParams then
    throw (.valueError
      ("Conflicting plugin/master/cycle/timeout for hardware system " ++ identifier))
  else pure ()

/-- `setdefault(key, []).extend(deepcopy(result.get(key, [])))`. -/
def extendKey (key : ListKey) : MergeM J Unit := onMerged identifier fun merged =>
  modify fun s =>
    let items := ((source.lists key).map s.lists).getD []
    match merged.lists key with
    | some ref => s.extend ref items
    | none =>
      let ref := (.system identifier, .key key)
      (s.allocate ref items).write identifier
        { merged with lists := Function.update merged.lists key (some ref) }

def mergeFile (file : String × String) : MergeM J Unit := onMerged identifier fun merged =>
  if (merged.runtimeFiles.lookup file.1).isSome then
    throw (.valueError ("Duplicate runtime file: " ++ file.1))
  else
    modify fun s => s.write identifier
      { merged with runtimeFiles := Dictionary.assign file.1 file.2 merged.runtimeFiles }

/-- The entry `preflight_required` of the topology is or-ed. -/
def mergePreflight : MergeM J Unit := onMerged identifier fun merged =>
  match source.preflightRequired with
  | none => pure ()
  | some value =>
    modify fun s => s.write identifier
      { merged with preflightRequired := some ((merged.preflightRequired.getD false) || value) }

def mergeTopology (entry : String × Entry J Ref) : MergeM J Unit :=
  onMerged identifier fun merged =>
    match merged.expectedTopology.lookup entry.1, entry.2 with
    | none, .scalar value =>
      modify fun s => s.write identifier { merged with
        expectedTopology := Dictionary.assign entry.1 (.scalar value) merged.expectedTopology }
    | none, .list items =>
      let ref := (.system identifier, .topology entry.1)
      modify fun s => (s.allocate ref (s.lists items)).write identifier { merged with
        expectedTopology := Dictionary.assign entry.1 (.list ref) merged.expectedTopology }
    | some (.list previous), .list items => modify fun s => s.extend previous (s.lists items)
    | some (.scalar _), .list _ => throw .attributeError
    | some (.scalar previous), .scalar value =>
      if previous ≠ value then
        throw (.valueError ("Conflicting topology metadata for " ++ identifier))
      else pure ()
    | some (.list _), .scalar _ =>
      throw (.valueError ("Conflicting topology metadata for " ++ identifier))

def mergeGroup (group : String × Ref) : MergeM J Unit := onMerged identifier fun merged =>
  match merged.actuatorGroups.lookup group.1 with
  | some ref => modify fun s => s.extend ref (s.lists group.2)
  | none =>
    let ref := (.system identifier, .group group.1)
    modify fun s => (s.allocate ref (s.lists group.2)).write identifier
      { merged with actuatorGroups := Dictionary.assign group.1 ref merged.actuatorGroups }

def mergeInto (owner other : String) : MergeM J Unit := do
  checkOwner identifier source owner other
  ListKey.all.forM (extendKey identifier source)
  source.runtimeFiles.forM (mergeFile identifier)
  mergePreflight identifier source
  source.expectedTopology.forM (mergeTopology identifier)
  source.actuatorGroups.forM (mergeGroup identifier)

end Merge

section MergeSystems

variable {J : Type} [DecidableEq J] (name : J → String)

/-- The systems with their owners, and the names met so far. -/
structure Progress where
  systems : List (String × String) := []
  allNames : List String := []

def elementNames (s : Store J) (source : Content J Ref) : List String :=
  [ListKey.joints, .sensors, .gpios].flatMap fun key =>
    (((source.lists key).map s.lists).getD []).map name

/-- One turn of the loop over `rendered`: an owner and the result of a module. -/
def mergeModule (progress : Progress) (entry : String × ℕ) : MergeM J Progress := fun s =>
  match s.results (.module entry.2) with
  | none => (.error .keyError, s)
  | some result =>
    let allNames := progress.allNames ++ elementNames name s result
    let identifier := result.hardwareSystemId
    match progress.systems.lookup identifier with
    | none =>
      (.ok ⟨progress.systems ++ [(identifier, entry.1)], allNames⟩, s.deepcopy result identifier)
    | some owner =>
      (mergeInto identifier result owner entry.1 >>= fun _ =>
        pure ⟨progress.systems, allNames⟩ : MergeM J Progress) s

def requireUnique {α : Type} [DecidableEq α] (values : List α) (context : String) :
    MergeM J Unit :=
  if values.Nodup then pure () else throw (.valueError ("Duplicate " ++ context))

def checkSystem (system : String × String) : MergeM J Unit := fun s =>
  match s.results (.system system.1) with
  | none => (.error .keyError, s)
  | some merged =>
    match merged.lists .managedJoints with
    | none => (.error .keyError, s)
    | some managed =>
      (do requireUnique (((merged.lists .resourceClaims).map s.lists).getD [])
            "physical resource claim"
          requireUnique (s.lists managed) "managed joint" : MergeM J Unit) s

/-- The identifiers of the systems with their owners; their results are in the store. -/
def mergeSystems (rendered : List (String × ℕ)) : MergeM J (List (String × String)) := do
  let progress ← rendered.foldlM (mergeModule name) {}
  progress.systems.forM checkSystem
  requireUnique progress.allNames "hardware resource name"
  return progress.systems

end MergeSystems

end RobotDriver.Composer.Merge
