import Mathlib.Data.List.Dedup
import RobotDriver.Lib.Dictionary
import RobotDriver.Lib.Double

/-!
# The kinds of parameter sources

A controller binding lists declarative sources, each of one of eleven kinds. Ten of them read the
selected data and give a value or nothing; a runtime source whose value is only known at start-up
records its key instead. String formatting, the text of a value and the package files are read from
the environment.
-/

namespace RobotDriver.Composer.Sources

inductive Value where
  | null
  | bool (b : Bool)
  | int (z : ℤ)
  | float (x : Double ℚ)
  | text (s : String)
  | list (items : List Value)
  | dict (entries : List (String × Value))

inductive Raised where
  | valueError (text : String)
  | keyError (key : String)
  | typeError
  | attributeError
  | zeroDivisionError
  deriving DecidableEq

abbrev Entries := List (String × Value)

section Values

/-- What a set compares; two numbers of different types may be the same element. -/
inductive HashKey where
  | null
  | number (x : ℚ)
  | infinite (positive : Bool)
  | text (s : String)
  deriving DecidableEq

/-- `none` is a value that equals no other. -/
def hashKey : Value → Except Raised (Option HashKey)
  | .null => .ok (some .null)
  | .bool b => .ok (some (.number (if b then 1 else 0)))
  | .int z => .ok (some (.number z))
  | .float (.finite x) => .ok (some (.number x))
  | .float .posInf => .ok (some (.infinite true))
  | .float .negInf => .ok (some (.infinite false))
  | .float .nan => .ok none
  | .text s => .ok (some (.text s))
  | .list _ | .dict _ => .error .typeError

def iterate : Value → Except Raised (List Value)
  | .list items => .ok items
  | .dict entries => .ok (entries.map fun entry => .text entry.1)
  | .text s => .ok (s.toList.map fun c => .text (String.singleton c))
  | _ => .error .typeError

def length (value : Value) : Except Raised ℕ := do return (← iterate value).length

def toSet (values : List Value) : Except Raised (List (Option HashKey)) := values.mapM hashKey

def sameSet (first second : List (Option HashKey)) : Bool :=
  decide ((∀ x ∈ first, x.isSome = true ∧ x ∈ second) ∧
    ∀ y ∈ second, y.isSome = true ∧ y ∈ first)

def subset (first second : List (Option HashKey)) : Bool :=
  decide (∀ x ∈ first, x.isSome = true ∧ x ∈ second)

def disjoint (first second : List (Option HashKey)) : Bool :=
  decide (∀ x ∈ first, x.isSome = true → x ∉ second)

def distinct (elements : List (Option HashKey)) : Bool :=
  decide (elements.filter Option.isSome).Nodup

def truthy : Value → Bool
  | .null => false
  | .bool b => b
  | .int z => z ≠ 0
  | .float x => x ≠ .finite 0
  | .text s => s ≠ ""
  | .list items => !items.isEmpty
  | .dict entries => !entries.isEmpty

def isNumber : Value → Option (Double ℚ)
  | .int z => some (.finite z)
  | .float x => some x
  | _ => none

def divide : Double ℚ → Double ℚ → Except Raised (Double ℚ)
  | _, .finite 0 => .error .zeroDivisionError
  | .finite x, .finite y => .ok (.finite (x / y))
  | .finite _, .posInf | .finite _, .negInf => .ok (.finite 0)
  | .posInf, .finite y => .ok (if 0 < y then .posInf else .negInf)
  | .negInf, .finite y => .ok (if 0 < y then .negInf else .posInf)
  | _, _ => .ok .nan

end Values

structure PolicySource where
  name : String
  overlay : Option String := none
  path : Option String := none
  keysFrom : Option String := none
  transform : Option String := none
  matchRule : Option String := none
  partition : Option String := none
  optional : Bool := false

structure ControllersSource where
  tag : String
  select : String
  default : Option String := none
  format : Option String := none
  optional : Bool := false

inductive InterfaceName where
  | policy (policy path : String) (optional : Bool)
  | name (name : String)

inductive JointValue where
  | yaml (package file path : String)
  | valueExport (name : String)

structure JointGroup where
  module : String
  jointsExport : String
  value : JointValue
  divideByExport : Option String := none

inductive SourceKind where
  | yaml (package file path : String)
  | policy (source : PolicySource)
  | controllers (source : ControllersSource)
  | ownerParameters
  | topics (templates : List (String × String))
  | runtime (key : String)
  | stateReady
  | exports (name : String)
  | interface (source : InterfaceName)
  | modelLimits (policy path attributeName : String)
  | jointValues (policy path : String) (groups : List JointGroup)

def SourceKind.label : SourceKind → String
  | .yaml .. => "yaml"
  | .policy _ => "policy"
  | .controllers _ => "controllers"
  | .ownerParameters => "owner_parameters"
  | .topics _ => "topics"
  | .runtime _ => "runtime"
  | .stateReady => "state_ready"
  | .exports _ => "exports"
  | .interface _ => "interface"
  | .modelLimits .. => "model_limits"
  | .jointValues .. => "joint_values"

/-- A kind with its data; `target` is the `as` of the data. -/
structure SourceEntry where
  kind : SourceKind
  target : Option String := none

structure ParameterSource where
  whenPolicy : Option String := none
  entries : List SourceEntry

structure ControllerBinding where
  module : String
  actuatorGroups : List String := []
  parameters : List ParameterSource := []

structure RenderedModule where
  controllerParameters : List (String × Value) := []
  controllerContext : List (String × Entries) := []
  actuatorGroups : List (String × List String) := []
  parameterExports : Option Entries := none
  resources : List (String × List String) := []

structure Environment where
  context : Entries
  policies : List (String × Value)
  loadYaml : String → String → Except Raised Value
  formatText : String → Entries → Except Raised String
  repr : Value → String
  renderedModules : List (String × RenderedModule)
  selected : List String
  tags : List (String × List String)
  naming : List (String × String)
  runtimeValues : Entries
  managedJoints : List String
  modelLimits : List (String × Entries)
  stateReady : List String

abbrev RuntimeParameters := List (String × String)

def item {β : Type} (entries : List (String × β)) (key : String) : Except Raised β :=
  match entries.lookup key with
  | some value => .ok value
  | none => .error (.keyError key)

def follow : Value → List String → Option Value
  | value, [] => some value
  | .dict entries, part :: rest => (entries.lookup part).bind fun value => follow value rest
  | _, _ :: _ => none

section Evaluate

variable (env : Environment)

def lookupPath (value : Value) (path : String) (context : Entries) : Except Raised Value := do
  let text ← env.formatText path context
  match follow value (text.splitOn ".") with
  | some value => return value
  | none => .error (.valueError ("Missing parameter source path: " ++ path))

def hasPath (value : Value) (path : String) (context : Entries) : Except Raised Bool := do
  let text ← env.formatText path context
  return (follow value (text.splitOn ".")).isSome

def transformValue (value : Value) : Option String → Except Raised Value
  | none => .ok value
  | some "flatten" => do
    let groups ← (← iterate value).mapM iterate
    return .list groups.flatten
  | some "lengths" => do
    let lengths ← (← iterate value).mapM length
    return .list (lengths.map fun size => .int size)
  | some transform => .error (.valueError ("Unsupported parameter transform: " ++ transform))

def unique (elements : List (Option HashKey)) (context : String) : Except Raised Unit :=
  if distinct elements then .ok () else .error (.valueError ("Duplicate entries in " ++ context))

mutual

def perJointArrays (size : ℕ) (label : String) : Value → Except Raised Unit
  | .dict entries => perJointEntries size label entries
  | _ => .ok ()

def perJointEntries (size : ℕ) (label : String) : Entries → Except Raised Unit
  | [] => .ok ()
  | (name, child) :: rest => do
    if name.endsWith "tolerances" || name.endsWith "thresholds" then
      if (← length child) ≠ size then
        throw (.valueError ("Per-joint array length mismatch in " ++ label ++ ": " ++ name))
    perJointArrays size label child
    perJointEntries size label rest

end

def checkMatch (binding : ControllerBinding) (value base : Value) (label : String) :
    Option String → Except Raised Unit
  | none => .ok ()
  | some "managed_joints" => do
    let elements ← toSet (← iterate value)
    unique elements label
    unless sameSet elements (env.managedJoints.map fun joint => some (.text joint)) do
      throw (.valueError (label ++ " must cover exactly the current managed joints"))
  | some "actuator_groups" => do
    let elements ← toSet (← iterate value)
    unique elements label
    let owner ← item env.renderedModules binding.module
    let groups ← binding.actuatorGroups.mapM (item owner.actuatorGroups)
    unless sameSet elements (groups.flatten.map fun joint => some (.text joint)) do
      throw (.valueError (label ++ " does not match controller actuator groups"))
    perJointArrays elements.length label base
  | some rule => .error (.valueError ("Unsupported parameter check: " ++ rule))

def checkPartition (value base : Value) (label : String) : Option String → Except Raised Unit
  | none => .ok ()
  | some partition => do
    let batches ← iterate (← lookupPath env base partition env.context)
    let flattened ← toSet (← batches.mapM iterate).flatten
    unique flattened (label ++ " partition")
    if batches.any fun batch => !truthy batch then
      throw (.valueError (label ++ " partition must cover exactly its value"))
    unless sameSet flattened (← toSet (← iterate value)) do
      throw (.valueError (label ++ " partition must cover exactly its value"))

def checkPolicy (binding : ControllerBinding) (value base : Value) (source : PolicySource)
    (label : String) : Except Raised Unit := do
  checkMatch env binding value base label source.matchRule
  checkPartition env value base label source.partition

def overlaid (base : Value) : Option String → Except Raised Value
  | none => .ok base
  | some overlay => do
    match base, ← lookupPath env base overlay env.context with
    | .dict entries, .dict overriding =>
      return .dict (Dictionary.assignAll overriding entries)
    | _, _ => throw .typeError

def selectKeys (entries : Entries) : List Value → Except Raised Entries
  | [] => .ok []
  | .text key :: rest => do
    let value ← item entries key
    return (key, value) :: (← selectKeys entries rest).filter fun entry => entry.1 ≠ key
  | key :: _ => do
    let _ ← hashKey key
    throw (.keyError (env.repr key))

/-- `none` is a source that resolves to nothing. -/
def policyEntry (base : Value) (source : PolicySource) : Except Raised (Option Value) :=
  match source.keysFrom, source.path with
  | some keysFrom, _ => do
    let keys ← iterate (← lookupPath env base keysFrom env.context)
    match base with
    | .dict entries => return some (.dict (← selectKeys env entries keys))
    | _ => throw .typeError
  | none, some path => do
    if source.optional && !(← hasPath env base path env.context) then return none
    return some (← lookupPath env base path env.context)
  | none, none => .ok (some base)

def policyValue (binding : ControllerBinding) (source : PolicySource) (label : String) :
    Except Raised (Option Value) := do
  let base ← overlaid env (← item env.policies source.name) source.overlay
  match ← policyEntry env base source with
  | none => return none
  | some value =>
    checkPolicy env binding value base source label
    return some (← transformValue value source.transform)

def controllersValue (source : ControllersSource) : Except Raised (Option Value) := do
  let tagged ← env.selected.filterM fun name => do
    return decide (source.tag ∈ (← item env.tags name))
  match source.select with
  | "all" =>
    if tagged.isEmpty && source.optional then return none
    return some (.list (tagged.map .text))
  | "any" => return some (.bool !tagged.isEmpty)
  | "first" =>
    match tagged, source.format, source.default with
    | name :: _, some format, _ =>
      return some (.text (← env.formatText format [("name", .text name)]))
    | name :: _, none, _ => return some (.text name)
    | [], _, default =>
      if source.optional then return none
      match default with
      | some value => return some (.text value)
      | none => throw (.valueError ("No selected controller has tag " ++ source.tag))
  | select => throw (.valueError ("Unsupported controller selection: " ++ select))

def exportedFor (exports : Entries) (name inst : String) : Except Raised Value := do
  match ← item exports name with
  | .dict entries => item entries inst
  | _ => throw .typeError

def jointEntry (exports : Entries) (group : JointGroup) (scalar : Value)
    (values : List (Option HashKey × Value)) (entry : String × Value) :
    Except Raised (List (Option HashKey × Value)) := do
  let value ← match group.value with
    | .yaml .. => pure scalar
    | .valueExport name => exportedFor exports name entry.1
  let divisor ← match group.divideByExport with
    | none => pure (.int 1)
    | some name => exportedFor exports name entry.1
  let joint ← hashKey entry.2
  match isNumber value, isNumber divisor with
  | some x, some y =>
    if values.any fun known => known.1 = joint && joint.isSome then
      throw (.valueError
        ("Joint value for " ++ env.repr entry.2 ++ " is duplicated or not a number"))
    return values ++ [(joint, .float (← divide x y))]
  | _, _ =>
    throw (.valueError
      ("Joint value for " ++ env.repr entry.2 ++ " is duplicated or not a number"))

def jointGroup (values : List (Option HashKey × Value)) (group : JointGroup) :
    Except Raised (List (Option HashKey × Value)) := do
  let owner ← item env.renderedModules group.module
  match owner.parameterExports with
  | none => throw (.keyError "parameter_exports")
  | some exports =>
    let scalar ← match group.value with
      | .yaml package file path => do
        lookupPath env (← env.loadYaml package file) path env.context
      | .valueExport _ => pure Value.null
    match ← item exports group.jointsExport with
    | .dict instances => instances.foldlM (jointEntry env exports group scalar) values
    | _ => throw .attributeError

def jointValues (policy path : String) (groups : List JointGroup) : Except Raised Value := do
  let joints ← lookupPath env (← item env.policies policy) path env.context
  let values ← groups.foldlM (jointGroup env) []
  let keys ← toSet (← iterate joints)
  unless sameSet (values.map Prod.fst) keys do
    throw (.valueError ("Joint values do not cover exactly " ++ env.repr joints))
  return .list (keys.filterMap fun key => values.lookup key)

def modelLimits (policy path attributeName : String) : Except Raised Value := do
  let joints ← iterate (← lookupPath env (← item env.policies policy) path env.context)
  let _ ← toSet joints
  let limit : Value → Option Value
    | .text joint => (env.modelLimits.lookup joint).bind fun limits => limits.lookup attributeName
    | _ => none
  let missing := joints.filter fun joint => (limit joint).isNone
  unless missing.isEmpty do
    throw (.valueError
      ("Robot model has no " ++ attributeName ++ " limit for " ++ env.repr (.list missing)))
  return .list (joints.filterMap limit)

def interfaceValue : InterfaceName → Except Raised (Option Value)
  | .policy policy path optional => do
    let policy ← item env.policies policy
    if optional && !(← hasPath env policy path []) then return none
    match ← lookupPath env policy path [] with
    | .text key => return some (.text (← item env.naming key))
    | key => do
      let _ ← hashKey key
      throw (.keyError (env.repr key))
  | .name name => return some (.text (← item env.naming name))

def topicValues (context : Entries) : List (String × String) → Except Raised Entries
  | [] => .ok []
  | (parameter, template) :: rest => do
    let text ← env.formatText (← item env.naming template) context
    return (parameter, .text text) :: (← topicValues context rest)

/-- One list from every selected module that exports it. -/
def exportedValues (name : String) : Except Raised (List Value) := do
  let values ← env.renderedModules.mapM fun entry =>
    match (entry.2.parameterExports.getD []).lookup name with
    | none => return []
    | some value => iterate value
  return values.flatten

/-- The kinds that read the selected data only. -/
def evaluateSelected (name : String) (binding : ControllerBinding) :
    SourceKind → Except Raised (Option Value)
  | .yaml package file path => do
    some <$> lookupPath env (← env.loadYaml package file) path env.context
  | .policy source => policyValue env binding source (name ++ ":" ++ source.name)
  | .controllers source => controllersValue env source
  | .ownerParameters => do
    let owner := (env.renderedModules.lookup binding.module).getD {}
    some <$> item owner.controllerParameters name
  | .topics templates => do
    let owner := (env.renderedModules.lookup binding.module).getD {}
    let context ← item owner.controllerContext name
    return some (.dict (← topicValues env context templates))
  | .runtime key => .ok (env.runtimeValues.lookup key)
  | .stateReady =>
    .ok (if env.stateReady.isEmpty then none else some (.list (env.stateReady.map .text)))
  | .exports name => do
    let values ← exportedValues env name
    return if values.isEmpty then none else some (.list values)
  | .interface source => interfaceValue env source
  | .modelLimits policy path attributeName => some <$> modelLimits env policy path attributeName
  | .jointValues policy path groups => some <$> jointValues env policy path groups

/-- The key of a runtime source whose value is not known yet. -/
def deferredKey : SourceKind → Option String
  | .runtime key =>
    match env.runtimeValues.lookup key with
    | none | some .null => some key
    | some _ => none
  | _ => none

/-- A deferred source resolves to nothing and records its key under its target. -/
def evaluate (name : String) (binding : ControllerBinding) (entry : SourceEntry)
    (runtime : RuntimeParameters) : Except Raised (Option Value × RuntimeParameters) :=
  match deferredKey env entry.kind with
  | some key =>
    match entry.target with
    | some target => .ok (none, Dictionary.assign target key runtime)
    | none => .error (.keyError "as")
  | none => do return (← evaluateSelected env name binding entry.kind, runtime)

end Evaluate

end RobotDriver.Composer.Sources
