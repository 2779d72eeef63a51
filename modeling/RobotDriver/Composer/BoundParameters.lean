import Mathlib.Data.List.Sort
import RobotDriver.Composer.SourceKinds
import RobotDriver.Lib.Fallible

/-!
# Merging the sources and the bound exports of a controller

The sources of a binding are merged in order and a key given twice is rejected. The scope may then
bind further parameters to module exports, or append an export to a list another source gave. Of
every source only its contribution matters: nothing, a deferred key, or entries.
-/

namespace RobotDriver.Composer.Sources

open Dictionary

section Merge

variable (env : Environment) (name : String) (binding : ControllerBinding)

def selectedSource (source : ParameterSource) : Bool :=
  match source.whenPolicy with
  | none => true
  | some policy => (env.policies.lookup policy).isSome

def checkSelectedPolicy : SourceKind → Except Raised Unit
  | .policy source =>
    if (env.policies.lookup source.name).isSome then .ok ()
    else .error (.valueError (name ++ " references unselected policy " ++ source.name))
  | _ => .ok ()

/-- The entries a value stands for: itself under the target, or its own keys. -/
def entriesOf (entry : SourceEntry) (value : Value) : Except Raised Entries :=
  match entry.target, value with
  | some target, value => .ok [(target, value)]
  | none, .dict entries => .ok entries
  | none, _ => .error (.valueError
      ("Parameter source " ++ entry.kind.label ++ " for " ++ name ++ " needs 'as'"))

def duplicateSource (result value : Entries) : Raised :=
  .valueError ("Duplicate parameter source for " ++ name ++ ": " ++
    env.repr (.list (((duplicateKeys result value).mergeSort fun first second =>
      decide (first ≤ second)).map .text)))

def mergeSource (source : ParameterSource) (result : Entries) (runtime : RuntimeParameters) :
    Except Raised (Entries × RuntimeParameters) :=
  match source.entries with
  | [entry] =>
    if selectedSource env source = false then .ok (result, runtime)
    else do
      checkSelectedPolicy env name entry.kind
      let (value, runtime) ← evaluate env name binding entry runtime
      match value with
      | none => return (result, runtime)
      | some value =>
        let entries ← entriesOf name entry value
        if duplicateKeys result entries = [] then return (result ++ entries, runtime)
        else throw (duplicateSource env name result entries)
  | _ => .error (.valueError ("Parameter source for " ++ name ++ " needs exactly one kind"))

def controllerParametersFrom :
    List ParameterSource → Entries → RuntimeParameters → Except Raised (Entries × RuntimeParameters)
  | [], result, runtime => .ok (result, runtime)
  | source :: sources, result, runtime => do
    let (result, runtime) ← mergeSource env name binding source result runtime
    controllerParametersFrom sources result runtime

def controllerParameters (sources : List ParameterSource) :
    Except Raised (Entries × RuntimeParameters) :=
  controllerParametersFrom env name binding sources [] []

end Merge

structure Reference where
  module : String
  exportName : String
  resourceKind : Option String := none
  append : Bool := false

/-- The references of one controller, a dictionary by parameter name. -/
structure ParameterBindings where
  instanceOrder : List String := []
  parameters : List (String × Reference) := []
  nodup : (parameters.map Prod.fst).Nodup := by decide

section Bind

variable (modules : List (String × RenderedModule)) (mock : Bool)

def orderedExport (order : List String) (name : String) : Value → Except Raised Value
  | .dict entries =>
    if order = [] ∨ ¬order.Nodup ∨ ¬((∀ key ∈ order, key ∈ entries.map Prod.fst) ∧
        ∀ key ∈ entries.map Prod.fst, key ∈ order) then
      .error (.valueError ("Controller instance keys do not match export: " ++ name))
    else do return .list (← order.mapM (item entries))
  | value => .ok value

def listed : Value → List Value
  | .list items => items
  | value => [value]

def isTbd : Value → Bool
  | .text "TBD" => true
  | _ => false

def nonFinite : Value → Bool
  | .float x => !x.isFinite
  | _ => false

def checkResources (owner : RenderedModule) (name : String) (values : List Value) :
    Option String → Except Raised Unit
  | none => .ok ()
  | some kind => do
    let resources ← item owner.resources kind
    let elements ← toSet values
    if distinct elements && subset elements (resources.map fun resource => some (.text resource))
    then return ()
    else throw (.valueError ("Controller parameter references invalid resources: " ++ name))

def appended (name : String) (values : List Value) : Option Value → Except Raised Value
  | some (.list current) => do
    if disjoint (← toSet current) (← toSet values) then return .list (current ++ values)
    else throw (.valueError ("Controller parameter cannot be appended: " ++ name))
  | _ => .error (.valueError ("Controller parameter cannot be appended: " ++ name))

def placeValue (name : String) (reference : Reference) (value : Value)
    (current : Option Value) : Except Raised Value :=
  if reference.append then appended name (listed value) current
  else if current.isSome then
    .error (.valueError ("Controller parameter duplicates a hardware fact: " ++ name))
  else .ok value

/-- The value a reference gives its parameter, which is at `current` so far. -/
def boundValue (order : List String) (name : String) (reference : Reference)
    (current : Option Value) : Except Raised Value := do
  match modules.lookup reference.module with
  | none => throw (.valueError ("Unselected controller parameter module: " ++ reference.module))
  | some owner =>
    match (owner.parameterExports.getD []).lookup reference.exportName with
    | none => throw (.valueError
        ("Missing controller parameter export: " ++ reference.module ++ "." ++
          reference.exportName))
    | some exported =>
      let value ← orderedExport order name exported
      let values := listed value
      require (mock = true ∨ values.any isTbd = false)
        (Raised.valueError ("Required controller parameter is TBD: " ++ name))
      require (values.any nonFinite = false)
        (Raised.valueError ("Non-finite controller parameter: " ++ name))
      checkResources owner name values reference.resourceKind
      placeValue name reference value current

def bindFrom (order : List String) :
    List (String × Reference) → Entries → Except Raised Entries
  | [], result => .ok result
  | (name, reference) :: rest, result => do
    let value ← boundValue modules mock order name reference (result.lookup name)
    bindFrom order rest (assign name value result)

def bindParameters (bindings : ParameterBindings) (parameters : Entries) :
    Except Raised Entries :=
  bindFrom modules mock bindings.instanceOrder bindings.parameters parameters

end Bind

/-- What a composition gives one controller: its parameters and those known at start-up only. -/
def composeParameters (env : Environment) (name : String) (binding : ControllerBinding)
    (bindings : ParameterBindings) (mock : Bool) (sources : List ParameterSource) :
    Except Raised (Entries × RuntimeParameters) := do
  let (parameters, runtime) ← controllerParameters env name binding sources
  return (← bindParameters env.renderedModules mock bindings parameters, runtime)

end RobotDriver.Composer.Sources
