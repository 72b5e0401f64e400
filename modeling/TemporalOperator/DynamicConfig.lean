import TemporalOperator.Api.Cluster
import TemporalOperator.Versions
import Mathlib.Data.List.Sort

/-!
# Rendering dynamic config

`internal/temporal/dynamicconfig.go` up to the YAML text: keys in sorted order, a key removed in the
target version and a value that is not JSON are errors. Every key counts as known, so there are no
warnings.
-/

namespace TemporalOperator

structure DynamicConfigEntry where
  value : RawJSON
  constraints : List (String × String)
  deriving DecidableEq, Repr

def constraintsToMap (c : DynamicConfigConstraints) : List (String × String) :=
  [("namespace", c.namespace_), ("taskQueueName", c.taskQueueName), ("taskQueueType", c.taskQueueType)].filter
    (·.2 ≠ "")

def decodeRawValue : RawJSON → Except String RawJSON
  | .empty => .ok .empty
  | .value text => .ok (.value text)
  | .invalid err => .error ("invalid JSON value: " ++ err)

def dynamicConfigEntries (key : String) : List DynamicConfigValue → Except String (List DynamicConfigEntry)
  | [] => .ok []
  | v :: vs => do
    let value ← (decodeRawValue v.value).mapError fun e => "dynamic config key " ++ Lib.GoText.quote key ++ ": " ++ e
    let rest ← dynamicConfigEntries key vs
    return ⟨value, (v.constraints.map constraintsToMap).getD []⟩ :: rest

def dynamicConfigDoc (removed : List String) (version : String) :
    List (String × List DynamicConfigValue) → Except String (List (String × List DynamicConfigEntry))
  | [] => .ok []
  | (key, values) :: rest =>
    if key ∈ removed then
      .error ("dynamic config key " ++ Lib.GoText.quote key ++ " was removed in Temporal " ++ version)
    else do
      let entries ← dynamicConfigEntries key values
      let doc ← dynamicConfigDoc removed version rest
      return (key, entries) :: doc

/-- `RenderDynamicConfig`: the document that is marshalled to YAML. -/
def renderDynamicConfig (matrix : List VersionInfo) (spec : DynamicConfigSpec) (version : String) :
    Except String (List (String × List DynamicConfigEntry)) :=
  let removed := match lookupVersion matrix version with
    | .ok info => info.removedDynamicConfig
    | .error _ => []
  dynamicConfigDoc removed version (spec.values.insertionSort fun a b => a.1 ≤ b.1)

end TemporalOperator
