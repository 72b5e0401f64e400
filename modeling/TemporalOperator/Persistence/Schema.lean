import TemporalOperator.Lib.GoText

/-!
# Schema versions

`internal/persistence/schema.go`: dotted numeric versions with an optional leading `v`, compared component by
component; a component that is missing or not a number counts as zero.
-/

namespace TemporalOperator.Persistence
open Lib

def normalizeSchemaVersion (v : String) : String := GoText.trimPrefix (GoText.trimSpace v) "v"

def componentAt (parts : List String) (i : Nat) : Int :=
  match parts[i]?.map GoText.atoi with
  | some (.ok n) => n
  | _ => 0

/-- `CompareSchemaVersions`: the first component that differs decides. -/
def compareSchemaVersions (a b : String) : Int :=
  let as := GoText.split '.' (normalizeSchemaVersion a)
  let bs := GoText.split '.' (normalizeSchemaVersion b)
  match (List.range (max as.length bs.length)).find? fun i => componentAt as i ≠ componentAt bs i with
  | none => 0
  | some i => if componentAt as i < componentAt bs i then -1 else 1

def schemaSatisfies (current required : String) : Bool :=
  if GoText.trimSpace current = "" then false else compareSchemaVersions current required ≥ 0

example : schemaSatisfies "1.19" "v1.18" = true ∧ schemaSatisfies "1.9" "v1.13" = false := by decide

end TemporalOperator.Persistence
