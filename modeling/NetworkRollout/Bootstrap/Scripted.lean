import NetworkRollout.Bootstrap.Surroundings

/-!
# Surroundings from a script

A cluster that does not change during a pass, listings in a fixed order, and a store of texts
whose reads and writes may be made to fail. Only the store and the place in the script change.
-/

namespace NetworkRollout

/-- What a fixed cluster answers, and the faults of the store. -/
structure Script where
  infrastructure : Except Failure Infrastructure := .ok {}
  configMap : String → String → Except Failure (Option TextMap) := fun _ _ => .ok none
  workload : String → String → Except Failure (Option Tier) := fun _ _ => .ok none
  listings : List Listing := []
  recallFault : Option Failure := none
  recordFault : Option Failure := none

/-- The store, what was recorded in order, and the number of listings begun. -/
structure ScriptState where
  entries : TextMap := []
  writes : List (String × String) := []
  calls : Nat := 0
  deriving DecidableEq, Repr, Inhabited

namespace Script

def recorded (script : Script) (key : String) (s : ScriptState) :
    Except Failure (Option String) × ScriptState :=
  match script.recallFault with
  | some e => (.error e, s)
  | none => (.ok (s.entries.get? key), s)

def record (script : Script) (key value : String) (s : ScriptState) :
    Except Failure Unit × ScriptState :=
  match script.recordFault with
  | some e => (.error e, s)
  | none =>
    (.ok (), { s with
      entries := s.entries.insert key value, writes := s.writes ++ [(key, value)] })

def surroundings (script : Script) : Surroundings ScriptState :=
  { infrastructure := fun s => (script.infrastructure, s)
    configMap := fun ns name s => (script.configMap ns name, s)
    workload := fun ns name s => (script.workload ns name, s)
    listNodes := fun s =>
      (Discovery.script script.listings s.calls, { s with calls := s.calls + 1 })
    recorded := script.recorded
    record := script.record }

end Script

end NetworkRollout
