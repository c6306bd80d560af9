import NetworkRollout.Flow.Duration
import NetworkRollout.Text.Unsigned

/-!
# Settings of the flow export

A config map can add one collector to those of the spec, together with settings of the flow
cache. Without a collector there are no settings; a setting that does not read is left out.
-/

namespace NetworkRollout

abbrev TextMap := List (String × String)

namespace TextMap

def get? (m : TextMap) (key : String) : Option String := m.lookup key

def insert (key value : String) : TextMap → TextMap
  | [] => [(key, value)]
  | (k, v) :: rest => if k = key then (k, value) :: rest else (k, v) :: insert key value rest

end TextMap

/-- The settings of the flow export from a config map. -/
structure FlowSettings where
  /-- The collector as `host:port`; `:port` stands for the node's own address. -/
  target : String
  cacheActiveTimeout : Option UInt32 := none
  cacheMaxFlows : Option UInt32 := none
  sampling : Option UInt32 := none
  deriving DecidableEq, Repr, Inhabited

namespace FlowSettings

/-- The collector that the data name: a shared one, or a port of each node. -/
def target? (data : TextMap) : Option String :=
  match data.get? "sharedTarget" with
  | some shared => some shared
  | none => (data.get? "nodePort").map (":" ++ ·)

/-- The whole seconds of a duration, as far as 32 bits reach. -/
def wholeSeconds (seconds : Float) : UInt32 := seconds.toUInt32

/-- The settings that the data give; none without a collector. -/
def ofData? (data : TextMap) : Option FlowSettings :=
  match target? data with
  | none => none
  | some target =>
    if target = "" then none
    else
      some
        { target
          cacheActiveTimeout :=
            ((data.get? "cacheActiveTimeout").bind Duration.seconds?).map wholeSeconds
          cacheMaxFlows := (data.get? "cacheMaxFlows").bind Text.u32?
          sampling := (data.get? "sampling").bind Text.u32? }

/-- The collectors declared on the spec followed by the collector of the settings. -/
def mergeCollectors (flow : FlowSettings) (declared : String) : String :=
  if declared = "" then flow.target else declared ++ "," ++ flow.target

end FlowSettings

end NetworkRollout
