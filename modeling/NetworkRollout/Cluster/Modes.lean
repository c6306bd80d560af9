/-!
# Modes of the nodes and of the control plane

Words for how the datapath runs on each host, how traffic leaves the cluster, and where the
control plane runs.
-/

namespace NetworkRollout

inductive NodeMode where
  | full
  | dpu
  | dpuHost
  deriving DecidableEq, Repr, Inhabited

namespace NodeMode

/-- The mode that an override asks for. Full mode is no override. -/
def ofOverride? (s : String) : Option NodeMode :=
  if s = "dpu" then some dpu else if s = "dpu-host" then some dpuHost else none

def word : NodeMode → String
  | full => "full"
  | dpu => "dpu"
  | dpuHost => "dpu-host"

def name : NodeMode → String
  | full => "Full"
  | dpu => "Dpu"
  | dpuHost => "DpuHost"

def ofName? (s : String) : Option NodeMode :=
  if s = "Full" then some full
  else if s = "Dpu" then some dpu
  else if s = "DpuHost" then some dpuHost
  else none

/-- The mode for the value in a config map; anything that is no override means full mode. -/
def ofSetting (value : Option String) : NodeMode := ((value.bind ofOverride?)).getD full

end NodeMode

inductive GatewayMode where
  | shared
  | viaHost
  deriving DecidableEq, Repr, Inhabited

namespace GatewayMode

def ofWord? (s : String) : Option GatewayMode :=
  if s = "shared" then some shared else if s = "local" then some viaHost else none

def word : GatewayMode → String
  | shared => "shared"
  | viaHost => "local"

def name : GatewayMode → String
  | shared => "Shared"
  | viaHost => "Local"

def ofName? (s : String) : Option GatewayMode :=
  if s = "Shared" then some shared else if s = "Local" then some viaHost else none

/-- The mode for the value in a config map; anything else means shared mode. -/
def ofSetting (value : Option String) : GatewayMode := ((value.bind ofWord?)).getD shared

def ofRouting (routingViaHost : Bool) : GatewayMode :=
  if routingViaHost then viaHost else shared

end GatewayMode

inductive Topology where
  | highlyAvailable
  | singleReplica
  | external
  deriving DecidableEq, Repr, Inhabited

namespace Topology

/-- The topology that the cluster reports; anything unknown is highly available. -/
def ofReport (s : Option String) : Topology :=
  if s = some "External" then external
  else if s = some "SingleReplica" then singleReplica
  else highlyAvailable

def name : Topology → String
  | highlyAvailable => "HighlyAvailable"
  | singleReplica => "SingleReplica"
  | external => "External"

end Topology

/-- What the cluster reports about its infrastructure. -/
structure Infrastructure where
  topology : Topology := .highlyAvailable
  platform : String := ""
  deriving DecidableEq, Repr, Inhabited

end NetworkRollout
