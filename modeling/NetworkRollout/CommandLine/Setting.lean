import NetworkRollout.Text.Unsigned

/-!
# The settings of the operator

Each setting is an option of the command line and a variable of the environment of the same name:
`--host-mtu` and `HOST_MTU`. Both are text; a setting takes its value from it or refuses it.

* `OperatorSettings`: the values, with their defaults.
* `OperatorSettings.assign`: a setting is given as text.
* `OperatorSettings.fault?`: what keeps the operator from running with them.
* `environmentName_ne_of_ne`: no two settings share a variable.
-/

namespace NetworkRollout

/-- The settings, in the order in which the environment is read. -/
inductive Setting where
  | releaseVersion
  | manifestDir
  | networkName
  | datapathNamespace
  | operatorNamespace
  | hostMtu
  | logFormat
  | logLevel
  | healthPort
  | metricsPort
  | requeueSecs
  deriving DecidableEq, Repr, Inhabited

namespace Setting

def all : List Setting :=
  [releaseVersion, manifestDir, networkName, datapathNamespace, operatorNamespace, hostMtu,
    logFormat, logLevel, healthPort, metricsPort, requeueSecs]

theorem mem_all (s : Setting) : s ∈ all := by
  cases s <;> decide

/-- The name of the option, without the dashes in front. -/
def optionName : Setting → String
  | releaseVersion => "release-version"
  | manifestDir => "manifest-dir"
  | networkName => "network-name"
  | datapathNamespace => "datapath-namespace"
  | operatorNamespace => "operator-namespace"
  | hostMtu => "host-mtu"
  | logFormat => "log-format"
  | logLevel => "log-level"
  | healthPort => "health-port"
  | metricsPort => "metrics-port"
  | requeueSecs => "requeue-secs"

def environmentName : Setting → String
  | releaseVersion => "RELEASE_VERSION"
  | manifestDir => "MANIFEST_DIR"
  | networkName => "NETWORK_NAME"
  | datapathNamespace => "DATAPATH_NAMESPACE"
  | operatorNamespace => "OPERATOR_NAMESPACE"
  | hostMtu => "HOST_MTU"
  | logFormat => "LOG_FORMAT"
  | logLevel => "LOG_LEVEL"
  | healthPort => "HEALTH_PORT"
  | metricsPort => "METRICS_PORT"
  | requeueSecs => "REQUEUE_SECS"

theorem environmentName_ne_of_ne {s t : Setting} (h : s ≠ t) :
    s.environmentName ≠ t.environmentName := by
  cases s <;> cases t <;> first | exact absurd rfl h | decide

def purpose : Setting → String
  | releaseVersion => "Release version the datapath is rolled to"
  | manifestDir => "Directory holding the datapath manifests"
  | networkName => "Name of the cluster-scoped Network object to reconcile"
  | datapathNamespace => "Namespace of the datapath DaemonSets"
  | operatorNamespace => "Namespace of the operator's auxiliary config maps"
  | hostMtu => "MTU of the host network, used to derive the pod MTU"
  | logFormat => "Log format: json or pretty"
  | logLevel => "Log level: trace, debug, info, warn, error"
  | healthPort => "Health check server port"
  | metricsPort => "Metrics server port"
  | requeueSecs => "Seconds between periodic reconciles"

def ofOptionName? (name : String) : Option Setting := all.find? (·.optionName = name)

end Setting

inductive SettingFault where
  /-- There is no value, or an empty path. -/
  | missing
  /-- The value is not a number in range. -/
  | notInRange
  deriving DecidableEq, Repr

structure OperatorSettings where
  releaseVersion : Option String := none
  manifestDir : String := "/bindata/network/ovn-kubernetes"
  networkName : String := "cluster"
  datapathNamespace : String := "openshift-ovn-kubernetes"
  operatorNamespace : String := "openshift-network-operator"
  hostMtu : UInt32 := 1500
  logFormat : String := "json"
  logLevel : String := "info"
  healthPort : UInt16 := 8080
  metricsPort : UInt16 := 8081
  requeueSecs : UInt64 := 180
  deriving DecidableEq, Repr, Inhabited

namespace OperatorSettings

def number (bound : Nat) (text : String) : Except SettingFault Nat :=
  match Text.unsignedOrMinusZero? bound text.toList with
  | some n => .ok n
  | none => .error .notInRange

/-- A number below 2⁶⁴, for which zero has no minus sign. -/
def seconds (text : String) : Except SettingFault Nat :=
  match Text.u64? text.toList with
  | some n => .ok n
  | none => .error .notInRange

def assign (settings : OperatorSettings) (s : Setting) (text : String) :
    Except SettingFault OperatorSettings :=
  match s with
  | .releaseVersion => .ok { settings with releaseVersion := some text }
  | .manifestDir => if text = "" then .error .missing else .ok { settings with manifestDir := text }
  | .networkName => .ok { settings with networkName := text }
  | .datapathNamespace => .ok { settings with datapathNamespace := text }
  | .operatorNamespace => .ok { settings with operatorNamespace := text }
  | .hostMtu => do return { settings with hostMtu := UInt32.ofNat (← number UInt32.size text) }
  | .logFormat => .ok { settings with logFormat := text }
  | .logLevel => .ok { settings with logLevel := text }
  | .healthPort => do return { settings with healthPort := UInt16.ofNat (← number UInt16.size text) }
  | .metricsPort => do return { settings with metricsPort := UInt16.ofNat (← number UInt16.size text) }
  | .requeueSecs => do return { settings with requeueSecs := UInt64.ofNat (← seconds text) }

/-- The release to roll to; empty when there is none. -/
def release (settings : OperatorSettings) : String := settings.releaseVersion.getD ""

def fault? (settings : OperatorSettings) : Option String :=
  if settings.release = "" then some s!"{Setting.releaseVersion.environmentName} is required"
  else if settings.requeueSecs = 0 then
    some s!"{Setting.requeueSecs.environmentName} must be greater than 0"
  else none

end OperatorSettings

end NetworkRollout
