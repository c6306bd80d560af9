import NetworkRollout.CommandLine.Arguments
import NetworkRollout.Cluster.Names
import NetworkRollout.Log.Filter
import NetworkRollout.Log.Record

/-!
# What the command does

The command shows its version or its usage, refuses its arguments or settings, or starts the
operator. A start is logged, and so is its end when there is no cluster to connect to.

* `CommandOutcome.ofCommandLine`: what a command line leads to.
* `CommandOutcome.exitCode`, `CommandOutcome.output`, `CommandOutcome.complaint?`: what is seen of
  it.
-/

namespace NetworkRollout

structure BuildInfo where
  version : String
  commit : String
  date : String
  compiler : String
  deriving DecidableEq, Repr

namespace BuildInfo

def title (build : BuildInfo) : String := s!"{Names.command} {build.version}"

def lines (build : BuildInfo) : List String :=
  [build.title, s!"  commit:     {build.commit}", s!"  build date: {build.date}",
    s!"  rustc:      {build.compiler}"]

end BuildInfo

namespace CommandLine

/-- The lines on one option: its name, its variable and its purpose. -/
def usageOf (s : Setting) : List String :=
  [s!"      --{s.optionName} <{s.environmentName}>", s!"          {s.purpose}"]

def usage : List String :=
  ["Bootstraps the OVN-Kubernetes control plane and sequences master, node and pre-pull " ++
      "DaemonSet rollouts across release upgrades and IP family conversions.",
    "", s!"Usage: {Names.command} [OPTIONS] [COMMAND]", "", "Commands:",
    "  version  Show version information", "  help     Print this message", "", "Options:"]
    ++ Setting.all.flatMap usageOf
    ++ ["  -h, --help", "          Print help", "  -V, --version", "          Print version"]

end CommandLine

inductive CommandOutcome where
  /-- The usage is shown. -/
  | usage
  /-- The name and the version are shown. -/
  | title
  /-- All that is known of the build is shown. -/
  | version
  /-- The arguments are refused. -/
  | refused (stop : ArgumentStop)
  /-- The settings are refused. -/
  | invalid (fault : String)
  /-- The operator starts with some settings, and ends; its log records are shown in a form. -/
  | started (settings : OperatorSettings) (format : LogFormat) (records : List LogRecord)
  deriving Repr

namespace CommandOutcome

/-- The variable of the environment that sets the log filter. -/
def filterVariable : String := "RUST_LOG"

/-- The log records of a start that finds no cluster, for a reason. -/
def startRecords (build : BuildInfo) (settings : OperatorSettings) (reason : String) :
    List LogRecord :=
  [{ level := .info, target := Names.command
     message := s!"Starting {Names.command} v{build.version} (commit: {build.commit}, " ++
      s!"build: {build.date}, release: {settings.release})" },
    { level := .error, target := Names.command, message := s!"Operator failed: {reason}" }]

/-- The outcome of a command line, for a build, when connecting to the cluster fails for a
reason. -/
def ofCommandLine (build : BuildInfo) (environment : String → Option String)
    (words : List String) (reason : String) : CommandOutcome :=
  match OperatorSettings.ofCommandLine environment words with
  | .error .displayHelp => usage
  | .error .displayVersion => title
  | .error stop => refused stop
  | .ok (_, some .version) => version
  | .ok (settings, none) =>
    match settings.fault? with
    | some fault => invalid fault
    | none =>
      let filter := LogFilter.choose (environment filterVariable) settings.logLevel
      started settings (.ofText settings.logFormat)
        ((startRecords build settings reason).filter fun r => filter.admits r.target r.level)

/-- The exit code: 0 for an answer, 2 for refused arguments, 1 for a failure. -/
def exitCode : CommandOutcome → Nat
  | usage | title | version => 0
  | refused _ => 2
  | invalid _ | started _ _ _ => 1

/-- The lines on the standard output, with the records' time. -/
def output (build : BuildInfo) (time : String) : CommandOutcome → List String
  | usage => CommandLine.usage
  | title => [build.title]
  | version => build.lines
  | refused _ | invalid _ => []
  | started _ format records => records.map (·.line format time)

def complaint? : CommandOutcome → Option String
  | refused stop => some s!"error: {stop.message}"
  | invalid fault => some s!"Invalid configuration: {fault}"
  | _ => none

end CommandOutcome

end NetworkRollout
