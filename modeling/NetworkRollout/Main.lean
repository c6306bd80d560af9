import NetworkRollout.CommandLine.Outcome
import NetworkRollout.Time.Moment
import Std.Time.DateTime.Timestamp

/-!
# The command

The outer layer of the operator: it reads the environment and the clock, and prints.
-/

namespace NetworkRollout

/-- The variables of the environment that are set, among those that are read. -/
def readEnvironment : IO (List (String × String)) :=
  (CommandOutcome.filterVariable :: Setting.all.map Setting.environmentName).filterMapM
    fun name => do return (← IO.getEnv name).map (name, ·)

def now : IO Moment := do
  let t := (← Std.Time.Timestamp.now).toNanosecondsSinceUnixEpoch.val
  return (Moment.of? (t / nanosPerSecond) (t % nanosPerSecond).toNat).getD .epoch

def thisBuild : BuildInfo :=
  { version := "0.1.0", commit := "unknown", date := "unknown", compiler := "unknown" }

end NetworkRollout

open NetworkRollout in
def main (words : List String) : IO UInt32 := do
  let environment ← readEnvironment
  let outcome := CommandOutcome.ofCommandLine thisBuild (List.lookup · environment) words
    "no cluster is configured"
  for line in outcome.output thisBuild (← now).text do
    IO.println line
  match outcome.complaint? with
  | some line => IO.eprintln line
  | none => pure ()
  return UInt32.ofNat outcome.exitCode
