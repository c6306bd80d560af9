import NetworkRollout.Bootstrap.Snapshot
import NetworkRollout.Rollout.Decision
import NetworkRollout.Number.Binary64

/-!
# Metrics

What the operator counts and measures, for each network: the passes and how long they took, the
discoveries that hit their deadline, the deadline of the next one, the members found last, and the
last decision on each tier.

* `Metrics.recordReconcile`, `recordBootstrap`, `recordDecision`: the events that are recorded.
-/

namespace NetworkRollout

/-- A value for each of the label sets that have been recorded. -/
abbrev Series (κ α : Type) := List (κ × α)

namespace Series

def get? [DecidableEq κ] (s : Series κ α) (key : κ) : Option α := s.lookup key

/-- Changes the value of a label set, which is the given one at first. -/
def change [DecidableEq κ] (key : κ) (first : α) (f : α → α) : Series κ α → Series κ α
  | [] => [(key, f first)]
  | (k, v) :: rest => if k = key then (k, f v) :: rest else (k, v) :: change key first f rest

def set [DecidableEq κ] (s : Series κ α) (key : κ) (value : α) : Series κ α :=
  change key value (fun _ => value) s

def count [DecidableEq κ] (s : Series κ Nat) (key : κ) : Series κ Nat := change key 0 (· + 1) s

end Series

namespace Binary64

def add (a b : Binary64) : Binary64 := ofFloat (a.toFloat + b.toFloat)

/-- Whether a double is at most another one. -/
def atMost (a b : Binary64) : Bool := a.toFloat ≤ b.toFloat

/-- The seconds of a number of milliseconds: whole seconds and a fraction, added. -/
def ofMilliseconds (ms : Nat) : Binary64 :=
  add (ofQuotient false (ms / 1000) 1) (ofQuotient false (ms % 1000) 1000)

end Binary64

/-- The distribution of durations in seconds: for each bound, how many were at most that long. -/
structure Histogram where
  count : Nat := 0
  sum : Binary64 := .zero false
  atMost : List Nat
  deriving DecidableEq, Repr, Inhabited

namespace Histogram

/-- The bounds for the durations of passes, in hundredths of a second. A pass includes the
discovery, which can take minutes. -/
def boundsInHundredths : List Nat :=
  [1, 5, 10, 50, 100, 500, 1000, 3000, 6000, 13000, 25000, 30000]

/-- The bounds for the durations of passes in seconds. -/
def bounds : List Binary64 := boundsInHundredths.map fun n => .ofQuotient false n 100

/-- A distribution of no durations. -/
def empty : Histogram := { atMost := bounds.map fun _ => 0 }

def observe (seconds : Binary64) (h : Histogram) : Histogram :=
  { count := h.count + 1
    sum := h.sum.add seconds
    atMost := (bounds.zip h.atMost).map fun (bound, n) =>
      if seconds.atMost bound then n + 1 else n }

end Histogram

structure Metrics where
  /-- Passes by network and result. -/
  reconciles : Series (String × String) Nat := []
  durations : Series String Histogram := []
  timeouts : Series String Nat := []
  deadlines : Series String Nat := []
  members : Series String Nat := []
  /-- Decisions by network and tier. -/
  decisions : Series (String × String) Nat := []
  deriving DecidableEq, Repr, Inhabited

namespace Metrics

def recordReconcile (network result : String) (milliseconds : Nat) (m : Metrics) : Metrics :=
  { m with
    reconciles := m.reconciles.count (network, result)
    durations :=
      m.durations.change network .empty (Histogram.observe (.ofMilliseconds milliseconds)) }

/-- Records the facts of a bootstrap and the deadline of the next discovery in seconds. -/
def recordBootstrap (network : String) (snapshot : Snapshot) (deadline : Nat) (m : Metrics) :
    Metrics :=
  { m with
    timeouts := if snapshot.timedOut then m.timeouts.count network else m.timeouts
    deadlines := m.deadlines.set network deadline
    members := m.members.set network snapshot.addresses.length }

def recordDecision (network : String) (d : Decision) (m : Metrics) : Metrics :=
  { m with
    decisions :=
      ((m.decisions.set (network, "master") d.updateMaster.toNat).set
        (network, "node") d.updateNode.toNat).set (network, "prepull") d.renderPrepull.toNat }

end Metrics

end NetworkRollout
