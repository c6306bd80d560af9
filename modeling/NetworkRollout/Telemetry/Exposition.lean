import NetworkRollout.Telemetry.Metrics
import NetworkRollout.Number.Cut

/-!
# The text form of the metrics

Each family of metrics has a line of help, a line for its type, and a line for each sample. Counters
have the suffix `_total`; distributions have lines for the sum, the count and each bound. Label
values are written as they are. The text ends with a mark.

* `Metrics.exposition`: the text.
-/

namespace NetworkRollout

namespace Exposition

/-- The text of a number that is not negative: a point and at least one digit behind it, in powers
of ten when it is very large or small. -/
def numberText (x : Binary64) : String :=
  let d := x.cut
  let digits := Nat.toDigits 10 d.digits
  let size : Int := digits.length
  let point := size + d.exponent
  let zeros (n : Int) : List Char := List.replicate n.toNat '0'
  String.ofList <|
    if 0 ≤ d.exponent ∧ point ≤ 21 then digits ++ zeros d.exponent ++ ['.', '0']
    else if 0 < point ∧ point ≤ 21 then
      digits.take point.toNat ++ '.' :: digits.drop point.toNat
    else if -6 < point ∧ point ≤ 0 then '0' :: '.' :: zeros (-point) ++ digits
    else
      let fraction := if size = 1 then [] else '.' :: digits.drop 1
      digits.take 1 ++ fraction ++ 'e' :: (toString (point - 1)).toList

abbrev Labels := List (String × String)

def sample (name : String) (labels : Labels) (value : String) : String :=
  let written := labels.map fun (k, v) => k ++ "=\"" ++ v ++ "\""
  name ++ "\x7b" ++ ",".intercalate written ++ "\x7d " ++ value

def family (name help type : String) (samples : List String) : List String :=
  ("# HELP " ++ name ++ " " ++ help ++ ".") :: ("# TYPE " ++ name ++ " " ++ type) :: samples

def network (name : String) : Labels := [("network", name)]

def counter (name help : String) (labels : κ → Labels) (s : Series κ Nat) : List String :=
  family name help "counter" (s.map fun (k, n) => sample (name ++ "_total") (labels k) (toString n))

def gauge (name help : String) (labels : κ → Labels) (s : Series κ Nat) : List String :=
  family name help "gauge" (s.map fun (k, n) => sample name (labels k) (toString n))

def distribution (name : String) (labels : Labels) (h : Histogram) : List String :=
  let bucket (bound : String) (n : Nat) :=
    sample (name ++ "_bucket") (("le", bound) :: labels) (toString n)
  sample (name ++ "_sum") labels (numberText h.sum)
    :: sample (name ++ "_count") labels (toString h.count)
    :: (Histogram.bounds.zip h.atMost).map (fun (bound, n) => bucket (numberText bound) n)
    ++ [bucket "+Inf" h.count]

def histogram (name help : String) (labels : κ → Labels) (s : Series κ Histogram) : List String :=
  family name help "histogram" (s.flatMap fun (k, h) => distribution name (labels k) h)

end Exposition

namespace Metrics

open Exposition

def lines (m : Metrics) : List String :=
  counter "cnro_reconcile" "Total number of reconcile calls"
    (fun (n, r) => [("network", n), ("result", r)]) m.reconciles
  ++ histogram "cnro_reconcile_duration_seconds" "Duration of reconcile calls in seconds" network
    m.durations
  ++ counter "cnro_discovery_timeouts"
    "Total number of control plane discoveries that hit their deadline" network m.timeouts
  ++ gauge "cnro_discovery_deadline_seconds"
    "Deadline the next control plane discovery will use" network m.deadlines
  ++ gauge "cnro_control_plane_members"
    "Control plane members found by the last discovery" network m.members
  ++ gauge "cnro_rollout_decision" "Last rollout decision per tier (1=update, 0=hold)"
    (fun (n, t) => [("network", n), ("tier", t)]) m.decisions
  ++ ["# EOF"]

def exposition (m : Metrics) : String := "\n".intercalate m.lines ++ "\n"

end Metrics

end NetworkRollout
