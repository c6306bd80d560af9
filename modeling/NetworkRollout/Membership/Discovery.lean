import NetworkRollout.Failure

/-!
# Discovery of the control-plane members

The nodes are listed again and again until the expected number is seen or the deadline passes.
Time is counted in milliseconds from the start. The first listing begins at once, the next ones
at the ticks of an interval; when a listing overruns a tick by more than a slack, that tick comes
at once and the following ones are counted from there. What is due at the very deadline still
happens, and a listing that is not ready by then is not seen.
-/

namespace NetworkRollout

structure MemberNode where
  name : String
  address : Option String
  deriving DecidableEq, Repr, Inhabited

structure Listing where
  delay : Nat := 0
  answer : Except Failure (List MemberNode)

structure Polling where
  deadline : Nat
  interval : Nat
  interval_pos : 0 < interval := by decide

/-- The nodes of the last listing that was seen, and whether the deadline passed before the
expected number was seen. -/
structure Discovery where
  nodes : List MemberNode
  timedOut : Bool
  deriving DecidableEq, Repr

/-- How a discovery went: its outcome, the listings begun, the time it took, and the state of what
answers the listings. -/
structure DiscoveryRun (σ : Type) where
  outcome : Except Failure Discovery
  calls : Nat
  elapsed : Nat
  world : σ

namespace Discovery

/-- By how much a listing may overrun a tick without moving the ticks. -/
def slack : Nat := 5

/-- The tick after the one that was due and began at `start`. -/
def nextTick (interval due start : Nat) : Nat :=
  if due + slack < start then start + interval else due + interval

theorem lt_nextTick {interval : Nat} (h : 0 < interval) (due start : Nat) :
    due < nextTick interval due start := by
  unfold nextTick
  split <;> omega

/-- Whether a listing shows the expected members. An empty one never does. -/
def complete (expected : Nat) (nodes : List MemberNode) : Bool :=
  !nodes.isEmpty && nodes.length = expected

/-- Polls from the tick that is due, at the time `now`. -/
def poll (ask : σ → Listing × σ) (p : Polling) (expected : Nat) (due now calls : Nat)
    (seen : List MemberNode) (world : σ) : DiscoveryRun σ :=
  let start := max now due
  if _h : start ≤ p.deadline then
    let (listing, world) := ask world
    let ready := start + listing.delay
    if ready ≤ p.deadline then
      match listing.answer with
      | .error e => ⟨.error (.nodeDirectory e.message), calls + 1, ready, world⟩
      | .ok nodes =>
        if complete expected nodes then ⟨.ok ⟨nodes, false⟩, calls + 1, ready, world⟩
        else
          poll ask p expected (nextTick p.interval due start) ready (calls + 1) nodes world
    else ⟨.ok ⟨seen, true⟩, calls + 1, p.deadline, world⟩
  else ⟨.ok ⟨seen, true⟩, calls, p.deadline, world⟩
termination_by p.deadline + 1 - due
decreasing_by
  have hnext := lt_nextTick p.interval_pos due (max now due)
  have hdue : due ≤ max now due := Nat.le_max_right now due
  omega

/-- Lists the nodes until the expected number is seen or the deadline passes. -/
def run (ask : σ → Listing × σ) (p : Polling) (expected : Nat) (world : σ) : DiscoveryRun σ :=
  poll ask p expected 0 0 0 [] world

/-- The answers of a script in order, the last one repeating. An empty script shows no nodes. -/
def script (listings : List Listing) (call : Nat) : Listing :=
  match listings[call]? with
  | some l => l
  | none => listings.getLast?.getD { answer := .ok [] }

end Discovery

end NetworkRollout
