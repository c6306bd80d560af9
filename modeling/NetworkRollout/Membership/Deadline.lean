/-!
# The deadline of a discovery

Some clusters never show the expected number of control-plane members. Each time a discovery runs
into its deadline the deadline shrinks, so that they stop paying the full wait on every pass: 250
seconds, 130, then 10. Each target has a deadline of its own.

* `Deadline.current_afterTimeouts`: the deadline after any number of timeouts.
* `Deadlines.of_recordTimeout_self`, `of_recordTimeout_ne`: a timeout is that of one target.
-/

namespace NetworkRollout

/-- The wait that is left of a target's first deadline after its timeouts, in seconds. -/
structure Deadline where
  seconds : Nat := 250
  deriving DecidableEq, Repr, Inhabited

namespace Deadline

def backoff : Nat := 120

/-- The smallest deadline that is used. -/
def smallest : Nat := 10

def current (d : Deadline) : Nat := max d.seconds smallest

/-- Shrinks after a timeout, as long as something stays. -/
def afterTimeout (d : Deadline) : Deadline :=
  if backoff < d.seconds then ⟨d.seconds - backoff⟩ else d

def afterTimeouts : Nat → Deadline
  | 0 => {}
  | n + 1 => (afterTimeouts n).afterTimeout

/-- Two timeouts use up what may shrink. -/
theorem seconds_afterTimeouts (n : Nat) : (afterTimeouts n).seconds = 250 - 120 * min n 2 := by
  induction n with
  | zero => rfl
  | succ n ih =>
    unfold afterTimeouts afterTimeout
    split
    case isTrue h =>
      unfold backoff at h ⊢
      show (afterTimeouts n).seconds - 120 = _
      omega
    case isFalse h =>
      unfold backoff at h
      omega

theorem current_afterTimeouts (n : Nat) :
    (afterTimeouts n).current = max 10 (250 - 120 * min n 2) := by
  rw [current, seconds_afterTimeouts, Nat.max_comm]
  rfl

end Deadline

/-- The deadlines of targets; one that is not listed has the first. -/
abbrev Deadlines := List (String × Deadline)

namespace Deadlines

def of (ds : Deadlines) (target : String) : Deadline := (ds.lookup target).getD {}

/-- Records that a discovery of the target ran into its deadline. -/
def recordTimeout (ds : Deadlines) (target : String) : Deadlines :=
  (target, (ds.of target).afterTimeout) :: ds.filter (·.1 ≠ target)

theorem lookup_filter_ne {ds : Deadlines} {a b : String} (h : a ≠ b) :
    List.lookup a (ds.filter (·.1 ≠ b)) = List.lookup a ds := by
  induction ds with
  | nil => rfl
  | cons d ds ih =>
    obtain ⟨k, v⟩ := d
    by_cases hk : k = b
    · have ha : (a == k) = false := by simpa [hk] using h
      rw [List.lookup_cons, ha]
      simpa [hk] using ih
    · simp only [ne_eq, hk, not_false_eq_true, decide_true, List.filter_cons_of_pos,
        List.lookup_cons]
      cases a == k
      · simpa using ih
      · rfl

theorem of_recordTimeout_self (ds : Deadlines) (target : String) :
    (ds.recordTimeout target).of target = (ds.of target).afterTimeout := by
  simp [of, recordTimeout]

theorem of_recordTimeout_ne (ds : Deadlines) {a b : String} (h : a ≠ b) :
    (ds.recordTimeout b).of a = ds.of a := by
  have ha : (a == b) = false := by simpa using h
  simp only [of, recordTimeout, List.lookup_cons, ha]
  rw [lookup_filter_ne h]

end Deadlines

end NetworkRollout
