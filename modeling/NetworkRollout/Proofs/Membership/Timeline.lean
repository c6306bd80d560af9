import Mathlib.Order.Nat
import NetworkRollout.Membership.Discovery

/-!
# The timeline of a discovery

When each listing begins and is ready follows from the interval and the delays alone, so that the
course of a discovery can be told from the listings, without its run. A listing is pending if it
answers and does not show the expected members; a discovery goes from one pending listing to the
next. The first listing in time that is not pending settles it, and if there is none it ends at the
deadline with what it saw last.

* `Discovery.turn`, `Discovery.ready`: when a listing begins, and when it is ready.
* `Discovery.Completes`: a discovery sees this listing.
* `Discovery.run_ending`: every discovery is settled or expires.
* `Discovery.told_by_listings`: what a discovery answers, how long it takes, how often it lists.
-/

namespace NetworkRollout.Discovery

variable {σ : Type}

/-! ## The listings and their times -/

/-- The world before a listing of an unbounded polling. -/
def worldAt (ask : σ → Listing × σ) (first : σ) : Nat → σ
  | 0 => first
  | k + 1 => (ask (worldAt ask first k)).2

/-- The listings of an unbounded polling, in order. -/
def listing (ask : σ → Listing × σ) (first : σ) (k : Nat) : Listing :=
  (ask (worldAt ask first k)).1

/-- When a listing is due, and when it begins. -/
structure Turn where
  due : Nat
  start : Nat

/-- The turns of an unbounded polling. A listing that is due begins once the one before is ready. -/
def turn (interval : Nat) (listings : Nat → Listing) : Nat → Turn
  | 0 => { due := 0, start := 0 }
  | k + 1 =>
    let last := turn interval listings k
    let due := nextTick interval last.due last.start
    { due, start := max (last.start + (listings k).delay) due }

/-- When the answer of a listing is there. -/
def ready (interval : Nat) (listings : Nat → Listing) (k : Nat) : Nat :=
  (turn interval listings k).start + (listings k).delay

section Turns

variable {interval : Nat} {listings : Nat → Listing}

theorem due_le_start (k : Nat) :
    (turn interval listings k).due ≤ (turn interval listings k).start := by
  cases k with
  | zero => exact Nat.le_refl 0
  | succ k => exact Nat.le_max_right _ _

theorem start_le_ready (k : Nat) :
    (turn interval listings k).start ≤ ready interval listings k :=
  Nat.le_add_right _ _

/-- The listings are at least an interval apart, on the whole: a tick may come late, but no later
tick comes early for that. -/
theorem mul_le_due (k : Nat) : k * interval ≤ (turn interval listings k).due := by
  induction k with
  | zero => exact Nat.le_of_eq (Nat.zero_mul interval)
  | succ k ih =>
    have hstart : (turn interval listings k).due ≤ (turn interval listings k).start :=
      due_le_start k
    have hnext : (turn interval listings k).due + interval ≤
        nextTick interval (turn interval listings k).due (turn interval listings k).start := by
      unfold nextTick
      split <;> omega
    rw [Nat.succ_mul]
    exact (Nat.add_le_add_right ih interval).trans hnext

/-- While every listing is ready by the next tick, the ticks are the multiples of the interval. -/
theorem turn_of_prompt (hprompt : ∀ k, (listings k).delay ≤ interval) (k : Nat) :
    turn interval listings k = { due := k * interval, start := k * interval } := by
  induction k with
  | zero => rw [Nat.zero_mul]; rfl
  | succ k ih =>
    have htick : nextTick interval (k * interval) (k * interval) = (k + 1) * interval := by
      rw [nextTick, if_neg (by omega), Nat.succ_mul]
    have hready : k * interval + (listings k).delay ≤ (k + 1) * interval := by
      rw [Nat.succ_mul]
      exact Nat.add_le_add_left (hprompt k) _
    simp only [turn, ih, htick, max_eq_right hready]

end Turns

/-! ## The listings that a discovery sees -/

/-- The listing answers, and does not show the expected members. -/
def Pending (expected : Nat) (l : Listing) : Prop :=
  ∃ nodes, l.answer = .ok nodes ∧ complete expected nodes = false

theorem complete_iff {expected : Nat} {nodes : List MemberNode} :
    complete expected nodes = true ↔ nodes ≠ [] ∧ nodes.length = expected := by
  simp [complete]

/-- A listing that is not pending fails or shows the expected members. -/
theorem not_pending_iff {expected : Nat} {l : Listing} :
    ¬ Pending expected l ↔ (∃ e, l.answer = .error e) ∨
      ∃ nodes, l.answer = .ok nodes ∧ complete expected nodes = true := by
  unfold Pending
  cases l.answer with
  | error e => simp
  | ok nodes => simp

/-- What becomes of a discovery with a listing that is not pending. -/
def verdict (l : Listing) : Except Failure Discovery :=
  match l.answer with
  | .ok nodes => .ok ⟨nodes, false⟩
  | .error e => .error (.nodeDirectory e.message)

theorem verdict_of_ok {l : Listing} {nodes : List MemberNode} (h : l.answer = .ok nodes) :
    verdict l = .ok ⟨nodes, false⟩ := by
  rw [verdict, h]

theorem verdict_of_error {l : Listing} {e : Failure} (h : l.answer = .error e) :
    verdict l = .error (.nodeDirectory e.message) := by
  rw [verdict, h]

/-- The nodes that the last of the first `n` listings shows, and none if there is no listing. -/
def lastSeen (listings : Nat → Listing) : Nat → List MemberNode
  | 0 => []
  | n + 1 => (listings n).answer.toOption.getD []

/-- A discovery gets to this listing: all before it are ready in time and pending. -/
def Reaches (p : Polling) (expected : Nat) (listings : Nat → Listing) (k : Nat) : Prop :=
  ∀ j < k, ready p.interval listings j ≤ p.deadline ∧ Pending expected (listings j)

/-- A discovery begins this listing. -/
def Begins (p : Polling) (expected : Nat) (listings : Nat → Listing) (k : Nat) : Prop :=
  Reaches p expected listings k ∧ (turn p.interval listings k).start ≤ p.deadline

/-- A discovery sees the answer of this listing. -/
def Completes (p : Polling) (expected : Nat) (listings : Nat → Listing) (k : Nat) : Prop :=
  Reaches p expected listings k ∧ ready p.interval listings k ≤ p.deadline

section Reaching

variable {p : Polling} {expected : Nat} {listings : Nat → Listing}

theorem reaches_zero : Reaches p expected listings 0 := by
  rintro j ⟨⟩

theorem Reaches.mono {j k : Nat} (h : Reaches p expected listings k) (hjk : j ≤ k) :
    Reaches p expected listings j := fun i hi => h i (hi.trans_le hjk)

theorem Reaches.completes {j k : Nat} (h : Reaches p expected listings k) (hjk : j < k) :
    Completes p expected listings j := ⟨h.mono hjk.le, (h j hjk).1⟩

theorem Reaches.succ {k : Nat} (h : Reaches p expected listings k)
    (hready : ready p.interval listings k ≤ p.deadline)
    (hpending : Pending expected (listings k)) :
    Reaches p expected listings (k + 1) := by
  intro j hj
  rcases Nat.lt_succ_iff_lt_or_eq.mp hj with hbefore | rfl
  · exact h j hbefore
  · exact ⟨hready, hpending⟩

theorem Completes.begins {k : Nat} (h : Completes p expected listings k) :
    Begins p expected listings k := ⟨h.1, (start_le_ready k).trans h.2⟩

/-- Of a discovery that gets to a listing which is late, the listings before it are seen. -/
theorem Reaches.completes_iff {n : Nat} (h : Reaches p expected listings n)
    (hlate : p.deadline < ready p.interval listings n) (k : Nat) :
    Completes p expected listings k ↔ k < n := by
  constructor
  · intro hk
    rcases Nat.lt_trichotomy k n with hbefore | rfl | hafter
    · exact hbefore
    · exact absurd hk.2 (Nat.not_le_of_lt hlate)
    · exact absurd (hk.1 n hafter).1 (Nat.not_le_of_lt hlate)
  · intro hk
    exact h.completes hk

/-- Of the listings that are not pending, a discovery sees one at most. -/
theorem Completes.eq_of_not_pending {j k : Nat} (hj : Completes p expected listings j)
    (hk : Completes p expected listings k) (hsettlesj : ¬ Pending expected (listings j))
    (hsettlesk : ¬ Pending expected (listings k)) : j = k := by
  rcases Nat.lt_trichotomy j k with hlt | heq | hgt
  · exact absurd (hk.1 j hlt).2 hsettlesj
  · exact heq
  · exact absurd (hj.1 k hgt).2 hsettlesk

end Reaching

/-! ## How a discovery ends -/

/-- The two ends of a discovery: the first listing that is not pending settles it, or the deadline
comes before listing `k` is ready. -/
inductive Ending (p : Polling) (expected : Nat) (listings : Nat → Listing)
    (d : DiscoveryRun σ) : Prop
  | settled (k : Nat) (hcompletes : Completes p expected listings k)
      (hsettles : ¬ Pending expected (listings k)) (houtcome : d.outcome = verdict (listings k))
      (hcalls : d.calls = k + 1) (helapsed : d.elapsed = ready p.interval listings k)
  | expired (k : Nat) (hreaches : Reaches p expected listings k)
      (hlate : p.deadline < ready p.interval listings k)
      (houtcome : d.outcome = .ok ⟨lastSeen listings k, true⟩)
      (hcalls : d.calls = if (turn p.interval listings k).start ≤ p.deadline then k + 1 else k)
      (helapsed : d.elapsed = p.deadline)

/-- A polling has got to listing `calls`: what it goes on with, in terms of the listings. -/
structure At (ask : σ → Listing × σ) (p : Polling) (expected : Nat) (first : σ)
    (due now calls : Nat) (seen : List MemberNode) (world : σ) : Prop where
  reaches : Reaches p expected (listing ask first) calls
  turn : turn p.interval (listing ask first) calls = ⟨due, max now due⟩
  seen : seen = lastSeen (listing ask first) calls
  world : world = worldAt ask first calls

namespace At

variable {ask : σ → Listing × σ} {p : Polling} {expected : Nat} {first world : σ}
  {due now calls : Nat} {seen : List MemberNode}

theorem zero : At ask p expected first 0 0 0 [] first := ⟨reaches_zero, rfl, rfl, rfl⟩

theorem listing_eq (h : At ask p expected first due now calls seen world) :
    listing ask first calls = (ask world).1 := by
  rw [listing, ← h.world]

theorem start_eq (h : At ask p expected first due now calls seen world) :
    (Discovery.turn p.interval (listing ask first) calls).start = max now due := by
  rw [h.turn]

theorem ready_eq (h : At ask p expected first due now calls seen world) :
    ready p.interval (listing ask first) calls = max now due + (ask world).1.delay := by
  rw [ready, h.start_eq, h.listing_eq]

/-- A pending listing that is ready in time brings the polling to the next. -/
theorem succ {nodes : List MemberNode} (h : At ask p expected first due now calls seen world)
    (hintime : max now due + (ask world).1.delay ≤ p.deadline)
    (hanswer : (ask world).1.answer = .ok nodes) (hincomplete : complete expected nodes = false) :
    At ask p expected first (nextTick p.interval due (max now due))
      (max now due + (ask world).1.delay) (calls + 1) nodes (ask world).2 where
  reaches := by
    refine h.reaches.succ (h.ready_eq.trans_le hintime) ⟨nodes, ?_, hincomplete⟩
    rw [h.listing_eq, hanswer]
  turn := by
    rw [Discovery.turn, h.turn, h.listing_eq]
  seen := by
    rw [lastSeen, h.listing_eq, hanswer]
    rfl
  world := by
    rw [worldAt, ← h.world]

end At

/-- Every polling ends so. The induction follows the listings. -/
theorem poll_ending (ask : σ → Listing × σ) (p : Polling) (expected : Nat) (first : σ)
    (due now calls : Nat) (seen : List MemberNode) (world : σ)
    (hat : At ask p expected first due now calls seen world) :
    Ending p expected (listing ask first) (poll ask p expected due now calls seen world) := by
  have hlisting := hat.listing_eq
  have hready := hat.ready_eq
  fun_induction poll ask p expected due now calls seen world with
  | case1 due now calls seen world start _ l world' hask readyAt hintime e hanswer =>
    -- the listing fails
    rw [hask] at hlisting hready
    refine .settled calls ⟨hat.reaches, hready.trans_le hintime⟩ ?_ ?_ rfl hready.symm
    · rintro ⟨nodes, hnodes, -⟩
      rw [hlisting, hanswer] at hnodes
      cases hnodes
    · rw [hlisting, verdict, hanswer]
  | case2 due now calls seen world start _ l world' hask readyAt hintime nodes hanswer hcomplete =>
    -- all members are there
    rw [hask] at hlisting hready
    refine .settled calls ⟨hat.reaches, hready.trans_le hintime⟩ ?_ ?_ rfl hready.symm
    · rintro ⟨nodes', hnodes, hincomplete⟩
      rw [hlisting, hanswer] at hnodes
      cases hnodes
      exact absurd hcomplete (Bool.eq_false_iff.mp hincomplete)
    · rw [hlisting, verdict, hanswer]
  | case3 due now calls seen world start _ l world' hask readyAt hintime nodes hanswer hcomplete
      ih =>
    -- some are missing, and the polling goes on
    have hnext := hat.succ (by rw [hask]; exact hintime) (by rw [hask]; exact hanswer)
      (Bool.eq_false_iff.mpr hcomplete)
    rw [hask] at hnext
    exact ih hnext hnext.listing_eq hnext.ready_eq
  | case4 due now calls seen world start hbegins l world' hask readyAt hlate =>
    -- the answer comes after the deadline and is not looked at
    rw [hask] at hready
    refine .expired calls hat.reaches ((Nat.lt_of_not_le hlate).trans_eq hready.symm) ?_ ?_ rfl
    · rw [hat.seen]
    · rw [hat.start_eq]
      exact (if_pos hbegins).symm
  | case5 due now calls seen world start hover =>
    have hlate : p.deadline < ready p.interval (listing ask first) calls :=
      (Nat.lt_of_not_le hover).trans_le (hat.start_eq.symm.trans_le (start_le_ready calls))
    refine .expired calls hat.reaches hlate ?_ ?_ rfl
    · rw [hat.seen]
    · rw [hat.start_eq]
      exact (if_neg hover).symm

/-- Every discovery is settled or expires. -/
theorem run_ending (ask : σ → Listing × σ) (p : Polling) (expected : Nat) (first : σ) :
    Ending p expected (listing ask first) (run ask p expected first) :=
  poll_ending ask p expected first 0 0 0 [] first At.zero

/-! ## What a discovery answers -/

namespace Ending

variable {p : Polling} {expected : Nat} {listings : Nat → Listing} {d : DiscoveryRun σ}

theorem elapsed_le (h : Ending p expected listings d) : d.elapsed ≤ p.deadline := by
  cases h with
  | settled k hcompletes _ _ _ helapsed => exact helapsed.trans_le hcompletes.2
  | expired k _ _ _ _ helapsed => exact helapsed.le

/-- A discovery counts the listings that it begins. -/
theorem lt_calls_iff (h : Ending p expected listings d) (k : Nat) :
    k < d.calls ↔ Begins p expected listings k := by
  cases h with
  | settled n hcompletes hsettles _ hcalls _ =>
    rw [hcalls]
    constructor
    · intro hk
      rcases Nat.lt_succ_iff_lt_or_eq.mp hk with hbefore | rfl
      · exact (hcompletes.1.completes hbefore).begins
      · exact hcompletes.begins
    · intro hbegins
      refine Nat.lt_succ_of_le (Nat.le_of_not_lt fun hafter => ?_)
      exact hsettles (hbegins.1 n hafter).2
  | expired n hreaches hlate _ hcalls _ =>
    rw [hcalls]
    constructor
    · intro hk
      by_cases hbefore : k < n
      · exact (hreaches.completes hbefore).begins
      · split at hk
        case isTrue hstart =>
          obtain rfl : k = n := by omega
          exact ⟨hreaches, hstart⟩
        case isFalse => exact absurd hk hbefore
    · intro hbegins
      have hle : k ≤ n := by
        refine Nat.le_of_not_lt fun hafter => ?_
        exact absurd (hbegins.1 n hafter).1 (Nat.not_le_of_lt hlate)
      rcases Nat.lt_or_eq_of_le hle with hbefore | rfl
      · split <;> omega
      · rw [if_pos hbegins.2]
        exact Nat.lt_succ_self k

/-- Since the listings are an interval apart, at most so many begin before the deadline. -/
theorem calls_le (h : Ending p expected listings d) :
    d.calls ≤ p.deadline / p.interval + 1 := by
  cases hcalls : d.calls with
  | zero => exact Nat.zero_le _
  | succ k =>
    have hbegins := (h.lt_calls_iff k).mp (hcalls ▸ Nat.lt_succ_self k)
    have hmul : k * p.interval ≤ p.deadline :=
      (mul_le_due k).trans ((due_le_start k).trans hbegins.2)
    exact Nat.succ_le_succ ((Nat.le_div_iff_mul_le p.interval_pos).mpr hmul)

/-- The listing that is seen and is not pending decides. -/
theorem outcome_of_not_pending (h : Ending p expected listings d) {k : Nat}
    (hcompletes : Completes p expected listings k) (hsettles : ¬ Pending expected (listings k)) :
    d.outcome = verdict (listings k) := by
  cases h with
  | settled n hn hsettlesn houtcome _ _ =>
    rw [houtcome, hcompletes.eq_of_not_pending hn hsettles hsettlesn]
  | expired n hreaches hlate _ _ _ =>
    -- listing `n` is late, so that the one that is seen came before it, and those are pending
    have hbefore := (hreaches.completes_iff hlate k).mp hcompletes
    exact absurd (hreaches k hbefore).2 hsettles

/-- With no listing that decides, the discovery waits for its deadline. -/
theorem outcome_of_pending (h : Ending p expected listings d)
    (hpending : ∀ k, Completes p expected listings k → Pending expected (listings k)) :
    d.elapsed = p.deadline ∧ ∃ n, (∀ k, Completes p expected listings k ↔ k < n) ∧
      d.outcome = .ok ⟨lastSeen listings n, true⟩ := by
  cases h with
  | settled n hn hsettles _ _ _ => exact absurd (hpending n hn) hsettles
  | expired n hreaches hlate houtcome _ helapsed =>
    exact ⟨helapsed, n, hreaches.completes_iff hlate, houtcome⟩

theorem outcome_found_iff (h : Ending p expected listings d) (nodes : List MemberNode) :
    d.outcome = .ok ⟨nodes, false⟩ ↔ ∃ k, Completes p expected listings k ∧
      (listings k).answer = .ok nodes ∧ complete expected nodes = true := by
  constructor
  · intro hfound
    cases h with
    | settled k hcompletes hsettles houtcome _ _ =>
      rcases not_pending_iff.mp hsettles with ⟨e, herror⟩ | ⟨nodes', hshown, hcomplete⟩
      · rw [houtcome, verdict_of_error herror] at hfound
        cases hfound
      · rw [houtcome, verdict_of_ok hshown] at hfound
        cases hfound
        exact ⟨k, hcompletes, hshown, hcomplete⟩
    | expired k _ _ houtcome _ _ =>
      rw [houtcome] at hfound
      cases hfound
  · rintro ⟨k, hcompletes, hshown, hcomplete⟩
    have hsettles : ¬ Pending expected (listings k) :=
      not_pending_iff.mpr (Or.inr ⟨nodes, hshown, hcomplete⟩)
    rw [h.outcome_of_not_pending hcompletes hsettles, verdict_of_ok hshown]

theorem outcome_error_iff (h : Ending p expected listings d) (e : Failure) :
    d.outcome = .error e ↔ ∃ k cause, Completes p expected listings k ∧
      (listings k).answer = .error cause ∧ e = .nodeDirectory cause.message := by
  constructor
  · intro hfailed
    cases h with
    | settled k hcompletes hsettles houtcome _ _ =>
      rcases not_pending_iff.mp hsettles with ⟨cause, herror⟩ | ⟨nodes, hshown, -⟩
      · rw [houtcome, verdict_of_error herror] at hfailed
        cases hfailed
        exact ⟨k, cause, hcompletes, herror, rfl⟩
      · rw [houtcome, verdict_of_ok hshown] at hfailed
        cases hfailed
    | expired k _ _ houtcome _ _ =>
      rw [houtcome] at hfailed
      cases hfailed
  · rintro ⟨k, cause, hcompletes, herror, rfl⟩
    have hsettles : ¬ Pending expected (listings k) :=
      not_pending_iff.mpr (Or.inl ⟨cause, herror⟩)
    rw [h.outcome_of_not_pending hcompletes hsettles, verdict_of_error herror]

/-- Where no members are expected, no listing shows them, and only a failure comes before the
deadline. -/
theorem elapsed_of_none_expected (h : Ending p 0 listings d) :
    d.elapsed = p.deadline ∨ ∃ e, d.outcome = .error e := by
  cases h with
  | settled k _ hsettles houtcome _ _ =>
    rcases not_pending_iff.mp hsettles with ⟨e, herror⟩ | ⟨nodes, -, hcomplete⟩
    · exact Or.inr ⟨_, houtcome.trans (verdict_of_error herror)⟩
    · obtain ⟨hsome, hnone⟩ := complete_iff.mp hcomplete
      exact absurd (List.eq_nil_of_length_eq_zero hnone) hsome
  | expired k _ _ _ _ helapsed => exact Or.inl helapsed

end Ending

/-- A discovery is told by its listings. It never outlasts its deadline, nor lists more often than
the interval fits into it, and once more. It finds the members that the first complete listing
shows, if that is seen; it fails if a listing is seen to fail before; and otherwise it ends at the
deadline with the nodes of the last listing that is seen, or none. Where no members are expected
it waits for the deadline unless a listing fails. -/
theorem told_by_listings (ask : σ → Listing × σ) (p : Polling) (expected : Nat) (first : σ) :
    let listings := listing ask first
    let d := run ask p expected first
    d.elapsed ≤ p.deadline ∧
    d.calls ≤ p.deadline / p.interval + 1 ∧
    (∀ nodes, d.outcome = .ok ⟨nodes, false⟩ ↔ ∃ k, Completes p expected listings k ∧
      (listings k).answer = .ok nodes ∧ nodes ≠ [] ∧ nodes.length = expected) ∧
    (∀ e, d.outcome = .error e ↔ ∃ k cause, Completes p expected listings k ∧
      (listings k).answer = .error cause ∧ e = .nodeDirectory cause.message) ∧
    ((∀ k, Completes p expected listings k → Pending expected (listings k)) →
      d.elapsed = p.deadline ∧ ∃ n, (∀ k, Completes p expected listings k ↔ k < n) ∧
        d.outcome = .ok ⟨lastSeen listings n, true⟩) ∧
    (expected = 0 → d.elapsed = p.deadline ∨ ∃ e, d.outcome = .error e) := by
  intro listings d
  have hending : Ending p expected listings d := run_ending ask p expected first
  refine ⟨hending.elapsed_le, hending.calls_le, ?_, hending.outcome_error_iff,
    hending.outcome_of_pending, ?_⟩
  · intro nodes
    rw [hending.outcome_found_iff]
    simp only [complete_iff]
  · rintro rfl
    exact hending.elapsed_of_none_expected

end NetworkRollout.Discovery
