import NetworkRollout.Proofs.Bootstrap.Deadlines
import NetworkRollout.Proofs.Reconcile.Atomicity

/-!
# What the metrics tell of discoveries

The deadline of a network shrinks as soon as a discovery runs into it. The metrics of discoveries
are recorded once the preparation of the pass has succeeded, so they miss the discoveries of passes
that fail between the two: the counter lags behind by exactly those, and the gauge stands at the
deadline after the last pass that was prepared.

* `Sighting`, `sightings`: the discoveries of a run of passes.
* `Tally`: what is counted of them for one network.
* `NetworkPass.telemetry_step`, `discoveryTelemetry`: what a pass and a run make of the metrics.
* `not_discoveryTelemetry_agrees`: the metrics may be behind.
-/

namespace NetworkRollout

open PassM Server

/-! ## Series -/

namespace Series

variable {κ α : Type} [DecidableEq κ]

theorem get?_change_self (key : κ) (first : α) (f : α → α) (s : Series κ α) :
    (change key first f s).get? key = some (f ((s.get? key).getD first)) := by
  induction s with
  | nil => simp [change, get?]
  | cons entry s ih =>
    obtain ⟨k, v⟩ := entry
    unfold change
    split
    case isTrue h => simp [get?, h]
    case isFalse h =>
      have hk : (key == k) = false := by simpa using Ne.symm h
      unfold get? at ih ⊢
      rw [List.lookup_cons, List.lookup_cons, hk]
      exact ih

theorem get?_change_of_ne {key other : κ} (h : other ≠ key) (first : α) (f : α → α)
    (s : Series κ α) : (change key first f s).get? other = s.get? other := by
  have hother : (other == key) = false := by simpa using h
  induction s with
  | nil => simp [change, get?, List.lookup_cons, hother]
  | cons entry s ih =>
    obtain ⟨k, v⟩ := entry
    unfold get? at ih ⊢
    unfold change
    split
    case isTrue hk => rw [hk, List.lookup_cons, List.lookup_cons, hother]
    case isFalse hk => rw [List.lookup_cons, List.lookup_cons, ih]

theorem get?_set_self (s : Series κ α) (key : κ) (value : α) :
    (s.set key value).get? key = some value := get?_change_self key value _ s

theorem get?_set_of_ne {key other : κ} (h : other ≠ key) (s : Series κ α) (value : α) :
    (s.set key value).get? other = s.get? other := get?_change_of_ne h value _ s

theorem get?_count_self (s : Series κ Nat) (key : κ) :
    (s.count key).get? key = some ((s.get? key).getD 0 + 1) := get?_change_self key 0 _ s

theorem get?_count_of_ne {key other : κ} (h : other ≠ key) (s : Series κ Nat) :
    (s.count key).get? other = s.get? other := get?_change_of_ne h 0 _ s

end Series

/-! ## The metrics of a pass -/

/-- Two metrics that tell the same of discoveries. -/
structure Metrics.SameDiscoveries (m m' : Metrics) : Prop where
  timeouts : m'.timeouts = m.timeouts
  deadlines : m'.deadlines = m.deadlines

namespace Reconcile

variable {input : PassInput} {network : NetworkObject} {w : World}

theorem succeed_metrics (input : PassInput) (network : NetworkObject) (before : RolloutStatus)
    (decision : Decision) (applied : Nat) (o : Outcome) :
    o.world.metrics.SameDiscoveries
      (succeed input network before decision applied o).world.metrics := by
  unfold succeed
  dsimp only
  rcases o.world.server.reportStatus input.faults network.name _ with ⟨e | _, server⟩ <;>
    exact ⟨rfl, rfl⟩

/-- Telling how a pass went tells nothing of its discovery. -/
theorem reconcile_metrics
    (h : remainingWait? (network.status.getD {}) network.generation input.settings.interval
      input.start = none) :
    (attempt input network (network.status.getD {}) w).world.metrics.SameDiscoveries
      (reconcile input network w).world.metrics := by
  rw [reconcile_eq h]
  dsimp only
  rcases (attempt input network (network.status.getD {}) w).result with e | ⟨decision, applied⟩
  · exact ⟨rfl, rfl⟩
  · exact succeed_metrics input network _ decision applied _

/-- A pass that is not prepared records no facts; one that is records them, with the deadline as it
is by then. -/
theorem attempt_metrics (status : RolloutStatus) :
    (attempt input network status w).world.metrics =
      match (preparation input network w).1 with
      | .error _ => w.metrics
      | .ok prepared => w.metrics.recordBootstrap network.name prepared.snapshot
          ((preparation input network w).2.deadlines.of network.name).current := by
  rw [attempt_eq]
  rcases preparation input network w with ⟨e | prepared, run⟩ <;> rfl

theorem attempt_deadlines (status : RolloutStatus) :
    (attempt input network status w).world.deadlines =
      (preparation input network w).2.deadlines := by
  rw [attempt_eq]
  rcases preparation input network w with ⟨e | prepared, run⟩ <;> rfl

end Reconcile

/-! ## Runs -/

/-- A pass in a run: what it is given, the network as it was read, and what happens to the server
before it. -/
structure NetworkPass where
  input : PassInput
  network : NetworkObject
  meanwhile : Server → Server := id

/-- A discovery that a pass held, and whether the pass was prepared after it. -/
structure Sighting where
  network : String
  discovery : HeldDiscovery
  prepared : Bool

namespace NetworkPass

/-- The world that the pass starts in. -/
def before (pass : NetworkPass) (w : World) : World := { w with server := pass.meanwhile w.server }

def after (pass : NetworkPass) (w : World) : World :=
  (reconcile pass.input pass.network (pass.before w)).world

/-- Whether the pass only waits. -/
def skipped (pass : NetworkPass) : Bool :=
  (Reconcile.remainingWait? (pass.network.status.getD {}) pass.network.generation
    pass.input.settings.interval pass.input.start).isSome

/-- How the preparation of the pass ends. -/
def preparation (pass : NetworkPass) (w : World) : Except Failure Prepared × Run Server :=
  Reconcile.preparation pass.input pass.network (pass.before w)

/-- The discovery that the preparation of the pass holds, if it gets there. -/
def discovery? (pass : NetworkPass) (w : World) : Option HeldDiscovery :=
  NetworkRollout.discovery? (Server.surroundings pass.input.faults pass.network.name)
    pass.network.name pass.network.spec pass.input.settings.hostMtu
    { world := (pass.before w).server, deadlines := w.deadlines }

/-- The discovery of the pass, unless the pass is skipped or ends before it. -/
def sighting? (pass : NetworkPass) (w : World) : Option Sighting :=
  if pass.skipped then none
  else (pass.discovery? w).map fun discovery =>
    { network := pass.network.name, discovery, prepared := (pass.preparation w).1.toBool }

end NetworkPass

def worldAfter : List NetworkPass → World → World
  | [], w => w
  | pass :: rest, w => worldAfter rest (pass.after w)

/-- The discoveries of a run of passes, in order. -/
def sightings : List NetworkPass → World → List Sighting
  | [], _ => []
  | pass :: rest, w => (pass.sighting? w).toList ++ sightings rest (pass.after w)

/-- What is counted of the discoveries of a network: those that ran into their deadline, those of
them whose pass was not prepared, and the first count as it was when a pass was last prepared. -/
structure Tally where
  hits : Nat := 0
  missed : Nat := 0
  shown : Option Nat := none
  deriving DecidableEq, Repr

namespace Tally

/-- Counts one more discovery of the network. -/
def count (t : Tally) (timedOut prepared : Bool) : Tally :=
  let hits := t.hits + timedOut.toNat
  { hits
    missed := t.missed + (timedOut && !prepared).toNat
    shown := if prepared then some hits else t.shown }

def add (network : String) (t : Tally) (s : Sighting) : Tally :=
  if s.network = network then t.count s.discovery.timedOut s.prepared else t

/-- The tally of a network over discoveries in their order. -/
def of (network : String) (seen : List Sighting) : Tally := seen.foldl (add network) {}

/-- The discoveries that ran into their deadline are counted one by one. -/
theorem hits_of (network : String) (seen : List Sighting) :
    (of network seen).hits =
      seen.countP fun s => s.network = network && s.discovery.timedOut := by
  suffices h : ∀ t : Tally, (seen.foldl (add network) t).hits =
      t.hits + seen.countP fun s => s.network = network && s.discovery.timedOut by
    rw [of, h, Nat.zero_add]
  induction seen with
  | nil =>
    intro t
    rfl
  | cons s rest ih =>
    intro t
    rw [List.foldl_cons, ih, List.countP_cons, add]
    by_cases hs : s.network = network
    · rw [if_pos hs]
      simp only [count, hs, decide_true, Bool.true_and]
      cases s.discovery.timedOut with
      | false => simp
      | true => simp only [Bool.toNat_true, if_true]; omega
    · simp [hs]

end Tally

/-- The deadlines and the metrics of a network agree with what is counted of its discoveries. -/
structure Telemetry (network : String) (w : World) (t : Tally) : Prop where
  deadline : w.deadlines.of network = .afterTimeouts t.hits
  /-- The counter lags behind by the discoveries whose pass was not prepared. -/
  counter : (w.metrics.timeouts.get? network).getD 0 + t.missed = t.hits
  /-- The gauge stands where the last pass that was prepared has put it. -/
  gauge : w.metrics.deadlines.get? network =
    t.shown.map fun hits => (Deadline.afterTimeouts hits).current
  shown_le : ∀ hits, t.shown = some hits → hits ≤ t.hits

namespace Telemetry

variable {network : String} {w w' : World} {t : Tally}

/-- Before the first pass there is nothing to tell. -/
theorem start (network : String) (s : Server) : Telemetry network { server := s } {} where
  deadline := rfl
  counter := rfl
  gauge := rfl
  shown_le := by rintro hits ⟨⟩

theorem congr (h : Telemetry network w t) (hdeadline : w'.deadlines.of network =
      w.deadlines.of network) (hmetrics : w.metrics.SameDiscoveries w'.metrics) :
    Telemetry network w' t where
  deadline := hdeadline.trans h.deadline
  counter := by
    rw [hmetrics.timeouts]
    exact h.counter
  gauge := by
    rw [hmetrics.deadlines]
    exact h.gauge
  shown_le := h.shown_le

/-- The deadline after one more discovery. -/
theorem afterDiscovery (h : Telemetry network w t) (d : HeldDiscovery) :
    (w.deadlines.afterDiscovery network d).of network =
      .afterTimeouts (t.hits + d.timedOut.toNat) := by
  rw [Deadlines.of_afterDiscovery, h.deadline]
  cases d.timedOut with
  | false => rw [if_neg fun hhit => Bool.false_ne_true hhit.2, Bool.toNat_false, Nat.add_zero]
  | true =>
    rw [if_pos ⟨rfl, rfl⟩]
    rfl

/-- A discovery of the network whose pass is not prepared is missed. -/
theorem count_unprepared (h : Telemetry network w t) {d : HeldDiscovery}
    (hdeadlines : w'.deadlines = w.deadlines.afterDiscovery network d)
    (hmetrics : w.metrics.SameDiscoveries w'.metrics) :
    Telemetry network w' (t.count d.timedOut false) where
  deadline := by
    rw [hdeadlines]
    exact h.afterDiscovery d
  counter := by
    have hcounter := h.counter
    rw [hmetrics.timeouts]
    simp only [Tally.count, Bool.not_false, Bool.and_true]
    omega
  gauge := by
    rw [hmetrics.deadlines]
    exact h.gauge
  shown_le := by
    intro hits hshown
    exact (h.shown_le hits hshown).trans (Nat.le_add_right _ _)

/-- One whose pass is prepared is recorded with the deadline that it has left. -/
theorem count_prepared (h : Telemetry network w t) {d : HeldDiscovery} {snapshot : Snapshot}
    (hdeadlines : w'.deadlines = w.deadlines.afterDiscovery network d)
    (htells : snapshot.timedOut = d.timedOut)
    (hmetrics : (w.metrics.recordBootstrap network snapshot
      (w'.deadlines.of network).current).SameDiscoveries w'.metrics) :
    Telemetry network w' (t.count d.timedOut true) where
  deadline := by
    rw [hdeadlines]
    exact h.afterDiscovery d
  counter := by
    have hcounter := h.counter
    rw [hmetrics.timeouts]
    unfold Metrics.recordBootstrap
    dsimp only
    rw [htells]
    cases d.timedOut with
    | false => exact hcounter
    | true =>
      rw [if_pos rfl, Series.get?_count_self]
      simp only [Tally.count, Option.getD_some, Bool.not_true, Bool.and_false, Bool.toNat_true,
        Bool.toNat_false]
      omega
  gauge := by
    rw [hmetrics.deadlines]
    unfold Metrics.recordBootstrap
    dsimp only
    rw [Series.get?_set_self, hdeadlines, h.afterDiscovery d]
    rfl
  shown_le := by
    rintro hits ⟨⟩
    exact Nat.le_refl _

/-- A discovery of another network is none of this one. -/
theorem recordBootstrap_of_ne {other : String} (hne : network ≠ other)
    (snapshot : Snapshot) (deadline : Nat) (m : Metrics) :
    (m.recordBootstrap other snapshot deadline).timeouts.get? network = m.timeouts.get? network ∧
      (m.recordBootstrap other snapshot deadline).deadlines.get? network =
        m.deadlines.get? network := by
  unfold Metrics.recordBootstrap
  dsimp only
  refine ⟨?_, Series.get?_set_of_ne hne _ _⟩
  cases snapshot.timedOut with
  | false => rfl
  | true => exact Series.get?_count_of_ne hne _

theorem of_other {other : String} (h : Telemetry network w t) (hne : network ≠ other)
    {d : HeldDiscovery} (hdeadlines : w'.deadlines = w.deadlines.afterDiscovery other d)
    (hmetrics : w'.metrics.timeouts.get? network = w.metrics.timeouts.get? network ∧
      w'.metrics.deadlines.get? network = w.metrics.deadlines.get? network) :
    Telemetry network w' t where
  deadline := by
    rw [hdeadlines, Deadlines.of_afterDiscovery, if_neg fun hhit => hne hhit.1.symm]
    exact h.deadline
  counter := by
    rw [hmetrics.1]
    exact h.counter
  gauge := by
    rw [hmetrics.2]
    exact h.gauge
  shown_le := h.shown_le

end Telemetry

/-! ## Passes and runs -/

namespace NetworkPass

variable {network : String} {w : World} {t : Tally}

theorem after_of_skipped {pass : NetworkPass} (h : pass.skipped = true) (w : World) :
    pass.after w = pass.before w := by
  obtain ⟨wait, hwait⟩ := Option.isSome_iff_exists.mp h
  unfold after reconcile
  dsimp only
  rw [hwait]

/-- The metrics of a pass that is not skipped, as far as they tell of discoveries: those before it,
or with the facts of its bootstrap if it was prepared. -/
theorem metrics_after {pass : NetworkPass} (h : pass.skipped = false) (w : World) :
    (pass.after w).deadlines = (pass.preparation w).2.deadlines ∧
      Metrics.SameDiscoveries
        (match (pass.preparation w).1 with
          | .error _ => w.metrics
          | .ok prepared => w.metrics.recordBootstrap pass.network.name prepared.snapshot
              ((pass.after w).deadlines.of pass.network.name).current)
        (pass.after w).metrics := by
  have hwaits := Option.isNone_iff_eq_none.mp (Option.isSome_eq_false_iff.mp h)
  have hdeadlines : (pass.after w).deadlines = (pass.preparation w).2.deadlines :=
    (Reconcile.reconcile_reports hwaits).2.trans (Reconcile.attempt_deadlines _)
  have hmetrics : Metrics.SameDiscoveries _ (pass.after w).metrics :=
    Reconcile.reconcile_metrics hwaits
  rw [Reconcile.attempt_metrics] at hmetrics
  rw [hdeadlines]
  exact ⟨rfl, hmetrics⟩

/-- How the preparation of a pass ends, by its discovery. -/
theorem preparation_discovery (pass : NetworkPass) (w : World) :
    match pass.discovery? w with
    | none => (pass.preparation w).2.deadlines = w.deadlines ∧
        ∃ e, (pass.preparation w).1 = .error e
    | some d => d.deadline = (w.deadlines.of pass.network.name).current ∧
        (pass.preparation w).2.deadlines = w.deadlines.afterDiscovery pass.network.name d ∧
          ∀ p, (pass.preparation w).1 = .ok p → p.snapshot.timedOut = d.timedOut :=
  ends_prepare_discovery _ _ _ _ _ _

/-- What one pass makes of the telemetry of a network. -/
theorem telemetry_step (pass : NetworkPass) (h : Telemetry network w t) :
    Telemetry network (pass.after w) ((pass.sighting? w).toList.foldl (Tally.add network) t) := by
  unfold sighting?
  cases hskipped : pass.skipped with
  | true =>
    rw [after_of_skipped hskipped]
    exact h.congr rfl ⟨rfl, rfl⟩
  | false =>
    obtain ⟨hafter, hmetrics⟩ := metrics_after hskipped w
    have hdiscovery := pass.preparation_discovery w
    rw [if_neg Bool.false_ne_true]
    cases hheld : pass.discovery? w with
    | none =>
      -- the pass fails before its discovery, and there is nothing to count
      rw [hheld] at hdiscovery
      obtain ⟨hkept, e, herror⟩ := hdiscovery
      rw [herror] at hmetrics
      exact h.congr (congrArg (·.of network) (hafter.trans hkept)) hmetrics
    | some d =>
      rw [hheld] at hdiscovery
      obtain ⟨-, hshrunk, htells⟩ := hdiscovery
      have hdeadlines := hafter.trans hshrunk
      change Telemetry network (pass.after w) (t.add network _)
      unfold Tally.add
      dsimp only
      by_cases hname : pass.network.name = network
      · rw [if_pos hname]
        rw [hname] at hmetrics hdeadlines
        cases hprepared : (pass.preparation w).1 with
        | error e =>
          rw [hprepared] at hmetrics
          exact h.count_unprepared hdeadlines hmetrics
        | ok p =>
          rw [hprepared] at hmetrics
          exact h.count_prepared hdeadlines (htells p hprepared) hmetrics
      · rw [if_neg hname]
        refine h.of_other (Ne.symm hname) hdeadlines ?_
        rw [hmetrics.timeouts, hmetrics.deadlines]
        cases (pass.preparation w).1 with
        | error e => exact ⟨rfl, rfl⟩
        | ok p => exact Telemetry.recordBootstrap_of_ne (Ne.symm hname) p.snapshot _ w.metrics

/-- The discovery of a pass has the deadline that its network is left with. -/
theorem deadline_of_sighting {pass : NetworkPass} {seen : Sighting}
    (h : pass.sighting? w = some seen) :
    seen.discovery.deadline = (w.deadlines.of seen.network).current := by
  unfold sighting? at h
  split at h
  case isTrue => cases h
  case isFalse =>
    obtain ⟨d, hheld, hseen⟩ := Option.map_eq_some_iff.mp h
    have hdiscovery := pass.preparation_discovery w
    rw [hheld] at hdiscovery
    rw [← hseen]
    exact hdiscovery.1

end NetworkPass

/-- The induction is on the passes, from any world that agrees with what was counted so far. -/
theorem Telemetry.run {network : String} {w : World} {t : Tally} (h : Telemetry network w t)
    (passes : List NetworkPass) : Telemetry network (worldAfter passes w)
      ((sightings passes w).foldl (Tally.add network) t) := by
  induction passes generalizing w t with
  | nil => exact h
  | cons pass rest ih =>
    rw [worldAfter, sightings, List.foldl_append]
    exact ih (pass.telemetry_step h)

/-! ## When the metrics agree -/

/-- Two numbers of timeouts leave the same deadline if they are the same, or both are two or
more. -/
theorem Deadline.current_afterTimeouts_eq_iff {m n : Nat} (h : m ≤ n) :
    (afterTimeouts m).current = (afterTimeouts n).current ↔ m = n ∨ 2 ≤ m := by
  rw [current_afterTimeouts, current_afterTimeouts]
  omega

/-- What the metrics of a network tell of its discoveries after any run of passes over any
networks. The counter is short of the discoveries that hit their deadline by those whose pass was
not prepared. The gauge is the deadline of the next discovery exactly if a pass was prepared, and
since the last one that was no discovery has hit its deadline, or the deadline was at its smallest
by then. -/
theorem discoveryTelemetry (network : String) (passes : List NetworkPass) (s : Server) :
    let w := worldAfter passes { server := s }
    let seen := sightings passes { server := s }
    let t := Tally.of network seen
    (w.metrics.timeouts.get? network).getD 0 + t.missed =
        seen.countP (fun d => d.network = network && d.discovery.timedOut) ∧
      (w.metrics.deadlines.get? network = some (w.deadlines.of network).current ↔
        ∃ hits, t.shown = some hits ∧ (hits = t.hits ∨ 2 ≤ hits)) ∧
      ∀ pass d, NetworkPass.sighting? pass w = some d → d.network = network →
        d.discovery.deadline = (w.deadlines.of network).current := by
  intro w seen t
  have h : Telemetry network w t := (Telemetry.start network s).run passes
  refine ⟨?_, ?_, ?_⟩
  · rw [h.counter, Tally.hits_of]
  · rw [h.gauge, h.deadline, Option.map_eq_some_iff]
    constructor
    · rintro ⟨hits, hshown, hcurrent⟩
      exact ⟨hits, hshown, (Deadline.current_afterTimeouts_eq_iff (h.shown_le hits hshown)).mp
        hcurrent⟩
    · rintro ⟨hits, hshown, hhits⟩
      exact ⟨hits, hshown, (Deadline.current_afterTimeouts_eq_iff (h.shown_le hits hshown)).mpr
        hhits⟩
  · intro pass d hd hnetwork
    rw [← hnetwork]
    exact NetworkPass.deadline_of_sighting hd

/-- A pass over a network whose control plane has no nodes. -/
def NetworkPass.withoutMembers : NetworkPass where
  input :=
    { settings := {}
      manifests := Reconcile.selfNaming
      faults := fun _ _ => none
      start := .epoch }
  network := (NetworkObject.ofJson? Reconcile.freshNetwork).getD {}

/-- A server with a fresh network and no nodes. -/
def Server.withoutMembers : Server where
  objects := Reconcile.freshServer.objects.filter (·.kind ≠ .node)

/-- The metrics may be behind: a discovery runs into its deadline, the pass fails for want of
members, and neither the counter nor the gauge shows it. -/
theorem not_discoveryTelemetry_agrees :
    let pass := NetworkPass.withoutMembers
    let w := worldAfter [pass] { server := .withoutMembers }
    (sightings [pass] { server := .withoutMembers }).countP
        (fun d => d.network = "c" && d.discovery.timedOut) = 1 ∧
      w.metrics.timeouts.get? "c" = none ∧ w.metrics.deadlines.get? "c" = none ∧
      (w.deadlines.of "c").current = 130 := by
  decide +kernel

end NetworkRollout
