import Mathlib.Logic.Relation
import NetworkRollout.Proofs.Reconcile.Waits
import NetworkRollout.Proofs.Server.Faults

/-!
# Passes that only wait

A network is watched: passes go over it, one after another, and in between and meanwhile it is
edited. Whatever happens, the stored status tells of the outcome that was persisted last. So no pass
is skipped but after a success for the generation at hand, within the interval since then; and a
pass that persists no success is followed by one that is not skipped.

* `Watch`, `Watch.Moves`: a run of passes and edits.
* `Watch.Tells.reaches`: what the status tells along a run.
* `Watch.noLostPass`: when a pass is skipped, and when it is not.
-/

namespace NetworkRollout

open Reconcile Server

/-- A run of passes over a network, so far. -/
structure Watch where
  world : World
  /-- The time that has come. -/
  clock : Moment
  /-- The outcome that was persisted last. -/
  latest : Option Persisted

namespace Watch

variable {name : String} {interval : Nat} {st st' : Watch} {input : PassInput}
  {network : NetworkObject} {w : World}

/-! ## Runs -/

/-- Time goes on, and the network is edited at most. -/
structure Edited (name : String) (st st' : Watch) : Prop where
  edits : Edits name st.world.server st'.world.server
  clock : st.clock.total ≤ st'.clock.total
  latest : st'.latest = st.latest

/-- A pass of a run. It reads the network as it is stored, not before the time that has come; and
the world that it goes on in may have been edited since. -/
structure Pass (name : String) (interval : Nat) (st : Watch) (input : PassInput)
    (network : NetworkObject) (w : World) : Prop where
  stored : st.world.server.network? name = some network
  named : network.name = name
  interval : input.settings.interval = interval
  start : st.clock.total ≤ input.start.total
  edits : Edits name st.world.server w.server

/-- The run with a pass more. -/
def after (st : Watch) (input : PassInput) (network : NetworkObject) (w : World) : Watch :=
  let result := reconcile input network w
  { world := result.world
    clock := input.start.later result.elapsed
    latest := (persisted? input network w).or st.latest }

/-- What happens in a run. A pass may fail anywhere, and the report of its status, too. -/
inductive Moves (name : String) (interval : Nat) : Watch → Watch → Prop
  | edited {st st' : Watch} (h : Edited name st st') : Moves name interval st st'
  | passed {st : Watch} {input : PassInput} {network : NetworkObject} {w : World}
      (h : Pass name interval st input network w) :
      Moves name interval st (st.after input network w)

theorem start_le_after (st : Watch) (input : PassInput) (network : NetworkObject) (w : World) :
    input.start.total ≤ (st.after input network w).clock.total :=
  input.start.total_le_later _

/-- A success is persisted for the moment at which its pass ends. -/
theorem moment_eq_clock {generation : Int} {moment : Moment}
    (h : persisted? input network w = some (.success generation moment)) (st : Watch) :
    moment = (st.after input network w).clock := by
  cases hwait : wait? input network with
  | some wait =>
    rw [persisted?_of_skipped hwait] at h
    cases h
  | none =>
    unfold after
    dsimp only
    rw [elapsed_reconcile hwait]
    exact moment_of_persisted? h

/-! ## What the status tells -/

/-- The server merges what is applied. The stored status tells of the outcome that was persisted
last, and no success is in the future. -/
structure Tells (name : String) (st : Watch) : Prop where
  merges : st.world.server.serving.storing = .merges
  stored : ∃ body status, st.world.server.find? .network "" name = some body ∧
    statusOf? body = some status ∧ status.outcome? = st.latest
  past : ∀ generation moment, st.latest = some (.success generation moment) →
    moment.total ≤ st.clock.total

theorem Tells.edited (h : Tells name st) (hedited : Edited name st st') : Tells name st' := by
  obtain ⟨body, status, hbody, hread, htold⟩ := h.stored
  obtain ⟨body', hbody', hstands⟩ := hedited.edits.network body hbody
  refine ⟨hedited.edits.storing.trans h.merges, ?_, fun generation moment hlatest => ?_⟩
  · exact ⟨body', status, hbody', hstands.status status hread, htold.trans hedited.latest.symm⟩
  · rw [hedited.latest] at hlatest
    exact (h.past generation moment hlatest).trans hedited.clock

namespace Pass

/-- What a pass reads is what the stored network tells. -/
theorem exists_stored (hpass : Pass name interval st input network w) :
    ∃ body, st.world.server.find? .network "" name = some body ∧
      statusOf? body = some (network.status.getD {}) ∧ generationOf body = network.generation ∧
      network.InRange := by
  obtain ⟨body, hfind, hread⟩ := network?_eq_some hpass.stored
  obtain ⟨hstatus, hgeneration⟩ := tells_of_ofJson? hread
  exact ⟨_, hfind, hstatus, hgeneration, NetworkObject.inRange_of_ofJson? hread⟩

/-- What a pass reads tells of the outcome that was persisted last. -/
theorem outcome? (hpass : Pass name interval st input network w) (h : Tells name st) :
    (network.status.getD {}).outcome? = st.latest := by
  obtain ⟨body, status, hbody, hread, htold⟩ := h.stored
  obtain ⟨body', hbody', hread', -⟩ := hpass.exists_stored
  cases hbody.symm.trans hbody'
  cases hread.symm.trans hread'
  exact htold

theorem merges (hpass : Pass name interval st input network w) (h : Tells name st) :
    w.server.serving.storing = .merges := hpass.edits.storing.trans h.merges

/-- After a pass the status tells of what it persisted, or else of what it told before, and the
generation is not lower than the one that the pass was for. -/
theorem find?_after (hpass : Pass name interval st input network w) (h : Tells name st) :
    ∃ body status, (st.after input network w).world.server.find? .network "" name = some body ∧
      network.generation ≤ generationOf body ∧ statusOf? body = some status ∧
      status.outcome? = (persisted? input network w).or (network.status.getD {}).outcome? := by
  obtain ⟨read, hread, hstatus, hgeneration, hrange⟩ := hpass.exists_stored
  obtain ⟨body, hbody, hstands⟩ := hpass.edits.network read hread
  have hkept := hstands.status _ hstatus
  have hcovers : network.generation ≤ generationOf body := hgeneration ▸ hstands.generation
  have hname := hpass.named
  cases hwait : wait? input network with
  | some wait =>
    have hworld : (st.after input network w).world = w := by
      unfold after
      rw [reconcile_of_skipped hwait]
    refine ⟨body, _, ?_, hcovers, hkept, ?_⟩
    · rw [hworld]
      exact hbody
    · rw [persisted?_of_skipped hwait]
      rfl
  | none =>
    rw [← hname] at hbody ⊢
    obtain ⟨body', status, hbody', hgeneration', hread', htold⟩ :=
      find?_reconcile hbody hkept hrange (hpass.merges h) hwait
    exact ⟨body', status, hbody', hcovers.trans hgeneration', hread', htold⟩

end Pass

theorem Tells.passed (h : Tells name st) (hpass : Pass name interval st input network w) :
    Tells name (st.after input network w) := by
  obtain ⟨body, status, hbody, -, hread, htold⟩ := hpass.find?_after h
  rw [hpass.outcome? h] at htold
  refine ⟨?_, ⟨body, status, hbody, hread, htold⟩, fun generation moment hlatest => ?_⟩
  · exact (congrArg Serving.storing (serving_reconcile input network w)).trans (hpass.merges h)
  · change (persisted? input network w).or st.latest = _ at hlatest
    rcases Option.or_eq_some_iff.mp hlatest with hpersisted | ⟨-, hbefore⟩
    · rw [moment_eq_clock hpersisted st]
    · exact ((h.past generation moment hbefore).trans hpass.start).trans
        (start_le_after st input network w)

theorem Tells.moves (h : Tells name st) (hmoves : Moves name interval st st') :
    Tells name st' := by
  cases hmoves with
  | edited hedited => exact h.edited hedited
  | passed hpass => exact h.passed hpass

theorem Tells.reaches (h : Tells name st)
    (hruns : Relation.ReflTransGen (Moves name interval) st st') : Tells name st' := by
  induction hruns with
  | refl => exact h
  | tail _ hmoves ih => exact ih.moves hmoves

/-! ## When a pass is skipped -/

/-- A skipped pass waits for the rest of the interval since the success that was persisted last, and
that was for a generation that is not lower than the stored one. -/
theorem Pass.of_skipped (hpass : Pass name interval st input network w) (h : Tells name st)
    {wait : Requeue} (hwait : wait? input network = some wait) :
    ∃ generation moment, st.latest = some (.success generation moment) ∧
      network.generation ≤ generation ∧ moment.total ≤ input.start.total ∧
      input.start.total < moment.total + seconds interval ∧
      0 < wait ∧ wait ≤ seconds interval ∧
      input.start.total + wait = moment.total + seconds interval := by
  obtain ⟨generation, moment, htold, hcovers, hwithin, rfl⟩ := remainingWait?_eq_some_iff.mp hwait
  rw [hpass.outcome? h] at htold
  rw [hpass.interval] at hwithin ⊢
  have hpast : moment.total ≤ input.start.total :=
    (h.past generation moment htold).trans hpass.start
  refine ⟨generation, moment, htold, hcovers, hpast, ?_, Nat.sub_pos_of_lt hwithin,
    Nat.sub_le _ _, ?_⟩
  · omega
  · omega

/-- A pass that is not skipped and persists no success is followed by one that is not skipped
either. -/
theorem Pass.goes_again (hpass : Pass name interval st input network w) (h : Tells name st)
    (hgoes : wait? input network = none)
    (hnone : ∀ generation moment,
      persisted? input network w ≠ some (.success generation moment))
    (hedited : Edited name (st.after input network w) st') {input' : PassInput}
    {network' : NetworkObject} {w' : World} (hnext : Pass name interval st' input' network' w') :
    wait? input' network' = none := by
  obtain ⟨body, status, hbody, hgeneration, hread, htold⟩ := hpass.find?_after h
  obtain ⟨body', hbody', hstands⟩ := hedited.edits.network body hbody
  obtain ⟨next, hfound, hreadNext, hgenerationNext, -⟩ := hnext.exists_stored
  cases hbody'.symm.trans hfound
  cases (hstands.status status hread).symm.trans hreadNext
  have hcovers : network.generation ≤ network'.generation :=
    (hgeneration.trans hstands.generation).trans_eq hgenerationNext
  cases hpersisted : persisted? input network w with
  | some outcome =>
    rw [hpersisted] at htold
    cases outcome with
    | success generation moment => exact absurd hpersisted (hnone generation moment)
    | failure => exact remainingWait?_of_failure htold _ _ _
  | none =>
    -- the status tells what it told the pass before, which was not skipped on it
    rw [hpersisted] at htold
    have hnow : input.start.total ≤ input'.start.total :=
      ((start_le_after st input network w).trans hedited.clock).trans hnext.start
    unfold wait? at hgoes ⊢
    rw [hpass.interval] at hgoes
    rw [hnext.interval]
    exact remainingWait?_eq_none_mono hgoes htold hcovers hnow

/-- No pass is lost, wherever the passes before it failed. One that is skipped does nothing but wait
for the rest of the interval since the last outcome, and that was a success for the stored
generation or a later one. One that is not skipped and persists no success is followed, after any
edits and at any time, by one that is not skipped. -/
theorem noLostPass {start st : Watch} (hstart : Tells name start)
    (hruns : Relation.ReflTransGen (Moves name interval) start st)
    (hpass : Pass name interval st input network w) :
    (∀ wait, wait? input network = some wait →
      reconcile input network w = ⟨wait, 0, w⟩ ∧
      ∃ generation moment, st.latest = some (.success generation moment) ∧
        network.generation ≤ generation ∧ moment.total ≤ input.start.total ∧
        input.start.total < moment.total + seconds interval ∧
        0 < wait ∧ wait ≤ seconds interval ∧
        input.start.total + wait = moment.total + seconds interval) ∧
    (wait? input network = none →
      (∀ generation moment, persisted? input network w ≠ some (.success generation moment)) →
      ∀ st' input' network' w', Edited name (st.after input network w) st' →
        Pass name interval st' input' network' w' → wait? input' network' = none) := by
  have htells := hstart.reaches hruns
  refine ⟨?_, ?_⟩
  · intro wait hwait
    exact ⟨reconcile_of_skipped hwait w, hpass.of_skipped htells hwait⟩
  · intro hgoes hnone st' input' network' w' hedited hnext
    exact hpass.goes_again htells hgoes hnone hedited hnext

/-! ### A plan with the network itself -/

/-- A manifest of the network itself, with a status. -/
def selfReporting : Directory where
  path := "/bindata"
  entries := some [("a.yaml", .file
    ("apiVersion: operator.openshift.io/v1\nkind: Network\nmetadata:\n name: c\n" ++
      "status:\n observedGeneration: 9\n"))]

/-- A run that begins with a network that no pass has been made for. -/
def fresh : Watch where
  world := { server := freshServer }
  clock := .epoch
  latest := none

/-- A pass that applies that manifest. -/
def applying (faults : Faults) (milliseconds : Nat) : PassInput :=
  { settings := {}, manifests := selfReporting, faults, start := .later .epoch milliseconds }

/-- The network of a run, as a pass reads it. -/
def watched (st : Watch) : NetworkObject := (st.world.server.network? "c").getD {}

/-- The run after a pass at its start. -/
def once (faults : Faults) : Watch := fresh.after (applying faults 0) fresh.watched fresh.world

theorem tells_fresh : Tells "c" fresh := by
  have hread : ((fresh.world.server.find? .network "" "c").bind statusOf?).map
      RolloutStatus.outcome? = some none := by decide +kernel
  obtain ⟨status, hstatus, htold⟩ := Option.map_eq_some_iff.mp hread
  obtain ⟨body, hbody, hstatus⟩ := Option.bind_eq_some_iff.mp hstatus
  refine ⟨rfl, ⟨body, status, hbody, hstatus, htold⟩, ?_⟩
  rintro generation moment ⟨⟩

/-- A pass that reads the network, and goes on in the same world. -/
theorem pass_watched {st : Watch} (hread : (st.world.server.network? "c").isSome)
    (hname : st.watched.name = "c") (hstart : st.clock.total ≤ input.start.total) :
    Pass "c" input.settings.interval st input st.watched st.world where
  stored := by
    obtain ⟨n, hn⟩ := Option.isSome_iff_exists.mp hread
    unfold watched
    rw [hn]
    rfl
  named := hname
  interval := rfl
  start := hstart
  edits := .refl _ _

theorem pass_fresh (faults : Faults) :
    Pass "c" 180 fresh (applying faults 0) fresh.watched fresh.world := by
  have hread : (fresh.world.server.network? "c").isSome ∧ fresh.watched.name = "c" := by
    decide +kernel
  have hstart : fresh.clock.total ≤ (applying faults 0).start.total :=
    Moment.epoch.total_le_later 0
  exact pass_watched hread.1 hread.2 hstart

theorem reaches_once (faults : Faults) :
    Relation.ReflTransGen (Moves "c" 180) fresh (once faults) :=
  .single (.passed (pass_fresh faults))

/-- A pass applies the network itself, with a status that the server does not take. After its
success a pass a minute later is skipped, and waits for two more minutes; when its own status cannot
be written, no next pass is skipped. -/
theorem noLostPass_fresh :
    appliedCount (applying (fun _ _ => none) 0) fresh.watched fresh.world = 1 ∧
      (∃ generation moment, (once fun _ _ => none).latest = some (.success generation moment) ∧
        (Moment.later .epoch 60000).total + seconds 120 = moment.total + seconds 180) ∧
      reconcile (applying (fun _ _ => none) 60000) (once fun _ _ => none).watched
          (once fun _ _ => none).world = ⟨seconds 120, 0, (once fun _ _ => none).world⟩ ∧
      ∀ input network w, Pass "c" 180 (once (.failing (·.verb = .patchStatus))) input network w →
        wait? input network = none := by
  have hgood : appliedCount (applying (fun _ _ => none) 0) fresh.watched fresh.world = 1 ∧
      ((once fun _ _ => none).world.server.network? "c").isSome ∧
      (once fun _ _ => none).watched.name = "c" ∧
      (once fun _ _ => none).clock.total ≤ (applying (fun _ _ => none) 60000).start.total ∧
      wait? (applying (fun _ _ => none) 60000) (once fun _ _ => none).watched =
        some (seconds 120) := by decide +kernel
  have hbad : wait? (applying (.failing (·.verb = .patchStatus)) 0) fresh.watched = none ∧
      persisted? (applying (.failing (·.verb = .patchStatus)) 0) fresh.watched fresh.world =
        none := by decide +kernel
  obtain ⟨hcount, hread, hname, hclock, hminute⟩ := hgood
  have hgoes := noLostPass tells_fresh (reaches_once fun _ _ => none)
    (pass_watched hread hname hclock)
  obtain ⟨hskipped, generation, moment, hlatest, -, -, -, -, -, hends⟩ := hgoes.1 _ hminute
  refine ⟨hcount, ⟨generation, moment, hlatest, hends⟩, hskipped, fun input network w hnext => ?_⟩
  have hunpersisted : ∀ generation moment,
      persisted? (applying (.failing (·.verb = .patchStatus)) 0) fresh.watched fresh.world ≠
        some (.success generation moment) := by
    intro generation moment hsuccess
    rw [hbad.2] at hsuccess
    cases hsuccess
  have hedited : Edited "c" (fresh.after (applying (.failing (·.verb = .patchStatus)) 0)
      fresh.watched fresh.world) (once (.failing (·.verb = .patchStatus))) :=
    ⟨.refl _ _, Int.le_refl _, rfl⟩
  exact (noLostPass tells_fresh .refl (pass_fresh _)).2 hbad.1 hunpersisted _ input network w
    hedited hnext

end Watch

end NetworkRollout
