import NetworkRollout.Proofs.Bootstrap.Prepare
import NetworkRollout.Proofs.Spec.ChangeSafety
import NetworkRollout.Proofs.Spec.RoundTrip

/-!
# The specs that passes apply

Each pass checks its spec against the one recorded last, and the record is read back as it was
written. So what a change may not touch is the same in all specs that were ever recorded, and the
MTU moves from record to record only in complete migrations.

* `SpecPass`: a pass with its surroundings, and what happens around it.
* `SpecPass.ends_step`: what one pass leaves under the key of the applied spec.
* `SettledSpecs`, `settledSpecs`: what holds of the records of any run of passes.
-/

namespace NetworkRollout

open PassM

variable {σ : Type}

/-- The applied spec that stands in the store, if there is one that reads. -/
def TextStore.appliedSpec (store : TextStore σ) (run : Run σ) : Option NetworkSpec :=
  (store.entry run.world Names.appliedSpecKey).bind NetworkSpec.ofText?

theorem TextStore.appliedSpec_congr {store : TextStore σ} {run run' : Run σ}
    (h : store.entry run'.world Names.appliedSpecKey = store.entry run.world Names.appliedSpecKey) :
    store.appliedSpec run' = store.appliedSpec run :=
  congrArg (·.bind NetworkSpec.ofText?) h

/-- The record reads back as it was written. -/
theorem TextStore.Written.appliedSpec {store : TextStore σ} {spec : NetworkSpec}
    {run run' : Run σ}
    (h : store.Written Names.appliedSpecKey spec.toText run.world run'.world) :
    store.appliedSpec run' = some spec := by
  rw [TextStore.appliedSpec, h.entry, Option.bind_some, NetworkSpec.ofText?_toText]

/-- A bootstrap leaves the record of the applied spec as it is. -/
theorem Bootstrapped.appliedSpec_eq {store : TextStore σ} {env : Surroundings σ} {run run' : Run σ}
    {answer : Except Failure Snapshot} (hstores : env.StoresIn store)
    (h : Bootstrapped env store.Same run answer run') :
    store.entry run'.world Names.appliedSpecKey = store.entry run.world Names.appliedSpecKey := by
  cases h with
  | unelected hworld _ => rw [hworld.entry]
  | elected hbefore _ _ helection hafter _ _ _ =>
    rw [hafter.entry, helection.entry_of_ne hstores (by decide), hbefore.entry]

/-! ## One pass -/

/-- A pass that prepares, rolls out and records its spec, in surroundings that keep their texts in
the store. Neither the roll-out nor what happens before the pass touches the applied spec. -/
structure SpecPass (store : TextStore σ) where
  surroundings : Surroundings σ
  stores : surroundings.StoresIn store
  namespaces : Namespaces := {}
  target : String := ""
  spec : NetworkSpec
  release : String := ""
  hostMtu : UInt32 := 1500
  meanwhile : Run σ → Run σ := id
  meanwhile_keeps : ∀ run, store.entry (meanwhile run).world Names.appliedSpecKey =
    store.entry run.world Names.appliedSpecKey := by intro; rfl
  rollOut : Prepared → PassM σ Unit := fun _ => pure ()
  rollOut_keeps : ∀ p run, Ends (rollOut p) run fun _ run' =>
    store.entry run'.world Names.appliedSpecKey =
      store.entry run.world Names.appliedSpecKey := by intros; rfl

namespace SpecPass

variable {store : TextStore σ}

/-- The steps of a pass. -/
def step (pass : SpecPass store) : PassM σ NetworkSpec := do
  let p ← prepare pass.surroundings pass.namespaces pass.target pass.spec pass.release pass.hostMtu
  pass.rollOut p
  p.commit pass.surroundings
  return p.spec

/-- The spec that the pass records, unless it fails. -/
def committed (pass : SpecPass store) (run : Run σ) : Option NetworkSpec :=
  (pass.step.run.run (pass.meanwhile run)).1.toOption

/-- The state that the pass ends in. -/
def after (pass : SpecPass store) (run : Run σ) : Run σ :=
  (pass.step.run.run (pass.meanwhile run)).2

/-- A preparation leaves the record of the applied spec as it is, and decides only on a spec
without faults against that record. -/
theorem ends_prepare (pass : SpecPass store) (run : Run σ) :
    Ends (prepare pass.surroundings pass.namespaces pass.target pass.spec pass.release
      pass.hostMtu) run fun answer run' =>
        store.entry run'.world Names.appliedSpecKey = store.entry run.world Names.appliedSpecKey ∧
          ∀ p, answer = .ok p → Prepared.faults (store.appliedSpec run) p.spec = [] := by
  refine (NetworkRollout.ends_prepare pass.stores.asks _ _ _ _ _ run).mono ?_
  intro answer run' h
  have hasked := (pass.stores.asks.recorded Names.appliedSpecKey run.world).entry
  cases h with
  | unread _ =>
    refine ⟨congrFun hasked _, ?_⟩
    rintro p ⟨⟩
  | refused _ _ _ =>
    refine ⟨congrFun hasked _, ?_⟩
    rintro p ⟨⟩
  | @accepted text previous outcome _ hread hprevious hfaults hbootstrap =>
    refine ⟨(hbootstrap.appliedSpec_eq pass.stores).trans (congrFun hasked _), ?_⟩
    intro p hp
    have hsame : store.appliedSpec run = previous := by
      rw [hprevious, pass.stores.recorded hread, TextStore.appliedSpec]
    cases outcome with
    | error e => cases hp
    | ok snapshot =>
      cases hp
      rw [hsame]
      exact hfaults

/-- A pass that fails leaves the record as it is. One that succeeds records a spec without faults
against the record before. -/
theorem ends_step (pass : SpecPass store) (run : Run σ) :
    Ends pass.step run fun answer run' =>
      (∀ e, answer = .error e → store.appliedSpec run' = store.appliedSpec run) ∧
        ∀ s, answer = .ok s → store.appliedSpec run' = some s ∧
          Prepared.faults (store.appliedSpec run) s = [] := by
  unfold step
  refine Ends.bind (pass.ends_prepare run) ?_ ?_
  · rintro e run₁ ⟨hprepare, -⟩
    refine ⟨fun _ _ => TextStore.appliedSpec_congr hprepare, ?_⟩
    rintro s ⟨⟩
  rintro p run₁ ⟨hprepare, hfaults⟩
  refine Ends.bind (pass.rollOut_keeps p run₁) ?_ ?_
  · intro e run₂ hrollOut
    refine ⟨fun _ _ => TextStore.appliedSpec_congr (hrollOut.trans hprepare), ?_⟩
    rintro s ⟨⟩
  intro _ run₂ hrollOut
  unfold Prepared.commit
  rw [ends_bind, ends_ask]
  cases hrecord : (pass.surroundings.record Names.appliedSpecKey p.spec.toText run₂.world).1 with
  | error e =>
    have hsame := congrFun (pass.stores.record_error hrecord).entry Names.appliedSpecKey
    refine ⟨fun _ _ => TextStore.appliedSpec_congr (hsame.trans (hrollOut.trans hprepare)), ?_⟩
    rintro s ⟨⟩
  | ok _ =>
    refine ends_pure.mpr ⟨?_, ?_⟩
    · rintro e ⟨⟩
    · rintro s ⟨⟩
      exact ⟨(pass.stores.record_ok hrecord).appliedSpec, hfaults p rfl⟩

/-- A pass records nothing and leaves the applied spec as it is, or it records a spec without
faults against the one before. -/
theorem committed_cases (pass : SpecPass store) (run : Run σ) :
    pass.committed run = none ∧ store.appliedSpec (pass.after run) = store.appliedSpec run ∨
      ∃ s, pass.committed run = some s ∧ store.appliedSpec (pass.after run) = some s ∧
        Prepared.faults (store.appliedSpec run) s = [] := by
  have hmeanwhile := TextStore.appliedSpec_congr (pass.meanwhile_keeps run)
  obtain ⟨herror, hok⟩ := pass.ends_step (pass.meanwhile run)
  unfold committed after
  cases hanswer : (pass.step.run.run (pass.meanwhile run)).1 with
  | error e => exact Or.inl ⟨rfl, (herror e hanswer).trans hmeanwhile⟩
  | ok s =>
    obtain ⟨hafter, hfaults⟩ := hok s hanswer
    rw [hmeanwhile] at hfaults
    exact Or.inr ⟨s, rfl, hafter, hfaults⟩

end SpecPass

/-! ## Runs -/

section Runs

variable {store : TextStore σ}

/-- The specs that passes in a row record, in order. A pass that fails records none. -/
def committedSpecs : List (SpecPass store) → Run σ → List NetworkSpec
  | [], _ => []
  | pass :: rest, run => (pass.committed run).toList ++ committedSpecs rest (pass.after run)

/-- The records of a run: the one that it starts with, if there is one, and those of its passes. -/
def appliedSpecs (passes : List (SpecPass store)) (run : Run σ) : List NetworkSpec :=
  (store.appliedSpec run).toList ++ committedSpecs passes run

/-- Records that agree in what is fixed at installation, and whose MTU moves only by complete
migrations. -/
structure SettledSpecs (records : List NetworkSpec) : Prop where
  installation : records.Pairwise NetworkSpec.SameInstallation
  mtu : records.IsChain NetworkSpec.MtuSafe

theorem SettledSpecs.singleton (spec : NetworkSpec) : SettledSpecs [spec] :=
  ⟨List.pairwise_singleton _ spec, List.IsChain.singleton spec⟩

/-- One more record in front, from which the next one is a change without faults. -/
theorem SettledSpecs.cons {prev next : NetworkSpec} {rest : List NetworkSpec}
    (hchange : prev.changeFaults next = []) (h : SettledSpecs (next :: rest)) :
    SettledSpecs (prev :: next :: rest) where
  installation := by
    have hnext := NetworkSpec.sameInstallation_of_changeFaults hchange
    refine List.pairwise_cons.mpr ⟨?_, h.installation⟩
    -- what is fixed passes from each record to the next one, so it is the same in all
    intro later hlater
    rcases List.mem_cons.mp hlater with rfl | hrest
    · exact hnext
    · exact hnext.trans (List.rel_of_pairwise_cons h.installation hrest)
  mtu := List.isChain_cons_cons.mpr ⟨NetworkSpec.mtuSafe_of_changeFaults hchange, h.mtu⟩

/-- The induction is on the passes: each one leaves the record as it is, or puts the next one
behind it. -/
theorem settledSpecs (passes : List (SpecPass store)) (run : Run σ) :
    SettledSpecs (appliedSpecs passes run) := by
  induction passes generalizing run with
  | nil =>
    rw [appliedSpecs, committedSpecs, List.append_nil]
    cases store.appliedSpec run with
    | none => exact ⟨List.Pairwise.nil, List.IsChain.nil⟩
    | some spec => exact SettledSpecs.singleton spec
  | cons pass rest ih =>
    have hrest := ih (pass.after run)
    rcases pass.committed_cases run with ⟨hnone, hafter⟩ | ⟨s, hsome, hafter, hfaults⟩
    · rw [appliedSpecs, hafter] at hrest
      rw [appliedSpecs, committedSpecs, hnone]
      exact hrest
    · rw [appliedSpecs, hafter] at hrest
      rw [appliedSpecs, committedSpecs, hsome]
      cases hprevious : store.appliedSpec run with
      | none => exact hrest
      | some prev =>
        rw [hprevious] at hfaults
        exact hrest.cons (Prepared.changeFaults_eq_nil hfaults)

/-- A script in which one member is seen before the discovery runs into its deadline. -/
def Script.oneMember : Script where
  configMap _ name := if name = Names.clusterConfigName then .ok (some []) else .ok none
  listings := [{ answer := .ok [⟨"master-0", some "10.0.0.1"⟩] },
    { delay := 250001, answer := .ok [] }]

/-- A pass over a spec with one pool of each kind, in a script with one member. -/
def Script.oneMemberPass (overlay : Overlay) (hostMtu : UInt32) : SpecPass Script.store where
  surroundings := oneMember.surroundings
  stores := oneMember.storesIn
  spec :=
    { clusterNetwork := [{ cidr := "10.128.0.0/14", hostPrefix := 23 }]
      serviceNetwork := ["172.30.0.0/16"]
      defaultNetwork := { overlay := some overlay } }
  hostMtu

/-- A store with an applied spec. -/
def installed : Run ScriptState :=
  let spec : NetworkSpec :=
    { defaultNetwork := { overlay := some { mtu := some 1400, genevePort := some 6081 } } }
  { world := { entries := [(Names.appliedSpecKey, spec.toText)] } }

/-- A pass with another port is refused; one that leaves its settings open, on hosts with a greater
MTU, records the MTU that was applied. -/
theorem settledSpecs_installed :
    let passes := [Script.oneMemberPass { genevePort := some 7000 } 1500,
      Script.oneMemberPass {} 9000]
    (appliedSpecs passes installed).map (·.mtu) = [some 1400, some 1400] ∧
      SettledSpecs (appliedSpecs passes installed) := by
  exact ⟨by decide +kernel, settledSpecs _ _⟩

end Runs

end NetworkRollout
