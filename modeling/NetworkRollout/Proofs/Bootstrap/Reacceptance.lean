import NetworkRollout.Proofs.Bootstrap.AppliedSpecs
import NetworkRollout.Proofs.Spec.Defaults

/-!
# A spec that is applied and prepared again

A pass records the spec that it completed, and the next pass over the same spec completes it to the
same one. All that the checks then look at anew is the migration: it was checked in the first pass
only if there was a record to change from. So an unchanged spec is refused exactly if it brought an
unsound migration to a cluster without a record.

* `Surroundings.BlamesNoSpec`: a store whose failures do not blame the desired network.
* `SpecPass.committed_eq`: what a pass records.
* `SpecPass.refused_again_iff`: when a pass refuses the spec that the pass before applied.
* `SpecPass.unfinished_refused_again`: an unchanged spec may be refused.
-/

namespace NetworkRollout

open PassM

variable {σ : Type}

/-- A store whose failures are its own: none of them says that the desired network is at fault. -/
structure Surroundings.BlamesNoSpec (env : Surroundings σ) : Prop where
  recorded : ∀ {key w e}, (env.recorded key w).1 = .error e → ¬ e.IsInvalidConfig
  record : ∀ {key value w e}, (env.record key value w).1 = .error e → ¬ e.IsInvalidConfig

/-- An election on such a store blames no spec. -/
theorem Election.not_isInvalidConfig {env : Surroundings σ} {members : List String}
    {run run' : Run σ} {e : Failure} (hblames : env.BlamesNoSpec)
    (h : Election env members run (.error e) run') : ¬ e.IsInvalidConfig := by
  cases h with
  | unread hread => exact hblames.recorded hread
  | unrecorded _ _ _ hwrite => exact hblames.record hwrite

/-- Nor does a bootstrap, whatever it asks. -/
theorem Bootstrapped.not_isInvalidConfig {env : Surroundings σ} {R : σ → σ → Prop}
    {run run' : Run σ} {e : Failure} (hblames : env.BlamesNoSpec)
    (h : Bootstrapped env R run (.error e) run') : ¬ e.IsInvalidConfig := by
  cases h with
  | unelected _ hcause => exact hcause
  | @elected _ _ _ _ _ outcome _ _ _ _ helection _ hfailed hcause _ =>
    cases outcome with
    | error e' =>
      cases hfailed e' rfl
      exact helection.not_isInvalidConfig hblames
    | ok chosen => exact hcause chosen rfl e rfl

namespace SpecPass

variable {store : TextStore σ}

/-- How the preparation of a pass ends. -/
def preparation (pass : SpecPass store) (run : Run σ) : Except Failure Prepared :=
  ((prepare pass.surroundings pass.namespaces pass.target pass.spec pass.release
    pass.hostMtu).run.run (pass.meanwhile run)).1

/-- The preparation ends with faults of the desired network. -/
def Refused (pass : SpecPass store) (run : Run σ) : Prop :=
  ∃ messages, pass.preparation run = .error (.invalidConfig messages)

/-- The store answers when the pass recalls the spec that was applied last. -/
def Recalls (pass : SpecPass store) (run : Run σ) : Prop :=
  ∃ text, (pass.surroundings.recorded Names.appliedSpecKey (pass.meanwhile run).world).1 = .ok text

/-- What is recalled is what stands in the store. -/
theorem recalled_eq (pass : SpecPass store) {run : Run σ} {text : Option String}
    (h : (pass.surroundings.recorded Names.appliedSpecKey (pass.meanwhile run).world).1 =
      .ok text) : text.bind NetworkSpec.ofText? = store.appliedSpec run := by
  rw [pass.stores.recorded h, pass.meanwhile_keeps]
  rfl

/-- The spec of a pass as it is completed from the record that the pass finds. -/
def completed (pass : SpecPass store) (run : Run σ) : NetworkSpec :=
  pass.spec.fillDefaults (store.appliedSpec run) pass.hostMtu

/-- A preparation that succeeds has completed its spec and found no faults. -/
theorem preparation_ok (pass : SpecPass store) {run : Run σ} {p : Prepared}
    (h : pass.preparation run = .ok p) : p.spec = pass.completed run ∧
      Prepared.faults (store.appliedSpec run) (pass.completed run) = [] := by
  suffices hends : Ends (prepare pass.surroundings pass.namespaces pass.target pass.spec
      pass.release pass.hostMtu) (pass.meanwhile run) fun answer _ => answer = .ok p →
        p.spec = pass.completed run ∧
          Prepared.faults (store.appliedSpec run) (pass.completed run) = [] from hends h
  refine (NetworkRollout.ends_prepare pass.stores.asks _ _ _ _ _ _).mono ?_
  intro answer run' hprepared hok
  cases hprepared with
  | unread _ => cases hok
  | refused _ _ _ => cases hok
  | @accepted text previous outcome _ hread hprevious hfaults _ =>
    rw [pass.recalled_eq hread] at hprevious
    subst hprevious
    cases outcome with
    | error e => cases hok
    | ok snapshot =>
      cases hok
      exact ⟨rfl, hfaults⟩

/-- When the store answers, faults of the completed spec are the end of a preparation. -/
theorem preparation_of_faults (pass : SpecPass store) {run : Run σ} (hrecalls : pass.Recalls run)
    (hfaults : Prepared.faults (store.appliedSpec run) (pass.completed run) ≠ []) :
    pass.preparation run =
      .error (.invalidConfig (Prepared.faults (store.appliedSpec run) (pass.completed run))) := by
  obtain ⟨text, htext⟩ := hrecalls
  suffices hends : Ends (prepare pass.surroundings pass.namespaces pass.target pass.spec
      pass.release pass.hostMtu) (pass.meanwhile run) fun answer _ => answer =
        .error (.invalidConfig (Prepared.faults (store.appliedSpec run) (pass.completed run)))
    from hends
  refine (NetworkRollout.ends_prepare pass.stores.asks _ _ _ _ _ _).mono ?_
  intro answer run' hprepared
  cases hprepared with
  | unread hread =>
    rw [htext] at hread
    cases hread
  | refused hread hprevious _ =>
    rw [pass.recalled_eq hread] at hprevious
    subst hprevious
    rfl
  | accepted hread hprevious hnone _ =>
    rw [pass.recalled_eq hread] at hprevious
    subst hprevious
    exact absurd hnone hfaults

/-- A preparation refuses its spec exactly if the store answers and the completed spec has
faults. -/
theorem refused_iff (pass : SpecPass store) (hblames : pass.surroundings.BlamesNoSpec)
    (run : Run σ) : pass.Refused run ↔ pass.Recalls run ∧
      Prepared.faults (store.appliedSpec run) (pass.completed run) ≠ [] := by
  constructor
  · suffices hends : Ends (prepare pass.surroundings pass.namespaces pass.target pass.spec
        pass.release pass.hostMtu) (pass.meanwhile run) fun answer _ =>
          ∀ messages, answer = .error (.invalidConfig messages) → pass.Recalls run ∧
            Prepared.faults (store.appliedSpec run) (pass.completed run) ≠ [] from
      fun ⟨messages, hmessages⟩ => hends messages hmessages
    refine (NetworkRollout.ends_prepare pass.stores.asks _ _ _ _ _ _).mono ?_
    intro answer run' hprepared messages hmessages
    cases hprepared with
    | unread hread =>
      -- the failure of the store is passed on
      cases hmessages
      exact absurd ⟨messages, rfl⟩ (hblames.recorded hread)
    | refused hread hprevious hfaults =>
      rw [pass.recalled_eq hread] at hprevious
      subst hprevious
      exact ⟨⟨_, hread⟩, hfaults⟩
    | @accepted _ _ outcome _ _ _ _ hbootstrap =>
      cases outcome with
      | error e =>
        cases hmessages
        exact absurd ⟨messages, rfl⟩ (hbootstrap.not_isInvalidConfig hblames)
      | ok snapshot => cases hmessages
  · rintro ⟨hrecalls, hfaults⟩
    exact ⟨_, pass.preparation_of_faults hrecalls hfaults⟩

/-- A pass records the spec that it completed, in which it found no faults. -/
theorem committed_eq (pass : SpecPass store) {run : Run σ} {applied : NetworkSpec}
    (h : pass.committed run = some applied) : applied = pass.completed run ∧
      Prepared.faults (store.appliedSpec run) applied = [] := by
  unfold committed step at h
  rw [run_bind] at h
  cases hprepared : (prepare pass.surroundings pass.namespaces pass.target pass.spec pass.release
      pass.hostMtu).run.run (pass.meanwhile run) with
  | mk answer run₁ =>
    rw [hprepared] at h
    cases answer with
    | error e => cases h
    | ok p =>
      have hok : pass.preparation run = .ok p := congrArg Prod.fst hprepared
      obtain ⟨hspec, hfaults⟩ := pass.preparation_ok hok
      -- the steps that follow answer with the spec of the preparation, or fail
      have happlied : applied = p.spec := by
        dsimp only at h
        rw [run_bind] at h
        rcases hrolled : (pass.rollOut p).run.run run₁ with ⟨_ | _, run₂⟩ <;> rw [hrolled] at h
        · cases h
        dsimp only at h
        rw [run_bind] at h
        rcases hcommitted : (p.commit pass.surroundings).run.run run₂ with ⟨_ | _, run₃⟩ <;>
          rw [hcommitted] at h <;> cases h
        rfl
      rw [happlied, hspec]
      exact ⟨rfl, hfaults⟩

/-- After a pass that records its spec, that spec is the applied one. -/
theorem appliedSpec_after (pass : SpecPass store) {run : Run σ} {applied : NetworkSpec}
    (h : pass.committed run = some applied) : store.appliedSpec (pass.after run) = some applied := by
  rcases pass.committed_cases run with ⟨hnone, -⟩ | ⟨s, hsome, hafter, -⟩
  · rw [h] at hnone
    cases hnone
  · rw [h] at hsome
    cases hsome
    exact hafter

/-- A spec that was found without faults has none against itself, but for its migration. -/
theorem faults_self_eq_nil_iff {previous : Option NetworkSpec} {applied : NetworkSpec}
    (h : Prepared.faults previous applied = []) :
    Prepared.faults (some applied) applied = [] ↔ applied.SoundMigration := by
  have hspec := (List.append_eq_nil_iff.mp h).1
  unfold Prepared.faults
  rw [hspec, List.nil_append, List.map_eq_nil_iff, NetworkSpec.changeFaults_self_eq_nil_iff]

/-- A pass over the spec that was just applied completes it to what was applied. -/
theorem completed_again {first second : SpecPass store} {run : Run σ} {applied : NetworkSpec}
    (hspec : second.spec = first.spec) (hcommitted : first.committed run = some applied) :
    second.completed (first.after run) = applied := by
  rw [completed, first.appliedSpec_after hcommitted, hspec, (first.committed_eq hcommitted).1]
  exact NetworkSpec.fillDefaults_fillDefaults _ _ _ _

/-- When one pass has applied a spec, the next one, in any surroundings and with any MTU of the
hosts, refuses that spec exactly if the store answers it, the first pass found no record, and the
spec carries an unsound migration. -/
theorem refused_again_iff {first second : SpecPass store} {run : Run σ} {applied : NetworkSpec}
    (hspec : second.spec = first.spec) (hcommitted : first.committed run = some applied)
    (hblames : second.surroundings.BlamesNoSpec) :
    second.Refused (first.after run) ↔ second.Recalls (first.after run) ∧
      store.appliedSpec run = none ∧ ¬ first.spec.SoundMigration := by
  obtain ⟨happlied, hfaults⟩ := first.committed_eq hcommitted
  have hsound : applied.SoundMigration ↔ first.spec.SoundMigration := by
    rw [happlied]
    exact NetworkSpec.soundMigration_fillDefaults
  rw [second.refused_iff hblames, first.appliedSpec_after hcommitted,
    completed_again hspec hcommitted, ne_eq, faults_self_eq_nil_iff hfaults, hsound]
  -- a record before the first pass has had the migration checked
  have hchecked : store.appliedSpec run ≠ none → first.spec.SoundMigration := by
    intro hrecord
    obtain ⟨prev, hprev⟩ := Option.ne_none_iff_exists'.mp hrecord
    rw [hprev] at hfaults
    exact hsound.mp (NetworkSpec.soundMigration_of_changeFaults
      (Prepared.changeFaults_eq_nil hfaults))
  constructor
  · rintro ⟨hrecalls, hunsound⟩
    exact ⟨hrecalls, by_contra fun hrecord => hunsound (hchecked hrecord), hunsound⟩
  · rintro ⟨hrecalls, -, hunsound⟩
    exact ⟨hrecalls, hunsound⟩

end SpecPass

/-! ## Passes in a script -/

/-- A script in which the store does not fail. -/
theorem Script.blamesNoSpec {script : Script} (hrecall : script.recallFault = none)
    (hrecord : script.recordFault = none) : script.surroundings.BlamesNoSpec where
  recorded := by
    intro key w e h
    change (script.recorded key w).1 = .error e at h
    unfold Script.recorded at h
    rw [hrecall] at h
    cases h
  record := by
    intro key value w e h
    change (script.record key value w).1 = .error e at h
    unfold Script.record at h
    rw [hrecord] at h
    cases h

namespace SpecPass

/-- A pass with one member over a spec that moves the MTU. -/
def migratingPass (migration : MtuMigration) (hostMtu : UInt32) : SpecPass Script.store :=
  let pass := Script.oneMemberPass {} hostMtu
  { pass with spec := { pass.spec with migration := some { mtu := some migration } } }

/-- A migration from 1400 to 8900 on hosts that go to 9000. -/
def wholeMigration : MtuMigration :=
  { network := some { oldMtu := some 1400, newMtu := some 8900 }
    machine := some { newMtu := some 9000 } }

/-- A migration without goals. -/
def unfinishedMigration : MtuMigration := { network := some { oldMtu := some 1400 } }

theorem wholeMigration_sound (hostMtu : UInt32) :
    (migratingPass wholeMigration hostMtu).spec.SoundMigration := by
  intro migration hmigration
  have hwhole : wholeMigration = migration := Option.some.inj hmigration
  subst hwhole
  have hoverhead : (migratingPass wholeMigration hostMtu).spec.tunnelOverhead = 100 := rfl
  rw [hoverhead]
  exact ⟨1400, 8900, 9000, rfl, rfl, rfl, by decide⟩

/-- A migration with goals is accepted again, on hosts with a greater MTU. -/
theorem wholeMigration_not_refused_again :
    let first := migratingPass wholeMigration 1500
    let second := migratingPass wholeMigration 9000
    first.committed { world := {} } = some (first.completed { world := {} }) ∧
      ¬ second.Refused (first.after { world := {} }) := by
  intro first second
  have hcommitted : first.committed { world := {} } = some (first.completed { world := {} }) := by
    decide +kernel
  have hsame : second.spec = first.spec := rfl
  have hagain := refused_again_iff hsame hcommitted (Script.blamesNoSpec rfl rfl)
  refine ⟨hcommitted, fun hrefused => ?_⟩
  obtain ⟨-, -, hunsound⟩ := hagain.mp hrefused
  exact hunsound (wholeMigration_sound 1500)

/-- On a cluster without a record, a spec with a migration without goals is accepted and applied,
and refused when nothing has changed. -/
theorem unfinished_refused_again :
    let pass := migratingPass unfinishedMigration 1500
    pass.committed { world := {} } = some (pass.completed { world := {} }) ∧
      pass.preparation (pass.after { world := {} }) = .error (.invalidConfig
        ["invalid Migration.MTU, at least one of the required fields is missing"]) := by
  intro pass
  have hcommitted : pass.committed { world := {} } = some (pass.completed { world := {} }) := by
    decide +kernel
  have hfaults : Prepared.faults (some (pass.completed { world := {} }))
      (pass.completed { world := {} }) =
        ["invalid Migration.MTU, at least one of the required fields is missing"] := by
    decide +kernel
  refine ⟨hcommitted, ?_⟩
  have hrecalls : pass.Recalls (pass.after { world := {} }) := ⟨_, rfl⟩
  have hrefused := pass.preparation_of_faults hrecalls
  rw [pass.appliedSpec_after hcommitted, completed_again rfl hcommitted, hfaults] at hrefused
  exact hrefused (List.cons_ne_nil _ _)

end SpecPass

end NetworkRollout
