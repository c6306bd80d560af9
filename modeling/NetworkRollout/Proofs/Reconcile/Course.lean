import NetworkRollout.Reconcile.Pass
import NetworkRollout.Proofs.Apply.InOrder
import NetworkRollout.Proofs.Manifest.Loading
import NetworkRollout.Proofs.Reconcile.Preparation

/-!
# The course of a pass

A pass prepares, plans, applies the plan and records its spec. Each of these may be where it ends,
and nothing of what comes later has happened then.

* `Reconcile.planned`, `Reconcile.plan?`: the objects that a pass is to apply, if it gets there.
* `Changes`: the effects of a pass, by their place in it.
* `Course`, `Reconcile.attempt_course`: the exits of a pass, each with what was done before it.
-/

namespace NetworkRollout

open Server

/-! ## Planning -/

namespace Reconcile

/-- The objects that a prepared pass is to apply: those of the manifests with their marks, and the
live ones of tiers that are held back. -/
def planned (input : PassInput) (prepared : Prepared) (s : Server) :
    Except Failure (List Object) × Server :=
  let settings := input.settings
  match input.manifests.load
      (prepared.snapshot.manifestVariables prepared.spec settings.release) with
  | .error e => (.error e, s)
  | .ok rendered =>
    match s.liveTiers input.faults settings.namespaces prepared.decision with
    | (.error e, s) => (.error e, s)
    | (.ok live, s) =>
      let stamped := rendered.map (Object.stamp prepared.family settings.release)
      (.ok (Object.plan stamped prepared.decision live), s)

theorem rollOut_eq (input : PassInput) (prepared : Prepared) (s : Server) :
    rollOut input prepared s =
      match planned input prepared s with
      | (.error e, s) => (.error e, s)
      | (.ok objects, s) => s.applyAll input.faults input.settings.namespaces objects := by
  unfold rollOut planned
  dsimp only
  cases input.manifests.load
      (prepared.snapshot.manifestVariables prepared.spec input.settings.release) with
  | error e => rfl
  | ok rendered =>
    dsimp only
    rcases s.liveTiers input.faults input.settings.namespaces prepared.decision with
      ⟨e | live, s'⟩ <;> rfl

/-- Planning only asks, and fails for no fault of the desired network. -/
theorem planned_asks (input : PassInput) (prepared : Prepared) (s : Server) :
    Did s (planned input prepared s).2 [] ∧
      ∀ e, (planned input prepared s).1 = .error e → ¬ e.IsInvalidConfig := by
  unfold planned
  dsimp only
  cases hload : input.manifests.load
      (prepared.snapshot.manifestVariables prepared.spec input.settings.release) with
  | error e =>
    obtain ⟨detail, rfl⟩ := Directory.load_error hload
    refine ⟨.refl s, ?_⟩
    rintro _ ⟨⟩ ⟨_, ⟨⟩⟩
  | ok rendered =>
    have hlive :=
      liveTiers_asks input.faults input.settings.namespaces prepared.decision s
    dsimp only
    revert hlive
    rcases s.liveTiers input.faults input.settings.namespaces prepared.decision with
      ⟨e | live, s'⟩
    · rintro ⟨hdid, hcause⟩
      refine ⟨hdid, ?_⟩
      rintro _ ⟨⟩
      exact hcause e rfl
    · rintro ⟨hdid, -⟩
      refine ⟨hdid, ?_⟩
      rintro e ⟨⟩

/-- The preparation of a pass. -/
def preparation (input : PassInput) (network : NetworkObject) (w : World) :
    Except Failure Prepared × Run Server :=
  (prepare (surroundings input.faults network.name) input.settings.namespaces network.name
    network.spec input.settings.release input.settings.hostMtu).run.run
      { world := w.server, deadlines := w.deadlines }

/-- The objects that a pass is to apply; none when it fails before it applies any. -/
def plan? (input : PassInput) (network : NetworkObject) (w : World) : Option (List Object) :=
  match preparation input network w with
  | (.error _, _) => none
  | (.ok prepared, run) => (planned input prepared run.world).1.toOption

theorem plan?_of_error {input : PassInput} {network : NetworkObject} {w : World} {e : Failure}
    {run : Run Server} (h : preparation input network w = (.error e, run)) :
    plan? input network w = none := by
  unfold plan?
  rw [h]

theorem plan?_of_ok {input : PassInput} {network : NetworkObject} {w : World}
    {prepared : Prepared} {run : Run Server}
    (h : preparation input network w = (.ok prepared, run)) :
    plan? input network w = (planned input prepared run.world).1.toOption := by
  unfold plan?
  rw [h]

end Reconcile

/-! ## Exits -/

/-- The effects of a pass, by their place in it. -/
structure Changes where
  /-- Recording the initiator. -/
  election : List Effect := []
  /-- Applying the plan. -/
  applied : List Effect := []
  /-- Recording the spec. -/
  recorded : List Effect := []
  /-- Telling how it went. -/
  reported : List Effect := []

/-- All effects of a pass, in their order. -/
def Changes.all (c : Changes) : List Effect := c.election ++ c.applied ++ c.recorded ++ c.reported

namespace Reconcile

variable {input : PassInput} {network : NetworkObject} {w : World}

/-- The spec that a pass applies: the desired one, completed from the spec applied last. -/
def completedSpec (input : PassInput) (network : NetworkObject) (w : World) : NetworkSpec :=
  network.spec.fillDefaults (w.server.appliedSpec? network.name) input.settings.hostMtu

/-- The annotation that records the spec of a pass. -/
def specRecord (input : PassInput) (network : NetworkObject) (w : World) : Effect :=
  .annotate network.name Names.appliedSpecKey (completedSpec input network w).toText

/-- A pass gets as far as to apply all its objects, so many of them, and leaves the server. -/
def RollsOut (input : PassInput) (network : NetworkObject) (w : World) (applied : Nat)
    (done : Server) : Prop :=
  ∃ prepared run, preparation input network w = (.ok prepared, run) ∧
    rollOut input prepared run.world = (.ok applied, done)

/-- The failure of a pass that has recorded its spec on a network that does not read. -/
def unreadRecord (network : String) : Failure :=
  Server.unreadable ("Failed to annotate Network " ++ network)

/-- How a pass ends before it is reported, by its exits: the desired network is refused; something
fails before there is a plan; an object of the plan cannot be applied; the spec cannot be recorded;
it is recorded on a network that does not read; the pass succeeds. -/
inductive Course (input : PassInput) (network : NetworkObject) (w : World) :
    Except Failure (Decision × Nat) → World → Changes → Prop
  | refused {after : World} {messages : List String} (hplan : plan? input network w = none)
      (hdid : Did w.server after.server [])
      (hrequests : after.server.requests =
        w.server.requests ++ [⟨.get, Kind.network.plural, network.name⟩])
      (hdeadlines : after.deadlines = w.deadlines) :
      Course input network w (.error (.invalidConfig messages)) after {}
  | unplanned {after : World} {e : Failure} {election : List Effect}
      (hplan : plan? input network w = none) (hcause : ¬ e.IsInvalidConfig)
      (helection : IsElection network.name w.server election)
      (hdid : Did w.server after.server election) :
      Course input network w (.error e) after { election }
  | broken {after : World} {start : Server} {e : Failure} {objects : List Object}
      {election applied : List Effect} (hplan : plan? input network w = some objects)
      (helection : IsElection network.name w.server election) (hstart : Did w.server start election)
      (happlied : AppliedInOrder input.faults input.settings.namespaces objects start (.error e)
        after.server applied) :
      Course input network w (.error e) after { election, applied }
  | unrecorded {after : World} {start done : Server} {e : Failure} {objects : List Object}
      {election applied : List Effect} (hplan : plan? input network w = some objects)
      (helection : IsElection network.name w.server election) (hstart : Did w.server start election)
      (happlied : AppliedInOrder input.faults input.settings.namespaces objects start
        (.ok objects.length) done applied)
      (hcause : ¬ e.IsInvalidConfig) (hrecord : Did done after.server []) :
      Course input network w (.error e) after { election, applied }
  | unread {after : World} {start done : Server} {objects : List Object}
      {election applied : List Effect} (hplan : plan? input network w = some objects)
      (helection : IsElection network.name w.server election) (hstart : Did w.server start election)
      (happlied : AppliedInOrder input.faults input.settings.namespaces objects start
        (.ok objects.length) done applied)
      (hrolled : RollsOut input network w objects.length done)
      (hfound : (done.find? .network "" network.name).isSome)
      (hnoFault : input.faults done.requests.length
        ⟨.patch, Kind.network.plural, network.name⟩ = none)
      (hrequests : after.server.requests =
        done.requests ++ [⟨.patch, Kind.network.plural, network.name⟩])
      (hrecord : Did done after.server [specRecord input network w]) :
      Course input network w (.error (unreadRecord network.name)) after
        { election, applied, recorded := [specRecord input network w] }
  | recorded {after : World} {start done : Server} {decision : Decision} {objects : List Object}
      {election applied : List Effect} (hplan : plan? input network w = some objects)
      (helection : IsElection network.name w.server election) (hstart : Did w.server start election)
      (happlied : AppliedInOrder input.faults input.settings.namespaces objects start
        (.ok objects.length) done applied)
      (hfound : (done.find? .network "" network.name).isSome)
      (hrecord : Did done after.server [specRecord input network w]) :
      Course input network w (.ok (decision, objects.length)) after
        { election, applied, recorded := [specRecord input network w] }

/-! ## What holds at every exit -/

namespace Course

variable {before : World} {result : Except Failure (Decision × Nat)} {c : Changes}

theorem did (h : Course input network w result before c) :
    w.server.Did before.server (c.election ++ c.applied ++ c.recorded) := by
  cases h with
  | refused _ hdid _ _ => exact hdid
  | unplanned _ _ _ hdid => simpa using hdid
  | broken _ _ hstart happlied => simpa using hstart.trans happlied.did
  | unrecorded _ _ hstart happlied _ hrecord =>
    simpa using (hstart.trans happlied.did).trans hrecord
  | unread _ _ hstart happlied _ _ _ _ hrecord => exact (hstart.trans happlied.did).trans hrecord
  | recorded _ _ hstart happlied _ hrecord => exact (hstart.trans happlied.did).trans hrecord

theorem isElection (h : Course input network w result before c) :
    IsElection network.name w.server c.election := by
  cases h with
  | refused _ _ _ _ => exact Or.inl rfl
  | unplanned _ _ helection _ => exact helection
  | broken _ helection _ _ => exact helection
  | unrecorded _ helection _ _ _ _ => exact helection
  | unread _ helection _ _ _ _ _ _ _ => exact helection
  | recorded _ helection _ _ _ _ => exact helection

theorem of_refused {messages : List String}
    (h : Course input network w (.error (.invalidConfig messages)) before c) :
    before.server.requests = w.server.requests ++ [⟨.get, Kind.network.plural, network.name⟩] ∧
      before.deadlines = w.deadlines ∧ Did w.server before.server [] ∧ c = {} := by
  generalize hresult : Except.error (Failure.invalidConfig messages) = result at h
  cases h with
  | refused _ hdid hrequests hdeadlines => exact ⟨hrequests, hdeadlines, hdid, rfl⟩
  | unplanned _ hcause _ _ =>
    cases hresult
    exact absurd ⟨messages, rfl⟩ hcause
  | broken _ _ _ happlied =>
    cases hresult
    exact absurd ⟨messages, rfl⟩ happlied.cause
  | unrecorded _ _ _ _ hcause _ =>
    cases hresult
    exact absurd ⟨messages, rfl⟩ hcause
  | unread _ _ _ _ _ _ _ _ _ => cases hresult
  | recorded _ _ _ _ _ _ => cases hresult

theorem of_unplanned (h : Course input network w result before c)
    (hplan : plan? input network w = none) :
    (∃ e, result = .error e) ∧ c.applied = [] ∧ c.recorded = [] := by
  cases h with
  | refused _ _ _ _ => exact ⟨⟨_, rfl⟩, rfl, rfl⟩
  | unplanned _ _ _ _ => exact ⟨⟨_, rfl⟩, rfl, rfl⟩
  | broken hplanned _ _ _ =>
    rw [hplan] at hplanned
    cases hplanned
  | unrecorded hplanned _ _ _ _ _ =>
    rw [hplan] at hplanned
    cases hplanned
  | unread hplanned _ _ _ _ _ _ _ _ =>
    rw [hplan] at hplanned
    cases hplanned
  | recorded hplanned _ _ _ _ _ =>
    rw [hplan] at hplanned
    cases hplanned

theorem of_planned (h : Course input network w result before c) {objects : List Object}
    (hplan : plan? input network w = some objects) :
    ∃ start answer done, w.server.Did start c.election ∧
      AppliedInOrder input.faults input.settings.namespaces objects start answer done c.applied ∧
      ∀ e, answer = .error e → result = .error e ∧ c.recorded = [] := by
  cases h with
  | refused hplanned _ _ _ =>
    rw [hplan] at hplanned
    cases hplanned
  | unplanned hplanned _ _ _ =>
    rw [hplan] at hplanned
    cases hplanned
  | broken hplanned _ hstart happlied =>
    cases hplan.symm.trans hplanned
    refine ⟨_, _, _, hstart, happlied, ?_⟩
    rintro _ ⟨⟩
    exact ⟨rfl, rfl⟩
  | unrecorded hplanned _ hstart happlied _ _ =>
    cases hplan.symm.trans hplanned
    refine ⟨_, _, _, hstart, happlied, ?_⟩
    rintro e ⟨⟩
  | unread hplanned _ hstart happlied _ _ _ _ _ =>
    cases hplan.symm.trans hplanned
    refine ⟨_, _, _, hstart, happlied, ?_⟩
    rintro e ⟨⟩
  | recorded hplanned _ hstart happlied _ _ =>
    cases hplan.symm.trans hplanned
    refine ⟨_, _, _, hstart, happlied, ?_⟩
    rintro e ⟨⟩

/-- What is applied is planned. -/
theorem applied_each (h : Course input network w result before c) {effect : Effect}
    (hmem : effect ∈ c.applied) : ∃ objects, plan? input network w = some objects ∧
      ∃ o ∈ objects, o.AppliedAs w.server.serving input.settings.namespaces effect := by
  cases hplan : plan? input network w with
  | none =>
    rw [(h.of_unplanned hplan).2.1] at hmem
    cases hmem
  | some objects =>
    obtain ⟨start, answer, done, hstart, happlied, -⟩ := h.of_planned hplan
    exact ⟨objects, rfl, hstart.serving ▸ happlied.each effect hmem⟩

/-- The spec is recorded behind all objects of the plan. Then the pass succeeds, unless the network
does not read. -/
theorem recorded_iff (h : Course input network w result before c) :
    (∃ e, result = .error e) ∧ c.recorded = [] ∨
      ∃ objects, plan? input network w = some objects ∧
        List.Forall₂ (Object.AppliedAs w.server.serving input.settings.namespaces) objects
          c.applied ∧
        ((∃ decision, result = .ok (decision, objects.length)) ∨
          result = .error (unreadRecord network.name)) ∧
        c.recorded = [specRecord input network w] ∧
        before.server.annotation network.name Names.appliedSpecKey =
          some (.text (completedSpec input network w).toText) := by
  cases h with
  | refused _ _ _ _ => exact Or.inl ⟨⟨_, rfl⟩, rfl⟩
  | unplanned _ _ _ _ => exact Or.inl ⟨⟨_, rfl⟩, rfl⟩
  | broken _ _ _ _ => exact Or.inl ⟨⟨_, rfl⟩, rfl⟩
  | unrecorded _ _ _ _ _ _ => exact Or.inl ⟨⟨_, rfl⟩, rfl⟩
  | unread hplan _ hstart happlied _ hfound _ _ hrecord =>
    exact Or.inr ⟨_, hplan, hstart.serving ▸ happlied.all_of_ok, Or.inr rfl, rfl,
      hrecord.annotation_annotate hfound⟩
  | recorded hplan _ hstart happlied hfound hrecord =>
    exact Or.inr ⟨_, hplan, hstart.serving ▸ happlied.all_of_ok, Or.inl ⟨_, rfl⟩, rfl,
      hrecord.annotation_annotate hfound⟩

/-- Before its report a pass elects, applies what is planned and records its spec. -/
theorem mem_cases (h : Course input network w result before c) {effect : Effect}
    (hmem : effect ∈ c.election ++ c.applied ++ c.recorded) :
    (c.election ≠ [] ∧ ∃ address, effect = .annotate network.name Names.initiatorKey address) ∨
      effect ∈ c.applied ∨ c.recorded ≠ [] ∧ effect = specRecord input network w := by
  rcases List.mem_append.mp hmem with hmem | hrecorded
  · rcases List.mem_append.mp hmem with helection | happlied
    · rcases h.isElection with hnone | ⟨address, hone, -⟩
      · rw [hnone] at helection
        cases helection
      · refine Or.inl ⟨List.ne_nil_of_mem helection, address, ?_⟩
        rw [hone] at helection
        exact List.mem_singleton.mp helection
    · exact Or.inr (Or.inl happlied)
  · rcases h.recorded_iff with ⟨-, hnone⟩ | ⟨_, -, -, -, hone, -⟩
    · rw [hnone] at hrecorded
      cases hrecorded
    · refine Or.inr (Or.inr ⟨List.ne_nil_of_mem hrecorded, ?_⟩)
      rw [hone] at hrecorded
      exact List.mem_singleton.mp hrecorded

end Course

/-! ## Every pass takes a course -/

theorem preparation_on_server (input : PassInput) (network : NetworkObject) (w : World) :
    PreparedOn input.faults network.name network.spec input.settings.hostMtu
      { world := w.server, deadlines := w.deadlines } (preparation input network w).1
      (preparation input network w).2 :=
  Preparation.on_server (ends_prepare (asksKeep input.faults network.name) _ _ _ _ _ _)

/-- What is left of a pass whose plan was applied: recording its spec. -/
theorem record_course {start done server : Server} {objects : List Object}
    {election applied : List Effect} {recorded : Except Failure Unit}
    (hplan : plan? input network w = some objects)
    (helection : IsElection network.name w.server election) (hstart : Did w.server start election)
    (happlied : AppliedInOrder input.faults input.settings.namespaces objects start
      (.ok objects.length) done applied)
    (hrolled : RollsOut input network w objects.length done)
    (hfound : (done.find? .network "" network.name).isSome)
    (hrecord : record input.faults network.name Names.appliedSpecKey
      (completedSpec input network w).toText done = (recorded, server)) (decision : Decision) :
    ∃ c, ∀ after : World, after.server = server →
      Course input network w (recorded.map fun _ => (decision, objects.length)) after c := by
  have hrecording := recording hfound input.faults Names.appliedSpecKey
    (completedSpec input network w).toText
  have hrequests := requests_record input.faults network.name Names.appliedSpecKey
    (completedSpec input network w).toText done
  rw [hrecord] at hrecording hrequests
  cases hrecording with
  | done _ _ _ hdid =>
    refine ⟨{ election, applied, recorded := [specRecord input network w] }, ?_⟩
    rintro after rfl
    exact .recorded hplan helection hstart happlied hfound hdid
  | failed _ hdid =>
    refine ⟨{ election, applied }, ?_⟩
    rintro after rfl
    exact .unrecorded hplan helection hstart happlied (not_isInvalidConfig_failed _ _) hdid
  | unread hnoFault _ _ hdid =>
    refine ⟨{ election, applied, recorded := [specRecord input network w] }, ?_⟩
    rintro after rfl
    exact .unread hplan helection hstart happlied hrolled hfound hnoFault hrequests hdid

/-- What is left of a pass that is prepared: planning, applying and recording. -/
def conclude (input : PassInput) (network : NetworkObject) (prepared : Prepared) (s : Server) :
    Except Failure (Decision × Nat) × Server :=
  match rollOut input prepared s with
  | (.error e, s) => (.error e, s)
  | (.ok applied, s) =>
    match record input.faults network.name Names.appliedSpecKey prepared.spec.toText s with
    | (.error e, s) => (.error e, s)
    | (.ok (), s) => (.ok (prepared.decision, applied), s)

theorem conclude_course {prepared : Prepared} {run : Run Server} {election : List Effect}
    (hprep : preparation input network w = (.ok prepared, run))
    (helection : IsElection network.name w.server election)
    (hdid : Did w.server run.world election)
    (hfound : (w.server.find? .network "" network.name).isSome)
    (hspec : prepared.spec = completedSpec input network w) :
    ∃ c, ∀ after : World, after.server = (conclude input network prepared run.world).2 →
      Course input network w (conclude input network prepared run.world).1 after c := by
  obtain ⟨hasks, hunplanned⟩ := planned_asks input prepared run.world
  have hplan := plan?_of_ok hprep
  have hrollOut := rollOut_eq input prepared run.world
  unfold conclude
  rw [hrollOut, hspec]
  cases hplanned : planned input prepared run.world with
  | mk answer start =>
    rw [hplanned] at hplan hasks hunplanned hrollOut
    have hstart := hdid.trans hasks
    rw [List.append_nil] at hstart
    cases answer with
    | error e =>
      refine ⟨{ election }, ?_⟩
      rintro after rfl
      exact .unplanned hplan (hunplanned e rfl) helection hstart
    | ok objects =>
      dsimp only
      cases happly : applyAll input.faults input.settings.namespaces objects start with
      | mk counted done =>
        obtain ⟨applied, happlied⟩ := applyAll_inOrder happly
        cases counted with
        | error e =>
          refine ⟨{ election, applied }, ?_⟩
          rintro after rfl
          exact .broken hplan helection hstart happlied
        | ok n =>
          -- a run of applications that succeeds counts all objects
          have hn : n = objects.length := by cases happlied; rfl
          subst hn
          have hdone := (hstart.trans happlied.did).isSome_find? hfound
          have hrolled : RollsOut input network w objects.length done :=
            ⟨prepared, run, hprep, hrollOut.trans happly⟩
          dsimp only
          cases hrecord : record input.faults network.name Names.appliedSpecKey
              (completedSpec input network w).toText done with
          | mk recorded server =>
            obtain ⟨c, hcourse⟩ := record_course hplan helection hstart happlied hrolled hdone
              hrecord prepared.decision
            cases recorded with
            | error e => exact ⟨c, hcourse⟩
            | ok _ => exact ⟨c, hcourse⟩

/-- An attempt by its preparation and what comes after. -/
theorem attempt_eq (input : PassInput) (network : NetworkObject) (status : RolloutStatus)
    (w : World) :
    attempt input network status w =
      match preparation input network w with
      | (.error e, run) =>
        ⟨.error e, status, { w with server := run.world, deadlines := run.deadlines }, run.elapsed⟩
      | (.ok prepared, run) =>
        ⟨(conclude input network prepared run.world).1,
          status.bootstrapped (input.start.later run.elapsed) prepared.snapshot prepared.spec,
          { server := (conclude input network prepared run.world).2
            deadlines := run.deadlines
            metrics := w.metrics.recordBootstrap network.name prepared.snapshot
              (run.deadlines.of network.name).current },
          run.elapsed⟩ := by
  unfold attempt preparation conclude
  dsimp only
  rcases (prepare (surroundings input.faults network.name) input.settings.namespaces network.name
    network.spec input.settings.release input.settings.hostMtu).run.run
      { world := w.server, deadlines := w.deadlines } with ⟨e | prepared, run⟩
  · rfl
  · dsimp only
    rcases rollOut input prepared run.world with ⟨e | applied, s⟩
    · rfl
    · dsimp only
      rcases record input.faults network.name Names.appliedSpecKey prepared.spec.toText s with
        ⟨e | _, s'⟩ <;> rfl

theorem attempt_of_prepared {prepared : Prepared} {run : Run Server} (status : RolloutStatus)
    (h : preparation input network w = (.ok prepared, run)) :
    (attempt input network status w).result = (conclude input network prepared run.world).1 ∧
      (attempt input network status w).world.server =
        (conclude input network prepared run.world).2 := by
  rw [attempt_eq, h]
  exact ⟨rfl, rfl⟩

theorem attempt_of_unprepared {e : Failure} {run : Run Server} (status : RolloutStatus)
    (h : preparation input network w = (.error e, run)) :
    (attempt input network status w).result = .error e ∧
      (attempt input network status w).world =
        { w with server := run.world, deadlines := run.deadlines } := by
  rw [attempt_eq, h]
  exact ⟨rfl, rfl⟩

/-- Every pass that is not skipped takes a course. -/
theorem attempt_course (input : PassInput) (network : NetworkObject) (status : RolloutStatus)
    (w : World) :
    ∃ c, Course input network w (attempt input network status w).result
      (attempt input network status w).world c := by
  have hprepared := preparation_on_server input network w
  cases hprep : preparation input network w with
  | mk answer run =>
    rw [hprep] at hprepared
    cases answer with
    | error e =>
      obtain ⟨hresult, hworld⟩ := attempt_of_unprepared status hprep
      rw [hresult, hworld]
      cases hprepared with
      | refused messages =>
        exact ⟨_, .refused (plan?_of_error hprep)
          ((asksKeep input.faults network.name).recorded _ w.server)
          (requests_recorded network.name _ w.server) rfl⟩
      | bootstrapped hdid helection hcause _ =>
        exact ⟨_, .unplanned (plan?_of_error hprep) (hcause e rfl) helection hdid⟩
    | ok prepared =>
      obtain ⟨hresult, hserver⟩ := attempt_of_prepared status hprep
      rw [hresult]
      cases hprepared with
      | bootstrapped hdid helection _ hdecided =>
        obtain ⟨hfound, hspec⟩ := hdecided prepared rfl
        obtain ⟨c, hcourse⟩ := conclude_course hprep helection hdid hfound hspec
        exact ⟨c, hcourse _ hserver⟩

/-- A pass that is not skipped makes its attempt, and tells how that went. -/
theorem reconcile_eq
    (h : remainingWait? (network.status.getD {}) network.generation input.settings.interval
      input.start = none) (w : World) :
    reconcile input network w =
      let o := attempt input network (network.status.getD {}) w
      match o.result with
      | .ok (decision, applied) =>
        succeed input network (network.status.getD {}) decision applied o
      | .error e => fail input network e o := by
  unfold reconcile
  dsimp only
  split
  case h_1 wait hwait =>
    rw [h] at hwait
    cases hwait
  case h_2 => rfl

end Reconcile

end NetworkRollout
