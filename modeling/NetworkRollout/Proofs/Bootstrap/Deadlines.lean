import NetworkRollout.Proofs.Bootstrap.Prepare

/-!
# What a preparation does to the deadlines

A preparation asks first, then discovers the members, then asks again and elects. Only the
discovery touches the deadlines: it shrinks that of its target when it runs into it, whatever comes
of the preparation afterwards. The facts of a preparation that succeeds tell whether that happened.

* `KeepsDeadlines`: steps that leave the deadlines as they are.
* `Bootstrap.survey`, `Bootstrap.complete`, `bootstrap_eq`: a bootstrap around its discovery.
* `discovery?`: the discovery that a preparation holds, if it gets there.
* `ends_prepare_discovery`: what it leaves of the deadlines, and what it tells.
-/

namespace NetworkRollout

open PassM

variable {σ α β : Type} {env : Surroundings σ}

/-! ## Steps that keep the deadlines -/

/-- A step that leaves the deadlines as they are. -/
def KeepsDeadlines (step : PassM σ α) : Prop :=
  ∀ run, Ends step run fun _ run' => run'.deadlines = run.deadlines

namespace KeepsDeadlines

theorem pure (a : α) : KeepsDeadlines (pure a : PassM σ α) := fun _ => rfl

theorem throw (e : Failure) : KeepsDeadlines (throw e : PassM σ α) := fun _ => rfl

theorem lift (x : Except Failure α) : KeepsDeadlines (liftM x : PassM σ α) := by
  intro run
  exact (ends_lift x).mpr rfl

theorem ask (question : σ → Except Failure α × σ) : KeepsDeadlines (PassM.ask question) := by
  intro run
  exact ends_ask.mpr rfl

theorem attempt (question : σ → Except Failure α × σ) :
    KeepsDeadlines (PassM.attempt question) := fun _ => rfl

theorem askAs (cause : Failure → Failure) (question : σ → Except Failure α × σ) :
    KeepsDeadlines (PassM.askAs cause question) := by
  intro run
  exact ends_askAs.mpr rfl

theorem bind {x : PassM σ α} {f : α → PassM σ β} (hx : KeepsDeadlines x)
    (hf : ∀ a, KeepsDeadlines (f a)) : KeepsDeadlines (x >>= f) := by
  intro run
  refine Ends.bind (hx run) ?_ ?_
  · intro e run' hfirst
    exact hfirst
  · intro a run' hfirst
    refine (hf a run').mono ?_
    intro answer run'' hrest
    exact hrest.trans hfirst

end KeepsDeadlines

theorem keepsDeadlines_elect (members : List String) : KeepsDeadlines (elect env members) := by
  refine KeepsDeadlines.bind (.ask _) fun recorded => ?_
  cases chooseInitiator recorded members with
  | none => exact .pure none
  | some chosen =>
    dsimp only
    split
    case isTrue => exact .bind (.ask _) fun _ => .pure _
    case isFalse => exact .pure _

/-! ## The parts of a bootstrap -/

namespace Bootstrap

/-- What is asked before the discovery: the infrastructure, and the number of members that is
expected. -/
def survey (env : Surroundings σ) : PassM σ (Infrastructure × Nat) := do
  let infra ← PassM.askAs
    (fun e => .kubernetesApi s!"reading infrastructure: {e.message}") env.infrastructure
  if infra.topology = .external then throw .externalControlPlane
  return (infra, ← expectedReplicas env)

/-- What is made of a discovery: its members elect, and the rest of the facts is read. -/
def complete (env : Surroundings σ) (ns : Namespaces) (spec : NetworkSpec)
    (surveyed : Infrastructure × Nat) (found : Discovery) : PassM σ Snapshot := do
  let (infra, expected) := surveyed
  let addresses ← addresses found.nodes
  match ← elect env addresses with
  | none => throw .noControlPlaneMembers
  | some initiator =>
    let modeData ← PassM.askAs
      (fun e => .kubernetesApi s!"could not determine node mode: {e.message}")
      (env.configMap ns.operator Names.nodeModeConfig)
    let gatewayMode ← gatewayMode env ns spec
    let flow ← flowSettings env ns
    let master ← tier env ns Names.masterWorkload
    let node ← tier env ns Names.nodeWorkload
    let prepuller ← tier env ns Names.prepullerWorkload
    return {
      addresses
      initiator
      expectedReplicas := expected
      timedOut := found.timedOut
      topology := infra.topology
      platform := infra.platform
      nodeMode := .ofSetting (modeData.bind (·.get? "mode"))
      gatewayMode
      flow
      tiers := { master, node, prepuller } }

theorem keepsDeadlines_expectedReplicas : KeepsDeadlines (expectedReplicas env) := by
  refine KeepsDeadlines.bind (.askAs _ _) ?_
  rintro (_ | data)
  · exact .throw _
  · dsimp only
    cases data.get? Names.installConfigKey with
    | none => exact .pure 0
    | some document =>
      dsimp only
      cases InstallConfig.replicas? document with
      | none => exact .throw _
      | some n => exact .pure n

theorem keepsDeadlines_survey : KeepsDeadlines (survey env) := by
  refine KeepsDeadlines.bind (.askAs _ _) fun infra => ?_
  dsimp only
  split
  case isTrue =>
    exact .bind (.throw _) fun _ => .bind keepsDeadlines_expectedReplicas fun _ => .pure _
  case isFalse => exact .bind keepsDeadlines_expectedReplicas fun _ => .pure _

theorem keepsDeadlines_gatewayMode (ns : Namespaces) (spec : NetworkSpec) :
    KeepsDeadlines (gatewayMode env ns spec) := by
  unfold gatewayMode
  cases spec.overlay.bind (·.gateway) with
  | some gateway => exact .pure _
  | none =>
    refine KeepsDeadlines.bind (.attempt _) ?_
    rintro (e | data) <;> exact .pure _

theorem keepsDeadlines_flowSettings (ns : Namespaces) :
    KeepsDeadlines (flowSettings env ns) := by
  refine KeepsDeadlines.bind (.attempt _) ?_
  rintro (e | data) <;> exact .pure _

theorem keepsDeadlines_complete (ns : Namespaces) (spec : NetworkSpec)
    (surveyed : Infrastructure × Nat) (found : Discovery) :
    KeepsDeadlines (complete env ns spec surveyed found) := by
  refine KeepsDeadlines.bind (.lift _) fun members => ?_
  refine KeepsDeadlines.bind (keepsDeadlines_elect members) ?_
  rintro (_ | initiator)
  · exact .throw _
  · exact .bind (.askAs _ _) fun modeData => .bind (keepsDeadlines_gatewayMode ns spec)
      fun gatewayMode => .bind (keepsDeadlines_flowSettings ns) fun flow =>
      .bind (.askAs _ _) fun master => .bind (.askAs _ _) fun node =>
      .bind (.askAs _ _) fun prepuller => .pure _

/-- The facts tell whether the discovery ran into its deadline, and the addresses of the nodes that
it found. -/
theorem yields_complete (ns : Namespaces) (spec : NetworkSpec) (surveyed : Infrastructure × Nat)
    (found : Discovery) :
    Yields (fun s => s.timedOut = found.timedOut ∧ addresses found.nodes = .ok s.addresses)
      (complete env ns spec surveyed found) := by
  intro run
  unfold complete
  dsimp only
  rw [ends_bind, ends_lift]
  cases hmembers : addresses found.nodes with
  | error e => rintro s ⟨⟩
  | ok members =>
    refine Yields.bind ?_ run
    rintro (_ | initiator)
    · rintro run s ⟨⟩
    · exact Yields.bind fun modeData => Yields.bind fun gatewayMode => Yields.bind fun flow =>
        Yields.bind fun master => Yields.bind fun node => Yields.bind fun prepuller =>
        Yields.pure ⟨rfl, rfl⟩

end Bootstrap

/-- A bootstrap surveys, discovers and completes. -/
theorem bootstrap_eq (ns : Namespaces) (target : String) (spec : NetworkSpec) :
    bootstrap env ns target spec = (do
      let surveyed ← Bootstrap.survey env
      let found ← Bootstrap.discover env target surveyed.2
      Bootstrap.complete env ns spec surveyed found) := by
  unfold bootstrap Bootstrap.survey
  rw [bind_assoc]
  refine bind_congr fun infra => ?_
  dsimp only
  split
  case isTrue => rfl
  case isFalse =>
    rw [bind_assoc]
    rfl

/-! ## The discovery of a preparation -/

namespace Prepared

/-- What a preparation does before its bootstrap: it completes the spec and checks it. -/
def accept (env : Surroundings σ) (spec : NetworkSpec) (hostMtu : UInt32) :
    PassM σ NetworkSpec := do
  let previous ← appliedSpec env
  let spec := spec.fillDefaults previous hostMtu
  let faults := faults previous spec
  if faults ≠ [] then throw (.invalidConfig faults)
  return spec

theorem keepsDeadlines_accept (spec : NetworkSpec) (hostMtu : UInt32) :
    KeepsDeadlines (accept env spec hostMtu) := by
  refine KeepsDeadlines.bind (.bind (.ask _) fun _ => .pure _) fun previous => ?_
  dsimp only
  split
  case isTrue => exact .bind (.throw _) fun _ => .pure _
  case isFalse => exact .pure _

end Prepared

/-- A preparation accepts its spec, bootstraps and decides. -/
theorem prepare_eq (ns : Namespaces) (target : String) (spec : NetworkSpec) (release : String)
    (hostMtu : UInt32) :
    prepare env ns target spec release hostMtu = (do
      let accepted ← Prepared.accept env spec hostMtu
      let snapshot ← bootstrap env ns target accepted
      return Prepared.ofSnapshot accepted release snapshot) := by
  unfold prepare Prepared.accept
  rw [bind_assoc]
  refine bind_congr fun previous => ?_
  dsimp only
  split
  case isTrue => rfl
  case isFalse => rfl

/-- A discovery: the deadline that it has, in seconds, and how it ends. -/
structure HeldDiscovery where
  deadline : Nat
  outcome : Except Failure Discovery

/-- Whether a discovery runs into its deadline. One that fails does not. -/
def HeldDiscovery.timedOut (d : HeldDiscovery) : Bool :=
  match d.outcome with
  | .ok found => found.timedOut
  | .error _ => false

/-- All that a preparation does before its discovery. -/
def beforeDiscovery (env : Surroundings σ) (spec : NetworkSpec) (hostMtu : UInt32) :
    PassM σ (NetworkSpec × Infrastructure × Nat) := do
  let accepted ← Prepared.accept env spec hostMtu
  return (accepted, ← Bootstrap.survey env)

theorem prepare_eq_beforeDiscovery (ns : Namespaces) (target : String) (spec : NetworkSpec)
    (release : String) (hostMtu : UInt32) :
    prepare env ns target spec release hostMtu = (do
      let (accepted, surveyed) ← beforeDiscovery env spec hostMtu
      let found ← Bootstrap.discover env target surveyed.2
      let snapshot ← Bootstrap.complete env ns accepted surveyed found
      return Prepared.ofSnapshot accepted release snapshot) := by
  rw [prepare_eq]
  unfold beforeDiscovery
  rw [bind_assoc]
  refine bind_congr fun accepted => ?_
  rw [bootstrap_eq, bind_assoc, bind_assoc]
  refine bind_congr fun surveyed => ?_
  rw [bind_assoc, pure_bind]

theorem keepsDeadlines_beforeDiscovery (spec : NetworkSpec) (hostMtu : UInt32) :
    KeepsDeadlines (beforeDiscovery env spec hostMtu) :=
  .bind (Prepared.keepsDeadlines_accept spec hostMtu) fun _ =>
    .bind Bootstrap.keepsDeadlines_survey fun _ => .pure _

/-- The deadlines after a discovery: that of its target shrinks if the discovery ran into it. -/
def Deadlines.afterDiscovery (ds : Deadlines) (target : String) (d : HeldDiscovery) : Deadlines :=
  if d.timedOut then ds.recordTimeout target else ds

/-- Only a timeout changes a deadline, and only that of the target. -/
theorem Deadlines.of_afterDiscovery (ds : Deadlines) (target : String) (d : HeldDiscovery)
    (other : String) : (ds.afterDiscovery target d).of other =
      if target = other ∧ d.timedOut then (ds.of other).afterTimeout else ds.of other := by
  unfold afterDiscovery
  cases d.timedOut with
  | false => simp
  | true =>
    by_cases h : target = other
    · subst h
      simpa using ds.of_recordTimeout_self target
    · simpa [h] using ds.of_recordTimeout_ne (Ne.symm h)

/-- The discovery that a target holds from a state of a preparation. -/
def discoveryFrom (env : Surroundings σ) (target : String) (expected : Nat) (run : Run σ) :
    HeldDiscovery where
  deadline := (run.deadlines.of target).current
  outcome := ((Bootstrap.discover env target expected).run.run run).1

/-- The discovery that a preparation holds, if nothing fails before it. -/
def discovery? (env : Surroundings σ) (target : String) (spec : NetworkSpec) (hostMtu : UInt32)
    (run : Run σ) : Option HeldDiscovery :=
  match (beforeDiscovery env spec hostMtu).run.run run with
  | (.error _, _) => none
  | (.ok (_, _, expected), run) => some (discoveryFrom env target expected run)

theorem ends_discover_deadlines (target : String) (expected : Nat) (run : Run σ) :
    Ends (Bootstrap.discover env target expected) run fun answer run' =>
      answer = (discoveryFrom env target expected run).outcome ∧
        run'.deadlines =
          run.deadlines.afterDiscovery target (discoveryFrom env target expected run) :=
  ⟨rfl, rfl⟩

/-- From the discovery on, the deadlines are those after it, and the facts tell of it. -/
theorem ends_from_discovery (ns : Namespaces) (target : String) (accepted : NetworkSpec)
    (surveyed : Infrastructure × Nat) (release : String) (run : Run σ) :
    Ends (do
        let found ← Bootstrap.discover env target surveyed.2
        let snapshot ← Bootstrap.complete env ns accepted surveyed found
        return Prepared.ofSnapshot accepted release snapshot) run fun answer run' =>
      run'.deadlines =
          run.deadlines.afterDiscovery target (discoveryFrom env target surveyed.2 run) ∧
        ∀ p, answer = .ok p →
          p.snapshot.timedOut = (discoveryFrom env target surveyed.2 run).timedOut := by
  refine Ends.bind (ends_discover_deadlines target surveyed.2 run) ?_ ?_
  · rintro e run₁ ⟨-, hdeadlines⟩
    refine ⟨hdeadlines, ?_⟩
    rintro p ⟨⟩
  rintro found run₁ ⟨houtcome, hdeadlines⟩
  have hfound : (discoveryFrom env target surveyed.2 run).timedOut = found.timedOut := by
    unfold HeldDiscovery.timedOut
    rw [← houtcome]
  have hcomplete : Ends (Bootstrap.complete env ns accepted surveyed found) run₁
      fun answer run' => run'.deadlines = run₁.deadlines ∧
        ∀ s, answer = .ok s → s.timedOut = found.timedOut :=
    ⟨Bootstrap.keepsDeadlines_complete ns accepted surveyed found run₁,
      fun s hs => (Bootstrap.yields_complete ns accepted surveyed found run₁ s hs).1⟩
  refine Ends.bind hcomplete ?_ ?_
  · rintro e run₂ ⟨hkept, -⟩
    refine ⟨hkept.trans hdeadlines, ?_⟩
    rintro p ⟨⟩
  · rintro snapshot run₂ ⟨hkept, htells⟩
    refine ends_pure.mpr ⟨hkept.trans hdeadlines, ?_⟩
    rintro p ⟨⟩
    rw [hfound]
    exact htells snapshot rfl

/-- How a preparation ends, by its discovery. Without one it fails, and keeps the deadlines. With
one, the deadlines are those after the discovery, whatever comes of the preparation; and if it
succeeds, its facts tell whether the deadline was reached. -/
theorem ends_prepare_discovery (ns : Namespaces) (target : String) (spec : NetworkSpec)
    (release : String) (hostMtu : UInt32) (run : Run σ) :
    Ends (prepare env ns target spec release hostMtu) run fun answer run' =>
      match discovery? env target spec hostMtu run with
      | none => run'.deadlines = run.deadlines ∧ ∃ e, answer = .error e
      | some d => d.deadline = (run.deadlines.of target).current ∧
          run'.deadlines = run.deadlines.afterDiscovery target d ∧
            ∀ p, answer = .ok p → p.snapshot.timedOut = d.timedOut := by
  have hbefore : Ends (beforeDiscovery env spec hostMtu) run fun answer run' =>
      (answer, run') = (beforeDiscovery env spec hostMtu).run.run run ∧
        run'.deadlines = run.deadlines :=
    ⟨rfl, keepsDeadlines_beforeDiscovery spec hostMtu run⟩
  rw [prepare_eq_beforeDiscovery]
  refine Ends.bind hbefore ?_ ?_
  · rintro e run₁ ⟨hrun, hkept⟩
    unfold discovery?
    rw [← hrun]
    exact ⟨hkept, e, rfl⟩
  · rintro ⟨accepted, surveyed⟩ run₁ ⟨hrun, hkept⟩
    unfold discovery?
    rw [← hrun]
    refine (ends_from_discovery ns target accepted surveyed release run₁).mono ?_
    rintro answer run₂ ⟨hdeadlines, htells⟩
    rw [hkept] at hdeadlines
    exact ⟨congrArg (fun ds => (ds.of target).current) hkept, hdeadlines, htells⟩

end NetworkRollout
