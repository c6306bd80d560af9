import NetworkRollout.Proofs.Bootstrap.Deadlines
import NetworkRollout.Proofs.Server.LostConfig

/-!
# A preparation without a config map

Two preparations go side by side, of which the first cannot read a config map and the other does
not find it. They take the same steps to the same end. In the first one, a request that fails ends
the preparation, unless it is for a setting that has a default.

* `Run.Lacks`, `Accompanied`: two preparations, and a step of them.
* `accompanied_bootstrap`, `accompanied_prepare`: whole bootstraps and preparations.
-/

namespace NetworkRollout

open PassM Server

variable {α β : Type} {c : LostConfig} {faults : Faults} {network : String}

/-! ## Two preparations -/

/-- Two states of a preparation that differ by the config map, which the second one lacks. -/
structure Run.Lacks (c : LostConfig) (run run' : Run Server) : Prop where
  world : Server.Lacks c run.world run'.world
  deadlines : run'.deadlines = run.deadlines
  elapsed : run'.elapsed = run.elapsed

/-- Two preparations, the first one with faults. -/
def preparations (c : LostConfig) (faults : Faults) : Shadowing (Run Server) where
  faults := faults
  lost := .readConfig c.name
  log run := run.world.requests
  Rel := Run.Lacks c
  exists_rel run := ⟨{ run with world := run.world.without c }, lacks_without run.world c, rfl, rfl⟩

theorem Run.Lacks.asked {ε : Type} {Tells : ε → Prop} {run run' : Run Server}
    {p p' : Except ε α × Server} (hrun : Run.Lacks c run run')
    (h : Shadowed ((tracks_lacks c).shadowing faults) Tells run.world p p') :
    Shadowed (preparations c faults) Tells run (p.1, { run with world := p.2 })
      (p'.1, { run' with world := p'.2 }) where
  grows := h.grows
  told := h.told
  same hdenies := by
    obtain ⟨hanswer, hworld⟩ := h.same hdenies
    exact ⟨hanswer, hworld, hrun.deadlines, hrun.elapsed⟩

/-- A step of the first preparation, and one of the other in its place. -/
def Accompanied (c : LostConfig) (faults : Faults) (step step' : PassM Server α) : Prop :=
  ∀ run run', Run.Lacks c run run' →
    Shadowed (preparations c faults) Failure.Tells run (step.run.run run) (step'.run.run run')

theorem run_bind_eq_andThen (x : PassM Server α) (f : α → PassM Server β) (run : Run Server) :
    (x >>= f).run.run run = andThen (x.run.run run) fun a run => (f a).run.run run := by
  rw [run_bind]
  rcases x.run.run run with ⟨_ | _, run'⟩ <;> rfl

namespace Accompanied

theorem pure (a : α) : Accompanied c faults (pure a) (pure a) :=
  fun _ _ hrun => .done hrun (.ok a)

theorem throw (e : Failure) : Accompanied c faults (throw e : PassM Server α) (throw e) :=
  fun _ _ hrun => .done hrun (.error e)

theorem lift (x : Except Failure α) :
    Accompanied c faults (liftM x : PassM Server α) (liftM x) := by
  cases x with
  | error e => exact throw e
  | ok a => exact pure a

theorem bind {x x' : PassM Server α} {f f' : α → PassM Server β} (hx : Accompanied c faults x x')
    (hf : ∀ a, Accompanied c faults (f a) (f' a)) : Accompanied c faults (x >>= f) (x' >>= f') := by
  intro run run' hrun
  rw [run_bind_eq_andThen, run_bind_eq_andThen]
  exact (hx run run' hrun).andThen hf

theorem ask {question question' : Server → Except Failure α × Server}
    (h : ∀ s t, Server.Lacks c s t →
      Shadowed ((tracks_lacks c).shadowing faults) Failure.Tells s (question s) (question' t)) :
    Accompanied c faults (PassM.ask question) (PassM.ask question') := by
  intro run run' hrun
  rw [run_ask, run_ask]
  exact hrun.asked (h run.world run'.world hrun.world)

theorem askAs {question question' : Server → Except Failure α × Server} {cause : Failure → Failure}
    (h : ∀ s t, Server.Lacks c s t →
      Shadowed ((tracks_lacks c).shadowing faults) Failure.Tells s (question s) (question' t))
    (hcause : ∀ e, (cause e).Tells) :
    Accompanied c faults (PassM.askAs cause question) (PassM.askAs cause question') := by
  intro run run' hrun
  rw [run_askAs, run_askAs]
  exact hrun.asked ((h run.world run'.world hrun.world).mapError cause fun e _ => hcause e)

end Accompanied

/-! ## Questions -/

theorem accompanied_recorded (key : String) :
    Accompanied c faults (PassM.ask ((surroundings faults network).recorded key))
      (PassM.ask ((surroundings (faults.without c) network).recorded key)) :=
  .ask fun _ _ hst => (tracks_lacks c).shadowed_recorded faults hst network key

theorem accompanied_elect (members : List String) :
    Accompanied c faults (elect (surroundings faults network) members)
      (elect (surroundings (faults.without c) network) members) := by
  refine .bind (accompanied_recorded _) fun recorded => ?_
  cases chooseInitiator recorded members with
  | none => exact .pure none
  | some chosen =>
    dsimp only
    split
    case isTrue =>
      exact .bind (.ask fun _ _ hst => (tracks_lacks c).shadowed_record faults hst network _ chosen)
        fun _ => .pure _
    case isFalse => exact .pure _

/-- A config map that a pass needs. -/
theorem accompanied_configMap {cause : Failure → Failure} (hcause : ∀ e, (cause e).Tells)
    (namespaceName : String) {name : String} (hother : name ≠ c.name) :
    Accompanied c faults
      (PassM.askAs cause ((surroundings faults network).configMap namespaceName name))
      (PassM.askAs cause
        ((surroundings (faults.without c) network).configMap namespaceName name)) :=
  .askAs (fun _ _ hst => (tracks_lacks c).shadowed_configMap faults hst namespaceName hother) hcause

/-- A config map that a pass can do without. -/
theorem accompanied_optional {name : String} (hname : name ∈ optionalConfigs)
    {step : Except Failure (Option TextMap) → PassM Server β} (g : Option TextMap → β)
    (hok : ∀ data, step (.ok data) = pure (g data))
    (herror : ∀ e, step (.error e) = pure (g none)) :
    Accompanied c faults
      (PassM.attempt ((surroundings faults network).configMap c.namespaceName name) >>= step)
      (PassM.attempt ((surroundings (faults.without c) network).configMap c.namespaceName name) >>=
        step) := by
  obtain rfl : step = fun answer => pure (g (answer.toOption.getD none)) := by
    funext answer
    cases answer with
    | ok data => exact hok data
    | error e => exact herror e
  exact fun _ _ hrun => hrun.asked
    (shadowed_optional (g := fun answer => g (answer.toOption.getD none)) hrun.world hname
      fun _ => rfl)

namespace Bootstrap

theorem accompanied_expectedReplicas (hother : Names.clusterConfigName ≠ c.name) :
    Accompanied c faults (expectedReplicas (surroundings faults network))
      (expectedReplicas (surroundings (faults.without c) network)) := by
  refine .bind (accompanied_configMap (by exact fun _ => rfl) _ hother) ?_
  rintro (_ | data)
  · exact .throw _
  · dsimp only
    cases data.get? Names.installConfigKey with
    | none => exact .pure 0
    | some document =>
      dsimp only
      cases InstallConfig.replicas? document with
      | none => exact .throw _
      | some n => exact .pure n

theorem accompanied_survey (hother : Names.clusterConfigName ≠ c.name) :
    Accompanied c faults (survey (surroundings faults network))
      (survey (surroundings (faults.without c) network)) := by
  refine .bind (.askAs (fun _ _ hst => (tracks_lacks c).shadowed_infrastructure faults hst)
    fun _ => rfl) fun infra => ?_
  dsimp only
  split
  case isTrue =>
    exact .bind (.throw _) fun _ => .bind (accompanied_expectedReplicas hother) fun _ => .pure _
  case isFalse => exact .bind (accompanied_expectedReplicas hother) fun _ => .pure _

theorem accompanied_gatewayMode {ns : Namespaces} (hns : c.namespaceName = ns.operator)
    (spec : NetworkSpec) :
    Accompanied c faults (gatewayMode (surroundings faults network) ns spec)
      (gatewayMode (surroundings (faults.without c) network) ns spec) := by
  unfold gatewayMode
  cases spec.overlay.bind (·.gateway) with
  | some gateway => exact .pure _
  | none =>
    rw [← hns]
    exact accompanied_optional List.mem_cons_self
      (fun data => .ofSetting (data.bind (·.get? "mode"))) (fun _ => rfl) fun _ => rfl

theorem accompanied_flowSettings {ns : Namespaces} (hns : c.namespaceName = ns.operator) :
    Accompanied c faults (flowSettings (surroundings faults network) ns)
      (flowSettings (surroundings (faults.without c) network) ns) := by
  unfold flowSettings
  rw [← hns]
  exact accompanied_optional (List.mem_cons_of_mem _ List.mem_cons_self)
    (fun data => data.bind FlowSettings.ofData?) (fun _ => rfl) fun _ => rfl

theorem accompanied_tier (ns : Namespaces) (name : String) :
    Accompanied c faults (tier (surroundings faults network) ns name)
      (tier (surroundings (faults.without c) network) ns name) :=
  .askAs (fun _ _ hst => (tracks_lacks c).shadowed_workload faults hst ns.datapath name)
    fun _ => rfl

end Bootstrap

/-! ## Discovering the members -/

namespace Discovery

variable {ask : Server → Listing × Server}

/-- A polling whose listings take no time looks at every answer, and so it fails if a listing does.
The induction follows the listings. -/
theorem poll_told (hgrows : ∀ s, s.requests <+: (ask s).2.requests)
    (hprompt : ∀ s, (ask s).1.delay = 0)
    (htold : ∀ s, faults.Hit s.requests (ask s).2.requests → ∃ e, (ask s).1.answer = .error e)
    (p : Polling) (expected due now calls : Nat) (seen : List MemberNode) (s : Server) :
    let d := poll ask p expected due now calls seen s
    s.requests <+: d.world.requests ∧
      (faults.Hit s.requests d.world.requests → ∃ e, d.outcome = .error e) := by
  dsimp only
  fun_induction poll ask p expected due now calls seen s with
  | case1 due now calls seen s start hbegins l next hasked readyAt hintime e hanswer =>
    have hnext := hgrows s
    rw [hasked] at hnext
    exact ⟨hnext, fun _ => ⟨_, rfl⟩⟩
  | case2 due now calls seen s start hbegins l next hasked readyAt hintime nodes hanswer
      hcomplete =>
    have hnext := hgrows s
    have hfails := htold s
    rw [hasked] at hnext hfails
    refine ⟨hnext, fun hhit => ?_⟩
    obtain ⟨e, he⟩ := hfails hhit
    cases hanswer.symm.trans he
  | case3 due now calls seen s start hbegins l next hasked readyAt hintime nodes hanswer hcomplete
      ih =>
    have hnext := hgrows s
    have hfails := htold s
    rw [hasked] at hnext hfails
    refine ⟨hnext.trans ih.1, fun hhit => ?_⟩
    rcases hhit.split ih.1 with hfirst | hrest
    · obtain ⟨e, he⟩ := hfails hfirst
      cases hanswer.symm.trans he
    · exact ih.2 hrest
  | case4 due now calls seen s start hbegins l next hasked readyAt hlate =>
    have hdelay := hprompt s
    rw [hasked] at hdelay
    refine absurd ?_ hlate
    change start + l.delay ≤ p.deadline
    rw [(hdelay : l.delay = 0)]
    exact hbegins
  | case5 due now calls seen s start hover =>
    exact ⟨List.prefix_rfl, fun hhit => absurd hhit (Faults.not_hit_self faults s.requests)⟩

/-- A discovery fails with a listing of its nodes. -/
theorem run_told (ask : Server → Listing × Server)
    (hgrows : ∀ s, s.requests <+: (ask s).2.requests) (hprompt : ∀ s, (ask s).1.delay = 0)
    (htold : ∀ s, faults.Hit s.requests (ask s).2.requests → ∃ e, (ask s).1.answer = .error e)
    (p : Polling) (expected : Nat) (s : Server) :
    let d := run ask p expected s
    s.requests <+: d.world.requests ∧
      (faults.Hit s.requests d.world.requests → ∃ e, d.outcome = .error e ∧ e.Tells) := by
  obtain ⟨hlog, hfails⟩ := poll_told hgrows hprompt htold p expected 0 0 0 [] s
  refine ⟨hlog, fun hhit => ?_⟩
  obtain ⟨e, he⟩ := hfails hhit
  have hshows : Shows ask (fun _ _ => True) [] s (run ask p expected s) :=
    run_shows (fun _ => trivial) (fun _ _ => trivial) (fun _ => trivial) p expected s
  obtain ⟨detail, rfl⟩ := hshows.failure e he
  exact ⟨_, he, rfl⟩

end Discovery

namespace Bootstrap

theorem discovery_alike (faults : Faults) (network target : String) (expected : Nat)
    {run run' : Run Server} (hrun : Run.Lacks c run run') :
    DiscoveryRun.Alike Eq (Server.Lacks c)
      (discoveryRun (surroundings faults network) target expected run)
      (discoveryRun (surroundings (faults.without c) network) target expected run') := by
  unfold discoveryRun
  rw [hrun.deadlines]
  refine Discovery.run_alike (by rintro _ _ rfl; rfl) (fun s t hst => ?_) rfl _ expected hrun.world
  obtain ⟨hanswer, hnext⟩ := (tracks_lacks c).controlPlaneNodes_same faults hst
  refine ⟨⟨rfl, ?_⟩, hnext⟩
  change (∃ e, (controlPlaneNodes faults s).1 = .error e ∧ _) ∨ _
  cases hlisted : (controlPlaneNodes faults s).1 with
  | error e => exact Or.inl ⟨e, rfl, hanswer.trans hlisted⟩
  | ok nodes => exact Or.inr ⟨nodes, nodes, hlisted, hanswer.trans hlisted, rfl⟩

theorem accompanied_discover (target : String) (expected : Nat) :
    Accompanied c faults (discover (surroundings faults network) target expected)
      (discover (surroundings (faults.without c) network) target expected) := by
  intro run run' hrun
  rw [run_discover, run_discover]
  have hlist := fun s => (tracks_lacks c).shadowed_controlPlaneNodes faults (lacks_without s c)
  have htold := Discovery.run_told (surroundings faults network).listNodes
    (fun s => (hlist s).grows) (fun _ => rfl)
    (fun s hhit => ((hlist s).told hhit).imp fun _ => And.left)
    (polling (run.deadlines.of target)) expected run.world
  have halike := discovery_alike faults network target expected hrun
  have houtcome : (discoveryRun (surroundings (faults.without c) network) target expected
      run').outcome = (discoveryRun (surroundings faults network) target expected run).outcome := by
    rcases halike.outcome with ⟨e, he, he'⟩ | ⟨nodes, _, timedOut, hd, hd', rfl⟩
    · rw [he, he']
    · rw [hd, hd']
  refine ⟨htold.1, htold.2, fun _ => ⟨houtcome, halike.world, ?_, ?_⟩⟩
  · unfold discovered
    dsimp only
    rw [houtcome, hrun.deadlines]
  · unfold discovered
    dsimp only
    rw [halike.elapsed, hrun.elapsed]

end Bootstrap

/-! ## Whole preparations -/

namespace Bootstrap

theorem accompanied_complete {ns : Namespaces} (hns : c.namespaceName = ns.operator)
    (hother : Names.nodeModeConfig ≠ c.name) (spec : NetworkSpec)
    (surveyed : Infrastructure × Nat) (found : Discovery) :
    Accompanied c faults (complete (surroundings faults network) ns spec surveyed found)
      (complete (surroundings (faults.without c) network) ns spec surveyed found) := by
  refine .bind (.lift _) fun members => ?_
  refine .bind (accompanied_elect members) ?_
  rintro (_ | initiator)
  · exact .throw _
  · exact .bind (accompanied_configMap (by exact fun _ => rfl) _ hother) fun modeData =>
      .bind (accompanied_gatewayMode hns spec) fun gatewayMode =>
      .bind (accompanied_flowSettings hns) fun flow =>
      .bind (accompanied_tier ns _) fun master => .bind (accompanied_tier ns _) fun node =>
      .bind (accompanied_tier ns _) fun prepuller => .pure _

end Bootstrap

theorem optional_ne {name other : String} (hname : name ∈ optionalConfigs)
    (hother : other ∉ optionalConfigs) : other ≠ name := fun heq => hother (heq ▸ hname)

theorem accompanied_bootstrap {ns : Namespaces} (hname : c.name ∈ optionalConfigs)
    (hns : c.namespaceName = ns.operator) (target : String) (spec : NetworkSpec) :
    Accompanied c faults (bootstrap (surroundings faults network) ns target spec)
      (bootstrap (surroundings (faults.without c) network) ns target spec) := by
  rw [bootstrap_eq, bootstrap_eq]
  refine .bind (Bootstrap.accompanied_survey (optional_ne hname (by decide))) fun surveyed => ?_
  refine .bind (Bootstrap.accompanied_discover target surveyed.2) fun found => ?_
  exact Bootstrap.accompanied_complete hns (optional_ne hname (by decide)) spec surveyed found

theorem accompanied_prepare {ns : Namespaces} (hname : c.name ∈ optionalConfigs)
    (hns : c.namespaceName = ns.operator) (target : String) (spec : NetworkSpec)
    (release : String) (hostMtu : UInt32) :
    Accompanied c faults (prepare (surroundings faults network) ns target spec release hostMtu)
      (prepare (surroundings (faults.without c) network) ns target spec release hostMtu) := by
  rw [prepare_eq, prepare_eq]
  refine .bind ?_ fun accepted =>
    .bind (accompanied_bootstrap hname hns target accepted) fun snapshot => .pure _
  refine .bind (.bind (accompanied_recorded _) fun _ => .pure _) fun previous => ?_
  dsimp only
  split
  case isTrue => exact .bind (.throw _) fun _ => .pure _
  case isFalse => exact .pure _

end NetworkRollout
