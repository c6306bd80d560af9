import NetworkRollout.Proofs.Membership.Discovery
import NetworkRollout.Proofs.Membership.Election
import NetworkRollout.Proofs.Readings

/-!
# What a bootstrap leaves behind

A bootstrap asks and elects. But for the election it only asks, so whatever questions keep is kept
on both sides of the election, and the election is held among the addresses of nodes that were
listed.

* `OnlyAsks`: steps that keep what questions keep.
* `Bootstrap.Listed`, `Bootstrap.mem_addresses_iff`: where the addresses come from.
* `Bootstrapped`, `ends_bootstrap`: how every bootstrap ends.
-/

namespace NetworkRollout

open PassM

variable {σ α β : Type} {env : Surroundings σ} {R : σ → σ → Prop}

/-- Whether a failure says that the desired network is at fault. -/
def Failure.IsInvalidConfig (e : Failure) : Prop := ∃ faults, e = .invalidConfig faults

/-! ## Steps that only ask -/

/-- A step that keeps what questions keep, and does not fail for a fault of the desired network. -/
def OnlyAsks (R : σ → σ → Prop) (step : PassM σ α) : Prop :=
  ∀ run, Ends step run fun answer run' =>
    R run.world run'.world ∧ ∀ e, answer = .error e → ¬ e.IsInvalidConfig

namespace OnlyAsks

theorem pure (h : env.AsksKeep R) (a : α) : OnlyAsks R (pure a : PassM σ α) := by
  intro run
  refine ⟨h.refl run.world, ?_⟩
  rintro e ⟨⟩

theorem throw (h : env.AsksKeep R) {e : Failure} (he : ¬ e.IsInvalidConfig) :
    OnlyAsks R (throw e : PassM σ α) := by
  intro run
  refine ⟨h.refl run.world, ?_⟩
  rintro _ ⟨⟩
  exact he

theorem bind (h : env.AsksKeep R) {x : PassM σ α} {f : α → PassM σ β} (hx : OnlyAsks R x)
    (hf : ∀ a, OnlyAsks R (f a)) : OnlyAsks R (x >>= f) := by
  intro run
  refine Ends.bind (hx run) ?_ ?_
  · rintro e run' ⟨hworld, hcause⟩
    refine ⟨hworld, ?_⟩
    rintro _ ⟨⟩
    exact hcause e rfl
  · rintro a run' ⟨hworld, -⟩
    refine (hf a run').mono ?_
    rintro answer run'' ⟨hrest, hcause⟩
    exact ⟨h.trans hworld hrest, hcause⟩

theorem attempt {question : σ → Except Failure α × σ} (hq : ∀ w, R w (question w).2) :
    OnlyAsks R (attempt question) := by
  intro run
  rw [ends_attempt]
  refine ⟨hq run.world, ?_⟩
  rintro e ⟨⟩

theorem askAs {cause : Failure → Failure} {question : σ → Except Failure α × σ}
    (hq : ∀ w, R w (question w).2) (hcause : ∀ e, ¬ (cause e).IsInvalidConfig) :
    OnlyAsks R (askAs cause question) := by
  intro run
  rw [ends_askAs]
  refine ⟨hq run.world, ?_⟩
  cases (question run.world).1 with
  | ok a => rintro e ⟨⟩
  | error e =>
    rintro _ ⟨⟩
    exact hcause e

end OnlyAsks

/-- What holds of every answer of a step. -/
def Yields (P : α → Prop) (step : PassM σ α) : Prop :=
  ∀ run, Ends step run fun answer _ => ∀ a, answer = .ok a → P a

theorem Yields.pure {P : α → Prop} {a : α} (ha : P a) : Yields P (pure a : PassM σ α) := by
  rintro run _ ⟨⟩
  exact ha

theorem Yields.bind {P : β → Prop} {x : PassM σ α} {f : α → PassM σ β}
    (hf : ∀ a, Yields P (f a)) : Yields P (x >>= f) := by
  intro run
  rw [ends_bind]
  unfold Ends
  cases (x.run.run run).1 with
  | error e => rintro _ ⟨⟩
  | ok a => exact hf a _

theorem OnlyAsks.ends_of_yields {P : α → Prop} {step : PassM σ α} {run : Run σ}
    {Q : Except Failure α → Run σ → Prop} (hasks : OnlyAsks R step) (hyields : Yields P step)
    (hQ : ∀ answer run', R run.world run'.world →
      (∀ e, answer = .error e → ¬ e.IsInvalidConfig) → (∀ a, answer = .ok a → P a) →
      Q answer run') : Ends step run Q :=
  hQ _ _ (hasks run).1 (hasks run).2 (hyields run)

/-! ## The parts of a bootstrap -/

namespace Bootstrap

theorem onlyAsks_expectedReplicas (h : env.AsksKeep R) : OnlyAsks R (expectedReplicas env) := by
  refine OnlyAsks.bind h (OnlyAsks.askAs (h.configMap _ _) (by rintro e ⟨_, ⟨⟩⟩)) ?_
  rintro (_ | data)
  · exact OnlyAsks.throw h (by rintro ⟨_, ⟨⟩⟩)
  · dsimp only
    cases data.get? Names.installConfigKey with
    | none => exact OnlyAsks.pure h 0
    | some document =>
      dsimp only
      cases InstallConfig.replicas? document with
      | none => exact OnlyAsks.throw h (by rintro ⟨_, ⟨⟩⟩)
      | some n => exact OnlyAsks.pure h n

theorem onlyAsks_gatewayMode (h : env.AsksKeep R) (ns : Namespaces) (spec : NetworkSpec) :
    OnlyAsks R (gatewayMode env ns spec) := by
  unfold gatewayMode
  cases spec.overlay.bind (·.gateway) with
  | some gateway => exact OnlyAsks.pure h _
  | none =>
    refine OnlyAsks.bind h (OnlyAsks.attempt (h.configMap _ _)) ?_
    rintro (e | data) <;> exact OnlyAsks.pure h _

theorem onlyAsks_flowSettings (h : env.AsksKeep R) (ns : Namespaces) :
    OnlyAsks R (flowSettings env ns) := by
  refine OnlyAsks.bind h (OnlyAsks.attempt (h.configMap _ _)) ?_
  rintro (e | data) <;> exact OnlyAsks.pure h _

theorem onlyAsks_tier (h : env.AsksKeep R) (ns : Namespaces) (name : String) :
    OnlyAsks R (tier env ns name) :=
  OnlyAsks.askAs (h.workload _ _) (by rintro e ⟨_, ⟨⟩⟩)

/-- The nodes are those of a listing in a world that questions lead to, or none. -/
def Listed (env : Surroundings σ) (R : σ → σ → Prop) (first : σ) (nodes : List MemberNode) : Prop :=
  nodes = [] ∨ ∃ w, R first w ∧ (env.listNodes w).1.answer = .ok nodes

theorem Listed.of_asked (h : env.AsksKeep R) {first w : σ} {nodes : List MemberNode}
    (hw : R first w) (hlisted : Listed env R w nodes) : Listed env R first nodes :=
  hlisted.imp_right fun ⟨w', hw', hanswer⟩ => ⟨w', h.trans hw hw', hanswer⟩

/-- How the discovery of a target goes, with the deadline of the target. -/
def discoveryRun (env : Surroundings σ) (target : String) (expected : Nat) (run : Run σ) :
    DiscoveryRun σ :=
  Discovery.run env.listNodes (polling (run.deadlines.of target)) expected run.world

/-- The state after a discovery. -/
def discovered (env : Surroundings σ) (target : String) (expected : Nat) (run : Run σ) : Run σ :=
  let d := discoveryRun env target expected run
  let timedOut := match d.outcome with
    | .ok found => found.timedOut
    | .error _ => false
  { world := d.world
    elapsed := run.elapsed + d.elapsed
    deadlines := if timedOut then run.deadlines.recordTimeout target else run.deadlines }

theorem run_discover (env : Surroundings σ) (target : String) (expected : Nat) (run : Run σ) :
    (discover env target expected).run.run run =
      ((discoveryRun env target expected run).outcome, discovered env target expected run) := by
  change (set (discovered env target expected run) >>= fun _ =>
    (liftM (discoveryRun env target expected run).outcome : PassM σ Discovery)).run.run run = _
  rw [run_bind]
  cases (discoveryRun env target expected run).outcome <;> rfl

theorem ends_discover (h : env.AsksKeep R) (target : String) (expected : Nat) (run : Run σ) :
    Ends (discover env target expected) run fun answer run' =>
      (R run.world run'.world ∧ ∀ e, answer = .error e → ¬ e.IsInvalidConfig) ∧
        ∀ found, answer = .ok found → Listed env R run.world found.nodes := by
  have hshows := Discovery.run_shows h.refl h.trans h.listNodes
    (polling (run.deadlines.of target)) expected run.world
  unfold Ends
  rw [run_discover]
  refine ⟨⟨hshows.world, ?_⟩, hshows.nodes⟩
  intro e he
  obtain ⟨detail, rfl⟩ := hshows.failure e he
  rintro ⟨_, ⟨⟩⟩

theorem address_eq_ok_iff {node : MemberNode} {a : String} :
    address node = .ok a ↔ node.address = some a := by
  unfold address
  cases node.address <;> simp

/-- The addresses that are found are those of the nodes, in their order. -/
theorem filterMap_of_mapM_address {nodes : List MemberNode} {found : List String}
    (h : nodes.mapM address = .ok found) : found = nodes.filterMap (·.address) := by
  have hfound := mapM_eq_ok_iff_forall₂.mp h
  clear h
  induction hfound with
  | nil => rfl
  | cons hfirst _ ih => rw [List.filterMap_cons_some (address_eq_ok_iff.mp hfirst), ← ih]

theorem mapM_address_ok {nodes : List MemberNode} {found : List String}
    (h : nodes.mapM address = .ok found) (a : String) :
    a ∈ found ↔ ∃ node ∈ nodes, node.address = some a := by
  rw [filterMap_of_mapM_address h, List.mem_filterMap]

theorem address_error {node : MemberNode} {e : Failure} (h : address node = .error e) :
    ∃ name, e = .noInternalAddress name := by
  unfold address at h
  cases hnode : node.address with
  | none =>
    rw [hnode] at h
    cases h
    exact ⟨node.name, rfl⟩
  | some b =>
    rw [hnode] at h
    cases h

theorem addresses_error {nodes : List MemberNode} {e : Failure} (h : addresses nodes = .error e) :
    ¬ e.IsInvalidConfig := by
  unfold addresses at h
  cases hfound : nodes.mapM address with
  | ok found =>
    rw [hfound] at h
    cases h
  | error e' =>
    rw [hfound] at h
    cases h
    obtain ⟨node, -, hfails⟩ := exists_error_of_mapM hfound
    obtain ⟨name, rfl⟩ := address_error hfails
    rintro ⟨_, ⟨⟩⟩

/-- The addresses are those that the nodes report. -/
theorem mem_addresses_iff {nodes : List MemberNode} {members : List String}
    (h : addresses nodes = .ok members) (a : String) :
    a ∈ members ↔ ∃ node ∈ nodes, node.address = some a := by
  unfold addresses at h
  cases hfound : nodes.mapM address with
  | error e =>
    rw [hfound] at h
    cases h
  | ok found =>
    rw [hfound] at h
    cases h
    rw [List.mem_mergeSort, mapM_address_ok hfound]

end Bootstrap

/-! ## Whole bootstraps -/

/-- How a bootstrap ends: without an election, or with one among the addresses of listed nodes. On
both sides of the election there are only questions. -/
inductive Bootstrapped (env : Surroundings σ) (R : σ → σ → Prop) (run : Run σ) :
    Except Failure Snapshot → Run σ → Prop
  | unelected {e : Failure} {run' : Run σ} (hworld : R run.world run'.world)
      (hcause : ¬ e.IsInvalidConfig) : Bootstrapped env R run (.error e) run'
  | elected {nodes : List MemberNode} {members : List String} {before after run' : Run σ}
      {outcome : Except Failure (Option String)} {answer : Except Failure Snapshot}
      (hbefore : R run.world before.world) (hlisted : Bootstrap.Listed env R run.world nodes)
      (hmembers : Bootstrap.addresses nodes = .ok members)
      (helection : Election env members before outcome after)
      (hafter : R after.world run'.world) (hfailed : ∀ e, outcome = .error e → answer = .error e)
      (hcause : ∀ chosen, outcome = .ok chosen → ∀ e, answer = .error e → ¬ e.IsInvalidConfig)
      (hsnapshot : ∀ s, answer = .ok s →
        outcome = .ok (some s.initiator) ∧ s.addresses = members) :
      Bootstrapped env R run answer run'

namespace Bootstrapped

variable {run before after : Run σ} {nodes : List MemberNode} {members : List String}

theorem of_unelected {e : Failure} (h : env.AsksKeep R) (hbefore : R run.world before.world)
    (hlisted : Bootstrap.Listed env R run.world nodes)
    (hmembers : Bootstrap.addresses nodes = .ok members)
    (helection : Election env members before (.error e) after) :
    Bootstrapped env R run (.error e) after := by
  refine .elected hbefore hlisted hmembers helection (h.refl after.world) ?_ ?_ ?_
  · rintro _ ⟨⟩
    rfl
  · rintro chosen ⟨⟩
  · rintro s ⟨⟩

theorem of_nobody (h : env.AsksKeep R) (hbefore : R run.world before.world)
    (hlisted : Bootstrap.Listed env R run.world nodes)
    (hmembers : Bootstrap.addresses nodes = .ok members)
    (helection : Election env members before (.ok none) after) :
    Bootstrapped env R run (.error .noControlPlaneMembers) after := by
  refine .elected hbefore hlisted hmembers helection (h.refl after.world) ?_ ?_ ?_
  · rintro e ⟨⟩
  · rintro chosen ⟨⟩ e ⟨⟩ ⟨_, ⟨⟩⟩
  · rintro s ⟨⟩

/-- When there is an initiator, what follows the election only asks, and puts it into the
snapshot. -/
theorem ends_of_chosen {initiator : String} {step : PassM σ Snapshot}
    (hbefore : R run.world before.world) (hlisted : Bootstrap.Listed env R run.world nodes)
    (hmembers : Bootstrap.addresses nodes = .ok members)
    (helection : Election env members before (.ok (some initiator)) after)
    (hasks : OnlyAsks R step)
    (hyields : Yields (fun s => s.addresses = members ∧ s.initiator = initiator) step) :
    Ends step after (Bootstrapped env R run) := by
  refine hasks.ends_of_yields hyields ?_
  intro answer run' hafter hcause hsnapshot
  refine .elected hbefore hlisted hmembers helection hafter ?_ (fun _ _ => hcause) ?_
  · rintro e ⟨⟩
  · intro s hs
    obtain ⟨haddresses, hinitiator⟩ := hsnapshot s hs
    exact ⟨by rw [hinitiator], haddresses⟩

end Bootstrapped

theorem ends_bootstrap (h : env.AsksKeep R) (ns : Namespaces) (target : String)
    (spec : NetworkSpec) (run : Run σ) :
    Ends (bootstrap env ns target spec) run (Bootstrapped env R run) := by
  unfold bootstrap
  -- every exit before the election has asked, and nothing else
  refine Ends.bind (OnlyAsks.askAs h.infrastructure (by rintro e ⟨_, ⟨⟩⟩) run) ?_ ?_
  · rintro e run₁ ⟨hworld, hcause⟩
    exact .unelected hworld (hcause e rfl)
  rintro infra run₁ ⟨hinfra, -⟩
  dsimp only
  by_cases hexternal : infra.topology = .external
  · rw [if_pos hexternal, ends_bind, ends_throw]
    exact .unelected hinfra (by rintro ⟨_, ⟨⟩⟩)
  rw [if_neg hexternal]
  refine Ends.bind (Bootstrap.onlyAsks_expectedReplicas h run₁) ?_ ?_
  · rintro e run₂ ⟨hworld, hcause⟩
    exact .unelected (h.trans hinfra hworld) (hcause e rfl)
  rintro expected run₂ ⟨hexpected, -⟩
  have hreplicas := h.trans hinfra hexpected
  refine Ends.bind (Bootstrap.ends_discover h target expected run₂) ?_ ?_
  · rintro e run₃ ⟨⟨hworld, hcause⟩, -⟩
    exact .unelected (h.trans hreplicas hworld) (hcause e rfl)
  rintro found run₃ ⟨⟨hdiscovered, -⟩, hlisted⟩
  have hbefore := h.trans hreplicas hdiscovered
  rw [ends_bind, ends_lift]
  cases hmembers : Bootstrap.addresses found.nodes with
  | error e => exact .unelected hbefore (Bootstrap.addresses_error hmembers)
  | ok members =>
    have hnodes := (hlisted found rfl).of_asked h hreplicas
    refine Ends.bind (ends_elect env members run₃) ?_ ?_
    · intro e run₄ helection
      exact .of_unelected h hbefore hnodes hmembers helection
    rintro (_ | initiator) run₄ helection
    · exact .of_nobody h hbefore hnodes hmembers helection
    refine Bootstrapped.ends_of_chosen hbefore hnodes hmembers helection ?_ ?_
    · refine OnlyAsks.bind h
        (OnlyAsks.askAs (h.configMap _ _) (by rintro e ⟨_, ⟨⟩⟩)) fun modeData =>
        OnlyAsks.bind h (Bootstrap.onlyAsks_gatewayMode h ns spec) fun gatewayMode =>
        OnlyAsks.bind h (Bootstrap.onlyAsks_flowSettings h ns) fun flow =>
        OnlyAsks.bind h (Bootstrap.onlyAsks_tier h ns _) fun master =>
        OnlyAsks.bind h (Bootstrap.onlyAsks_tier h ns _) fun node =>
        OnlyAsks.bind h (Bootstrap.onlyAsks_tier h ns _) fun prepuller => OnlyAsks.pure h _
    · exact Yields.bind fun modeData => Yields.bind fun gatewayMode => Yields.bind fun flow =>
        Yields.bind fun master => Yields.bind fun node => Yields.bind fun prepuller =>
        Yields.pure ⟨rfl, rfl⟩

end NetworkRollout
