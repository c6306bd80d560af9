import NetworkRollout.Proofs.Bootstrap.LostConfig
import NetworkRollout.Proofs.Reconcile.Atomicity
import NetworkRollout.Proofs.Reconcile.Waits

/-!
# A pass without a config map

A pass that cannot read a config map goes side by side with a pass on a server that does not have
it. What comes after the preparation does not look at the config map, though it may apply one in
that place. So both passes come to the same, unless a request fails that the pass needs.

* `Server.shadowed_applyAll`: applying objects.
* `Reconcile.shadowed_conclude`: all that comes after the preparation.
* `Reconcile.Beside`, `Reconcile.attempt_beside`: whole attempts.
* `PassResult.SameWithout`: whole passes.
-/

namespace NetworkRollout

open Server

variable {c : LostConfig} {s t : Server} (faults : Faults) {ns : Namespaces}

namespace Server

/-! ## Reading the live objects -/

theorem shadowed_liveTier (hst : SameWithout c s t) (update : Bool) (name : String) :
    Shadowed ((tracks_sameWithout c).shadowing faults) Failure.Tells s
      (liveTier faults ns update name s) (liveTier (faults.without c) ns update name t) := by
  unfold liveTier
  cases update with
  | true => exact .done hst (.ok none)
  | false =>
    have hread := (tracks_sameWithout c).shadowed_readIfExists faults hst .daemonSet ns.datapath
      name ("Failed to get DaemonSet " ++ name) Object.ofJson? (Or.inl (by decide))
    exact hread.map (Except.map fun live => live.map Object.forReapply) fun e he => ⟨e, rfl, he⟩

theorem liveTiers_eq (ns : Namespaces) (decision : Decision) (s : Server) :
    liveTiers faults ns decision s =
      andThen (liveTier faults ns decision.updateMaster Names.masterWorkload s) fun master s =>
        andThen (liveTier faults ns decision.updateNode Names.nodeWorkload s) fun node s =>
          (.ok { master, node }, s) := by
  unfold liveTiers andThen
  rcases liveTier faults ns decision.updateMaster Names.masterWorkload s with ⟨e | master, s₁⟩
  · rfl
  · dsimp only
    rcases liveTier faults ns decision.updateNode Names.nodeWorkload s₁ with ⟨e | node, s₂⟩ <;> rfl

theorem shadowed_liveTiers (hst : SameWithout c s t) (decision : Decision) :
    Shadowed ((tracks_sameWithout c).shadowing faults) Failure.Tells s
      (liveTiers faults ns decision s) (liveTiers (faults.without c) ns decision t) := by
  rw [liveTiers_eq, liveTiers_eq]
  refine (shadowed_liveTier faults hst _ _).andThen fun master s₁ t₁ h₁ => ?_
  refine (shadowed_liveTier faults h₁ _ _).andThen fun node s₂ t₂ h₂ => ?_
  exact .done h₂ _

/-! ## Applying objects -/

theorem shadowed_discover (hst : SameWithout c s t) (apiVersion name : String) :
    Shadowed ((tracks_sameWithout c).shadowing faults) ApiError.Tells s
      (discover faults apiVersion name s) (discover (faults.without c) apiVersion name t) := by
  unfold discover
  refine (tracks_sameWithout c).shadowed_serve faults hst (by rintro ⟨⟩) ?_ ?_
  · intro s
    cases s.serving.kind? apiVersion name <;> rfl
  · intro s t hst
    rw [hst.serving]
    cases t.serving.kind? apiVersion name with
    | none => exact ⟨rfl, hst⟩
    | some kind => exact ⟨rfl, hst⟩

/-- Storing an object, in one run settled with one that the other run does not have. -/
theorem SameWithout.applied (h : SameWithout c s t) (kind : Kind) (namespaceName name : String)
    (object : Json) :
    SameWithout c
      (s.store ⟨kind, namespaceName, name,
        s.serving.storing.settle (s.find? kind namespaceName name) object⟩)
      (t.store ⟨kind, namespaceName, name,
        t.serving.storing.settle (t.find? kind namespaceName name) object⟩) := by
  by_cases hplace : (kind, namespaceName, name) = (.configMap, c.namespaceName, c.name)
  · cases hplace
    have hlost : ∀ body, StoredObject.isLost c ⟨.configMap, c.namespaceName, c.name, body⟩ :=
      fun body => StoredObject.isAt_iff.mpr rfl
    rw [store_eq, store_eq]
    refine ⟨?_, h.writes, h.requests, h.serving⟩
    dsimp only
    rw [StoredObject.without_put_of_lost (hlost _), StoredObject.without_put_of_lost (hlost _)]
    exact h.objects
  · rw [h.find?_eq hplace, h.serving]
    exact h.stored _

theorem shadowed_apply (hst : SameWithout c s t) (kind : Kind) (namespaceName name : String)
    (object : Json) :
    Shadowed ((tracks_sameWithout c).shadowing faults) ApiError.Tells s
      (apply faults kind namespaceName name object s)
      (apply (faults.without c) kind namespaceName name object t) := by
  refine (tracks_sameWithout c).shadowed_serve faults hst (by rintro ⟨⟩) ?_ ?_
  · intro s
    dsimp only
    rw [store_eq]
    rfl
  · intro s t hst
    exact ⟨rfl, (tracks_sameWithout c).logged (hst.applied kind namespaceName name object) _⟩

theorem applyObject_eq {o : Object} {type : ObjectType} (htype : o.type = some type)
    (ns : Namespaces) (s : Server) :
    applyObject faults ns o s =
      andThen
        ((discover faults type.apiVersion type.kind s).1.mapError
            fun _ => unreadable ("Failed to discover " ++ type.kind),
          (discover faults type.apiVersion type.kind s).2) fun kind s =>
        let answer := apply faults kind (applyNamespace ns kind o) o.anyName o.toJson s
        (answer.1.mapError (failed ("Failed to apply " ++ type.kind ++ " " ++ o.anyName)),
          answer.2) := by
  unfold applyObject andThen
  rw [htype]
  dsimp only
  rcases discover faults type.apiVersion type.kind s with ⟨e | kind, s₁⟩
  · rfl
  · dsimp only [Except.mapError]
    rcases apply faults kind (applyNamespace ns kind o) o.anyName o.toJson s₁ with
      ⟨e | _, s₂⟩ <;> rfl

theorem shadowed_applyObject (hst : SameWithout c s t) (o : Object) :
    Shadowed ((tracks_sameWithout c).shadowing faults) Failure.Tells s
      (applyObject faults ns o s) (applyObject (faults.without c) ns o t) := by
  cases htype : o.type with
  | none =>
    unfold applyObject
    rw [htype]
    exact .done hst _
  | some type =>
    rw [applyObject_eq _ htype, applyObject_eq _ htype]
    have hfound := (shadowed_discover faults hst type.apiVersion type.kind).mapError
      (fun _ => unreadable ("Failed to discover " ++ type.kind)) fun _ _ => tells_unreadable _
    refine hfound.andThen fun kind s₁ t₁ h₁ => ?_
    exact (shadowed_apply faults h₁ kind _ _ _).mapError _ fun e _ => tells_failed _ e

theorem applyAll_eq (ns : Namespaces) (o : Object) (os : List Object)
    (s : Server) :
    applyAll faults ns (o :: os) s =
      andThen (applyObject faults ns o s) fun _ s =>
        ((applyAll faults ns os s).1.map (· + 1), (applyAll faults ns os s).2) := by
  rw [applyAll]
  unfold andThen
  rcases applyObject faults ns o s with ⟨e | _, s₁⟩
  · rfl
  · dsimp only
    rcases applyAll faults ns os s₁ with ⟨e | n, s₂⟩ <;> rfl

theorem shadowed_applyAll (hst : SameWithout c s t) (os : List Object) :
    Shadowed ((tracks_sameWithout c).shadowing faults) Failure.Tells s
      (applyAll faults ns os s) (applyAll (faults.without c) ns os t) := by
  induction os generalizing s t with
  | nil => exact .done hst (.ok 0)
  | cons o os ih =>
    rw [applyAll_eq, applyAll_eq]
    refine (shadowed_applyObject faults hst o).andThen fun _ s₁ t₁ h₁ => ?_
    exact (ih h₁).map (Except.map (· + 1)) fun e he => ⟨e, rfl, he⟩

end Server

/-! ## What comes after the preparation -/

/-- The input of a pass that has no trouble to read the config map. -/
def PassInput.without (input : PassInput) (c : LostConfig) : PassInput :=
  { input with faults := input.faults.without c }

namespace Reconcile

variable (input : PassInput) (network : NetworkObject)

theorem planned_of_load {prepared : Prepared} {rendered : List Object}
    (h : input.manifests.load
      (prepared.snapshot.manifestVariables prepared.spec input.settings.release) = .ok rendered)
    (s : Server) :
    planned input prepared s =
      let live := s.liveTiers input.faults input.settings.namespaces prepared.decision
      (live.1.map (Object.plan
        (rendered.map (Object.stamp prepared.family input.settings.release)) prepared.decision),
        live.2) := by
  unfold planned
  dsimp only
  rw [h]
  dsimp only
  rcases s.liveTiers input.faults input.settings.namespaces prepared.decision with
    ⟨e | live, s'⟩ <;> rfl

theorem shadowed_planned (hst : SameWithout c s t) (prepared : Prepared) :
    Shadowed ((tracks_sameWithout c).shadowing input.faults) Failure.Tells s
      (planned input prepared s) (planned (input.without c) prepared t) := by
  cases hload : input.manifests.load
      (prepared.snapshot.manifestVariables prepared.spec input.settings.release) with
  | error e =>
    unfold planned PassInput.without
    dsimp only
    rw [hload]
    exact .done hst (.error e)
  | ok rendered =>
    rw [planned_of_load input hload, planned_of_load (input.without c) hload]
    exact (shadowed_liveTiers input.faults hst prepared.decision).map (Except.map _) fun e he =>
      ⟨e, rfl, he⟩

theorem shadowed_rollOut (hst : SameWithout c s t) (prepared : Prepared) :
    Shadowed ((tracks_sameWithout c).shadowing input.faults) Failure.Tells s
      (rollOut input prepared s) (rollOut (input.without c) prepared t) := by
  have heq : ∀ input s, rollOut input prepared s =
      andThen (planned input prepared s) fun objects s =>
        s.applyAll input.faults input.settings.namespaces objects := by
    intro input s
    rw [rollOut_eq]
    rcases planned input prepared s with ⟨e | objects, s'⟩ <;> rfl
  rw [heq, heq]
  exact (shadowed_planned input hst prepared).andThen fun objects s₁ t₁ h₁ =>
    shadowed_applyAll input.faults h₁ objects

theorem conclude_eq (prepared : Prepared) (s : Server) :
    conclude input network prepared s =
      andThen (rollOut input prepared s) fun applied s =>
        let answer := record input.faults network.name Names.appliedSpecKey
          prepared.spec.toText s
        (answer.1.map fun _ => (prepared.decision, applied), answer.2) := by
  unfold conclude andThen
  rcases rollOut input prepared s with ⟨e | applied, s₁⟩
  · rfl
  · dsimp only
    rcases record input.faults network.name Names.appliedSpecKey prepared.spec.toText s₁ with
      ⟨e | _, s₂⟩ <;> rfl

/-- All that comes after the preparation. -/
theorem shadowed_conclude (hst : SameWithout c s t) (prepared : Prepared) :
    Shadowed ((tracks_sameWithout c).shadowing input.faults) Failure.Tells s
      (conclude input network prepared s) (conclude (input.without c) network prepared t) := by
  rw [conclude_eq, conclude_eq]
  refine (shadowed_rollOut input hst prepared).andThen fun applied s₁ t₁ h₁ => ?_
  exact ((tracks_sameWithout c).shadowed_record input.faults h₁ network.name _ _).map
    (Except.map fun _ => (prepared.decision, applied)) fun e he => ⟨e, rfl, he⟩

end Reconcile

/-! ## Attempts -/

/-- The world without the config map. -/
def World.without (w : World) (c : LostConfig) : World := { w with server := w.server.without c }

namespace Reconcile

variable {input : PassInput} {network : NetworkObject} {w : World}

/-- Two attempts that come to the same, on servers that differ by the config map at most. -/
structure Outcome.SameWithout (c : LostConfig) (o o' : Outcome) : Prop where
  result : o'.result = o.result
  status : o'.status = o.status
  elapsed : o'.elapsed = o.elapsed
  deadlines : o'.world.deadlines = o.world.deadlines
  metrics : o'.world.metrics = o.world.metrics
  server : Server.SameWithout c o.world.server o'.world.server

/-- An attempt that cannot read the config map, and one on a server that does not have it. -/
structure Beside (c : LostConfig) (faults : Faults) (before : List Request) (o o' : Outcome) :
    Prop where
  grows : before <+: o.world.server.requests
  told : faults.Hit before o.world.server.requests → ∃ e, o.result = .error e ∧ e.Tells
  same : faults.Denies (.readConfig c.name) before o.world.server.requests →
    Outcome.SameWithout c o o'

theorem shadowed_preparation (hname : c.name ∈ optionalConfigs)
    (hns : c.namespaceName = input.settings.namespaces.operator) (network : NetworkObject)
    (w : World) :
    Shadowed (preparations c input.faults) Failure.Tells
      { world := w.server, deadlines := w.deadlines } (preparation input network w)
      (preparation (input.without c) network (w.without c)) :=
  accompanied_prepare hname hns _ _ _ _ _ _ ⟨lacks_without w.server c, rfl, rfl⟩

theorem attempt_beside (hname : c.name ∈ optionalConfigs)
    (hns : c.namespaceName = input.settings.namespaces.operator) (network : NetworkObject)
    (status : RolloutStatus) (w : World) :
    Beside c input.faults w.server.requests (attempt input network status w)
      (attempt (input.without c) network status (w.without c)) := by
  have hboth := shadowed_preparation hname hns network w
  rw [attempt_eq, attempt_eq]
  revert hboth
  rcases preparation input network w with ⟨answer, run⟩
  rcases preparation (input.without c) network (w.without c) with ⟨answer', run'⟩
  rintro ⟨hgrows, htold, hsame⟩
  dsimp only at hgrows htold hsame
  cases answer with
  | error e =>
    refine ⟨hgrows, fun hhit => ?_, fun hdenies => ?_⟩
    · obtain ⟨e', he, htells⟩ := htold hhit
      cases he
      exact ⟨e, rfl, htells⟩
    · obtain ⟨rfl, hrun⟩ := hsame hdenies
      exact ⟨rfl, rfl, hrun.elapsed, hrun.deadlines, rfl, hrun.world.same⟩
  | ok prepared =>
    have hafter := fun t (ht : SameWithout c run.world t) =>
      shadowed_conclude input network ht prepared
    have hgrowsAfter := (hafter run.world ⟨rfl, rfl, rfl, rfl⟩).grows
    refine ⟨hgrows.trans hgrowsAfter, fun hhit => ?_, fun hdenies => ?_⟩
    · rcases hhit.split hgrowsAfter with hfirst | hrest
      · obtain ⟨e, he, -⟩ := htold hfirst
        cases he
      · exact (hafter run.world ⟨rfl, rfl, rfl, rfl⟩).told hrest
    · obtain ⟨rfl, hrun⟩ := hsame (hdenies.left hgrowsAfter)
      obtain ⟨hanswer, hserver⟩ := (hafter run'.world hrun.world.same).same (hdenies.right hgrows)
      refine ⟨hanswer, ?_, hrun.elapsed, hrun.deadlines, ?_, hserver⟩
      · dsimp only
        rw [hrun.elapsed]
        rfl
      · dsimp only
        rw [hrun.deadlines]
        rfl

end Reconcile

/-! ## Whole passes -/

/-- Two passes with the same outcome, on servers that differ by the config map at most. -/
structure PassResult.SameWithout (c : LostConfig) (p p' : PassResult) : Prop where
  requeue : p'.requeue = p.requeue
  elapsed : p'.elapsed = p.elapsed
  deadlines : p'.world.deadlines = p.world.deadlines
  metrics : p'.world.metrics = p.world.metrics
  server : Server.SameWithout c p.world.server p'.world.server

namespace Reconcile

variable {o o' : Outcome} (input : PassInput) (network : NetworkObject)

theorem fail_same (h : Outcome.SameWithout c o o') (e : Failure) :
    PassResult.SameWithout c (fail input network e o) (fail (input.without c) network e o') := by
  unfold fail PassInput.without
  dsimp only
  rw [h.status, h.elapsed]
  rcases report input.settings.interval (input.start.later o.elapsed) e o.status with
    ⟨status, _ | reason, wait⟩
  · exact ⟨rfl, rfl, h.deadlines, by rw [h.metrics],
      ((tracks_sameWithout c).reportStatus_same input.faults h.server _ _).2⟩
  · have hserver := (tracks_sameWithout c).publish_same input.faults h.server
      ⟨true, reason, e.message, network.name⟩
    exact ⟨rfl, rfl, h.deadlines, by rw [h.metrics],
      ((tracks_sameWithout c).reportStatus_same input.faults hserver _ _).2⟩

theorem succeed_same (h : Outcome.SameWithout c o o') (before : RolloutStatus)
    (decision : Decision) (applied : Nat) :
    PassResult.SameWithout c (succeed input network before decision applied o)
      (succeed (input.without c) network before decision applied o') := by
  unfold succeed PassInput.without
  dsimp only
  rw [h.status, h.elapsed, h.metrics]
  have hpatched := (tracks_sameWithout c).reportStatus_same input.faults h.server network.name
    (statusPatch ({ o.status with observedGeneration := network.generation }.rolledOut
      (input.start.later o.elapsed) decision applied))
  revert hpatched
  rcases o.world.server.reportStatus input.faults network.name _ with ⟨answer, s⟩
  rcases o'.world.server.reportStatus (input.faults.without c) network.name _ with ⟨answer', t⟩
  rintro ⟨rfl, hserver⟩
  dsimp only at hserver
  cases answer' with
  | error e => exact ⟨rfl, rfl, h.deadlines, rfl, hserver⟩
  | ok _ =>
    dsimp only
    split
    case isTrue => exact ⟨rfl, rfl, h.deadlines, rfl, hserver⟩
    case isFalse =>
      exact ⟨rfl, rfl, h.deadlines, rfl,
        (tracks_sameWithout c).publish_same input.faults hserver _⟩

/-! ### The requests of a report -/

/-- The server has received more requests, and all that are new may fail. -/
def OnlyTolerated (s s' : Server) : Prop :=
  ∃ more, s'.requests = s.requests ++ more ∧ ∀ r ∈ more, r.Tolerated

theorem OnlyTolerated.of_singleton {s' : Server} {r : Request} (h : s'.requests = s.requests ++ [r])
    (hr : r.Tolerated) : OnlyTolerated s s' := by
  refine ⟨[r], h, fun r' hr' => ?_⟩
  rw [List.mem_singleton.mp hr']
  exact hr

theorem OnlyTolerated.trans {s' s'' : Server} (h : OnlyTolerated s s')
    (h' : OnlyTolerated s' s'') : OnlyTolerated s s'' := by
  obtain ⟨more, hmore, heach⟩ := h
  obtain ⟨more', hmore', heach'⟩ := h'
  refine ⟨more ++ more', by rw [hmore', hmore, List.append_assoc], fun r hr => ?_⟩
  exact (List.mem_append.mp hr).elim (heach r) (heach' r)

theorem OnlyTolerated.grows {s' : Server} (h : OnlyTolerated s s') :
    s.requests <+: s'.requests := by
  obtain ⟨more, hmore, -⟩ := h
  exact ⟨more, hmore.symm⟩

variable {faults} in
/-- What failed did so before, if only such requests came after it. -/
theorem OnlyTolerated.hit {before : List Request} {s' : Server} (h : OnlyTolerated s s')
    (hhit : faults.Hit before s'.requests) : faults.Hit before s.requests := by
  rcases hhit.split h.grows with hbefore | ⟨i, r, e, hi, hr, -, -, hneeded⟩
  · exact hbefore
  · obtain ⟨more, hmore, heach⟩ := h
    rw [hmore, List.getElem?_append_right hi] at hr
    exact absurd (heach r (List.mem_of_getElem? hr)) hneeded

theorem onlyTolerated_kept (faults : Faults) (network : String) :
    ReportsKeep faults network OnlyTolerated where
  trans := OnlyTolerated.trans
  publish _ _ _ s := .of_singleton (requests_publish _ s) (Or.inr (Or.inl rfl))
  reportStatus _ s := .of_singleton (requests_reportStatus _ network _ s) (Or.inr (Or.inr rfl))

variable {input network} {w : World}

/-- A pass that cannot read the config map has the outcome of one on a server that does not have
it. -/
theorem reconcile_same (hname : c.name ∈ optionalConfigs)
    (hns : c.namespaceName = input.settings.namespaces.operator)
    (hgoes : wait? input network = none)
    (hdenies : input.faults.Denies (.readConfig c.name) w.server.requests
      (reconcile input network w).world.server.requests) :
    PassResult.SameWithout c (reconcile input network w)
      (reconcile (input.without c) network (w.without c)) := by
  have hattempt := (attempt_beside hname hns network (network.status.getD {}) w).same
    (hdenies.left ((onlyTolerated_kept input.faults network.name).reconcile hgoes w).grows)
  have hgoes' : wait? (input.without c) network = none := hgoes
  rw [reconcile_eq hgoes, reconcile_eq hgoes']
  dsimp only
  rw [hattempt.result]
  rcases (attempt input network (network.status.getD {}) w).result with e | ⟨decision, applied⟩
  · exact fail_same input network hattempt e
  · exact succeed_same input network hattempt _ decision applied

end Reconcile

end NetworkRollout
