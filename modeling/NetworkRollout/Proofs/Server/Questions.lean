import NetworkRollout.Apply.Applier
import NetworkRollout.Proofs.Bootstrap.Bootstrap
import NetworkRollout.Proofs.Server.Effects
import NetworkRollout.Proofs.Server.Requests

/-!
# The questions of a pass on the server

Whatever a pass reads, the server has the same objects and writes afterwards. Recording a text on a
network that exists is one annotation, or nothing when the request fails.

* `Server.readIfExists_eq`, `recorded_eq`, `record_eq`, `reportStatus_eq`: each is one request, and
  what is made of its answer.
* `Server.asksKeep`: questions have no effect.
* `Server.recorded_ok`, `Server.recording`: recalling and recording a text.
* `Server.IsMember`, `Server.isMember_of_listed`: listed addresses are those of stored nodes.
* `Server.liveTiers_asks`: reading the live objects of tiers.
-/

namespace NetworkRollout

namespace Server

variable {faults : Faults} {s : Server}

/-! ## Questions without an effect -/

theorem did_received (s : Server) (requests : List Request) : Did s { s with requests } [] :=
  ⟨rfl, (List.append_nil _).symm, rfl⟩

/-- Requests whose answer changes nothing change nothing. -/
theorem did_serve {α : Type} {answer : Call α} (h : ∀ t, Did t (answer t).2 []) (r : Request)
    (s : Server) : Did s (serve faults r answer s).2 [] := by
  rcases serve_cases (x := serve faults r answer s) rfl with ⟨e, -, hx⟩ | ⟨-, hx⟩
  · rw [← hx]
    exact did_received s _
  · rw [← hx]
    exact (did_received s _).trans (h _)

theorem requests_serve {α : Type} {answer : Call α}
    (h : ∀ t, (answer t).2.requests = t.requests) (r : Request) (s : Server) :
    (serve faults r answer s).2.requests = s.requests ++ [r] := by
  rcases serve_cases (x := serve faults r answer s) rfl with ⟨e, -, hx⟩ | ⟨-, hx⟩
  · rw [← hx]
  · rw [← hx, h]

theorem did_get (kind : Kind) (namespaceName name : String) (s : Server) :
    Did s (get faults kind namespaceName name s).2 [] := by
  refine did_serve (fun t => ?_) _ s
  cases t.find? kind namespaceName name <;> exact .refl t

theorem did_discover (faults : Faults) (apiVersion name : String) (s : Server) :
    Did s (discover faults apiVersion name s).2 [] := by
  refine did_serve (fun t => ?_) _ s
  cases t.serving.kind? apiVersion name <;> exact .refl t

theorem did_list (kind : Kind) (label : String) (s : Server) :
    Did s (list faults kind label s).2 [] :=
  did_serve (fun t => .refl t) _ s

theorem requests_get (kind : Kind) (namespaceName name : String) (s : Server) :
    (get faults kind namespaceName name s).2.requests =
      s.requests ++ [⟨.get, kind.plural, name⟩] := by
  refine requests_serve (fun t => ?_) _ s
  cases t.find? kind namespaceName name <;> rfl

/-! ### What is made of the answers -/

/-- What is made of reading an object that may not exist. -/
def readAnswer {α : Type} (what : String) (read : Json → Option α) :
    Except ApiError Json → Except Failure (Option α)
  | .error e => if e.code = ApiError.notFoundCode then .ok none else .error (failed what e)
  | .ok body =>
    match read body with
    | some a => .ok (some a)
    | none => .error (unreadable what)

theorem readIfExists_eq {α : Type} (faults : Faults) (kind : Kind)
    (namespaceName name what : String) (read : Json → Option α) (s : Server) :
    readIfExists faults kind namespaceName name what read s =
      (readAnswer what read (get faults kind namespaceName name s).1,
        (get faults kind namespaceName name s).2) := by
  unfold readIfExists getIfExists readAnswer
  rcases get faults kind namespaceName name s with ⟨e | body, s'⟩
  · dsimp only
    by_cases hmissing : e.code = ApiError.notFoundCode
    · rw [if_pos hmissing, if_pos hmissing]
    · rw [if_neg hmissing, if_neg hmissing]
  · dsimp only
    cases read body <;> rfl

def nodesAnswer : Except ApiError (List Json) → Except Failure (List MemberNode)
  | .ok nodes => .ok (nodes.map MemberNode.ofNode)
  | .error e => .error (.nodeDirectory ("Failed to list nodes: " ++ e.text))

theorem controlPlaneNodes_eq (faults : Faults) (s : Server) :
    controlPlaneNodes faults s =
      (nodesAnswer (list faults .node Names.controlPlaneLabel s).1,
        (list faults .node Names.controlPlaneLabel s).2) := by
  unfold controlPlaneNodes
  rcases list faults .node Names.controlPlaneLabel s with ⟨e | nodes, s'⟩ <;> rfl

def annotationAnswer (network key : String) :
    Except ApiError Json → Except Failure (Option String)
  | .error e => .error (failed ("Failed to get Network " ++ network) e)
  | .ok body =>
    match NetworkObject.ofJson? body with
    | some n => .ok (n.metadata.annotation? key)
    | none => .error (unreadable ("Failed to get Network " ++ network))

theorem recorded_eq (faults : Faults) (network key : String) (s : Server) :
    recorded faults network key s =
      (annotationAnswer network key (get faults .network "" network s).1,
        (get faults .network "" network s).2) := by
  unfold recorded annotationAnswer
  rcases get faults .network "" network s with ⟨e | body, s'⟩
  · rfl
  · dsimp only
    cases NetworkObject.ofJson? body <;> rfl

/-- What is made of an answer that is a network. -/
def networkAnswer (unread : Failure) (fail : ApiError → Failure) :
    Except ApiError Json → Except Failure Unit
  | .error e => .error (fail e)
  | .ok body =>
    match NetworkObject.ofJson? body with
    | some _ => .ok ()
    | none => .error unread

theorem record_eq (faults : Faults) (network key value : String) (s : Server) :
    record faults network key value s =
      (networkAnswer (unreadable ("Failed to annotate Network " ++ network))
          (failed ("Failed to annotate Network " ++ network))
          (patch faults .network network (annotationPatch key value) s).1,
        (patch faults .network network (annotationPatch key value) s).2) := by
  unfold record networkAnswer
  rcases patch faults .network network (annotationPatch key value) s with ⟨e | body, s'⟩
  · rfl
  · dsimp only
    cases NetworkObject.ofJson? body <;> rfl

theorem reportStatus_eq (faults : Faults) (network : String) (patch : Json) (s : Server) :
    reportStatus faults network patch s =
      (networkAnswer (.other Failure.elided) (fun e => .other e.text)
          (patchStatus faults .network network patch s).1,
        (patchStatus faults .network network patch s).2) := by
  unfold reportStatus networkAnswer
  rcases patchStatus faults .network network patch s with ⟨e | body, s'⟩
  · rfl
  · dsimp only
    cases NetworkObject.ofJson? body <;> rfl

theorem did_readIfExists {α : Type} (kind : Kind) (namespaceName name what : String)
    (read : Json → Option α) (s : Server) :
    Did s (readIfExists faults kind namespaceName name what read s).2 [] := by
  rw [readIfExists_eq]
  exact did_get kind namespaceName name s

theorem requests_recorded (network key : String) (s : Server) :
    (recorded faults network key s).2.requests =
      s.requests ++ [⟨.get, Kind.network.plural, network⟩] := by
  rw [recorded_eq]
  exact requests_get .network "" network s

theorem requests_record (faults : Faults) (network key value : String) (s : Server) :
    (record faults network key value s).2.requests =
      s.requests ++ [⟨.patch, Kind.network.plural, network⟩] := by
  rw [record_eq]
  exact requests_serve (fun t => requests_mergeInto _ _ _ (t.log _)) _ s

theorem requests_reportStatus (faults : Faults) (network : String) (body : Json) (s : Server) :
    (reportStatus faults network body s).2.requests =
      s.requests ++ [⟨.patchStatus, Kind.network.plural, network⟩] := by
  rw [reportStatus_eq]
  exact requests_serve (fun t => requests_mergeInto _ _ _ (t.log _)) _ s

/-- The questions of a pass have no effect. -/
theorem asksKeep (faults : Faults) (network : String) :
    (surroundings faults network).AsksKeep fun s s' => Did s s' [] where
  refl := .refl
  trans hab hbc := hab.trans hbc
  infrastructure s := by
    change Did s (infrastructure faults s).2 []
    unfold infrastructure
    exact did_readIfExists _ _ _ _ _ s
  configMap _ _ s := did_readIfExists _ _ _ _ _ s
  workload _ _ s := did_readIfExists _ _ _ _ _ s
  listNodes s := by
    change Did s (controlPlaneNodes faults s).2 []
    rw [controlPlaneNodes_eq]
    exact did_list .node Names.controlPlaneLabel s
  recorded key s := by
    change Did s (recorded faults network key s).2 []
    rw [recorded_eq]
    exact did_get .network "" network s

/-! ## Failures -/

theorem not_isInvalidConfig_failed (what : String) (e : ApiError) :
    ¬ (failed what e).IsInvalidConfig := by
  rintro ⟨_, ⟨⟩⟩

theorem not_isInvalidConfig_unreadable (what : String) : ¬ (unreadable what).IsInvalidConfig := by
  rintro ⟨_, ⟨⟩⟩

theorem readIfExists_error {α : Type} {kind : Kind} {namespaceName name what : String}
    {read : Json → Option α} {e : Failure}
    (h : (readIfExists faults kind namespaceName name what read s).1 = .error e) :
    ¬ e.IsInvalidConfig := by
  revert h
  unfold readIfExists
  rcases getIfExists faults kind namespaceName name s with ⟨_ | _ | body, s'⟩
  · rintro ⟨⟩
    exact not_isInvalidConfig_failed what _
  · rintro ⟨⟩
  · dsimp only
    cases read body with
    | none =>
      rintro ⟨⟩
      exact not_isInvalidConfig_unreadable what
    | some a => rintro ⟨⟩

/-! ## Merges into the network -/

/-- A request that merges into the network fails by a fault and does nothing, or has its effect; the
answer is the merged network if there is one. -/
theorem merge_cases (effect : Effect) {network : String} {patch : Json} {r : Request}
    {answer : Except ApiError Json} {s' : Server}
    (hon : ∀ storing objects, Effect.on storing objects effect =
      (mergeInto .network network patch { objects }).2.objects)
    (h : serve faults r (fun s => mergeInto .network network patch (s.log effect.write)) s =
      (answer, s')) :
    (∃ e, faults s.requests.length r = some e ∧ answer = .error e ∧ Did s s' []) ∨
      faults s.requests.length r = none ∧
        (∀ body, s.find? .network "" network = some body → answer = .ok (body.merge patch)) ∧
        Did s s' [effect] := by
  rcases serve_cases h with ⟨e, hfault, hx⟩ | ⟨hfault, hx⟩
  · cases hx
    exact Or.inl ⟨e, hfault, rfl, did_received s _⟩
  · generalize hlogged : Server.log _ effect.write = logged at hx
    have hobjects : logged.objects = s.objects := by rw [← hlogged, log]
    have hwrites : logged.writes = s.writes ++ [effect.write] := by rw [← hlogged, log]
    have hserving : logged.serving = s.serving := by rw [← hlogged, log]
    have hs' : (mergeInto .network network patch logged).2 = s' := congrArg Prod.snd hx
    refine Or.inr ⟨hfault, ?_, ?_, ?_, ?_⟩
    · intro body hbody
      have hanswer := congrArg Prod.fst hx
      rw [mergeInto_fst, find?_congr hobjects, hbody] at hanswer
      exact hanswer.symm
    · rw [← hs', List.foldl_cons, List.foldl_nil, hon]
      exact objects_mergeInto_congr (t := { objects := s.objects }) hobjects _ _ _
    · rw [← hs', writes_mergeInto, hwrites]
      rfl
    · rw [← hs', serving_mergeInto, hserving]

/-! ## Texts on the network -/

/-- The text of an annotation of the network as a pass reads it. -/
def text? (s : Server) (network key : String) : Option String :=
  ((s.find? .network "" network).bind NetworkObject.ofJson?).bind (·.metadata.annotation? key)

/-- A text that is recalled is that of a network that is there. -/
theorem recorded_ok {network key : String} {text : Option String}
    (h : (recorded faults network key s).1 = .ok text) :
    text = s.text? network key ∧ (s.find? .network "" network).isSome := by
  unfold recorded at h
  unfold text?
  cases hget : get faults .network "" network s with
  | mk answer s' =>
    rw [hget] at h
    cases answer with
    | error e => cases h
    | ok body =>
      rw [(get_cases hget).2 body rfl, Option.bind_some]
      dsimp only at h
      cases hread : NetworkObject.ofJson? body with
      | none =>
        rw [hread] at h
        cases h
      | some n =>
        rw [hread] at h
        cases h
        exact ⟨rfl, rfl⟩

theorem recorded_error {network key : String} {e : Failure}
    (h : (recorded faults network key s).1 = .error e) : ¬ e.IsInvalidConfig := by
  revert h
  unfold recorded
  rcases get faults .network "" network s with ⟨_ | body, s'⟩
  · rintro ⟨⟩
    exact not_isInvalidConfig_failed _ _
  · dsimp only
    cases NetworkObject.ofJson? body with
    | none =>
      rintro ⟨⟩
      exact not_isInvalidConfig_unreadable _
    | some n => rintro ⟨⟩

/-- How recording a text on a network that is there ends: the text is an annotation; the request
fails and does nothing; or the text is an annotation, and the network does not read with it. -/
inductive Recording (faults : Faults) (network key value : String) (s : Server) :
    Except Failure Unit → Server → Prop
  | done {body : Json} {s' : Server}
      (hnoFault : faults s.requests.length ⟨.patch, Kind.network.plural, network⟩ = none)
      (hfind : s.find? .network "" network = some body)
      (hreads : (NetworkObject.ofJson? (body.merge (annotationPatch key value))).isSome)
      (hdid : Did s s' [.annotate network key value]) :
      Recording faults network key value s (.ok ()) s'
  | failed {e : ApiError} {s' : Server}
      (hfault : faults s.requests.length ⟨.patch, Kind.network.plural, network⟩ = some e)
      (hdid : Did s s' []) :
      Recording faults network key value s
        (.error (Server.failed ("Failed to annotate Network " ++ network) e)) s'
  | unread {body : Json} {s' : Server}
      (hnoFault : faults s.requests.length ⟨.patch, Kind.network.plural, network⟩ = none)
      (hfind : s.find? .network "" network = some body)
      (hunread : NetworkObject.ofJson? (body.merge (annotationPatch key value)) = none)
      (hdid : Did s s' [.annotate network key value]) :
      Recording faults network key value s
        (.error (unreadable ("Failed to annotate Network " ++ network))) s'

theorem recording {network : String} (hnetwork : (s.find? .network "" network).isSome)
    (faults : Faults) (key value : String) :
    Recording faults network key value s (record faults network key value s).1
      (record faults network key value s).2 := by
  obtain ⟨body, hfind⟩ := Option.isSome_iff_exists.mp hnetwork
  unfold record
  dsimp only
  cases hpatch : patch faults .network network (annotationPatch key value) s with
  | mk answer s' =>
    rcases merge_cases (.annotate network key value) (fun _ _ => rfl) hpatch with
      ⟨e, hfault, rfl, hdid⟩ | ⟨hnoFault, hanswer, hdid⟩
    · exact .failed hfault hdid
    · cases hanswer body hfind
      dsimp only
      cases hread : NetworkObject.ofJson? (body.merge (annotationPatch key value)) with
      | some n => exact .done hnoFault hfind (Option.isSome_of_eq_some hread) hdid
      | none => exact .unread hnoFault hfind hread hdid

theorem Recording.cause {network key value : String} {e : Failure} {s' : Server}
    (h : Recording faults network key value s (.error e) s') : ¬ e.IsInvalidConfig := by
  cases h with
  | failed => exact not_isInvalidConfig_failed _ _
  | unread => exact not_isInvalidConfig_unreadable _

/-- A text that is recorded is one annotation, or none when it fails. -/
theorem Recording.did {network key value : String} {answer : Except Failure Unit} {s' : Server}
    (h : Recording faults network key value s answer s') :
    ∃ effects, (effects = [] ∨ effects = [.annotate network key value]) ∧ Did s s' effects := by
  cases h with
  | done _ _ _ hdid => exact ⟨_, Or.inr rfl, hdid⟩
  | failed _ hdid => exact ⟨_, Or.inl rfl, hdid⟩
  | unread _ _ _ hdid => exact ⟨_, Or.inr rfl, hdid⟩

/-! ## Reports of the status -/

/-- Reporting a status asks for a patch of it, and says how that went. -/
theorem reportStatus_snd (faults : Faults) (network : String) (patch : Json) (s : Server) :
    (reportStatus faults network patch s).2 = (patchStatus faults .network network patch s).2 := by
  rw [reportStatus_eq]

/-- A report of the status merges it into the network, or does nothing. -/
theorem did_reportStatus (faults : Faults) (network : String) (status : Json) (s : Server) :
    ∃ reported, (reported = [] ∨ reported = [Effect.report network status]) ∧
      Did s (reportStatus faults network (.object [("status", status)]) s).2 reported := by
  rw [reportStatus_snd]
  rcases merge_cases (.report network status) (fun _ _ => rfl)
    (Prod.eta (patchStatus faults .network network (.object [("status", status)]) s)).symm with
      ⟨-, -, -, hdid⟩ | ⟨-, -, hdid⟩
  · exact ⟨[], Or.inl rfl, hdid⟩
  · exact ⟨_, Or.inr rfl, hdid⟩

theorem did_publish (faults : Faults) (event : Event) (s : Server) :
    ∃ published, (published = [] ∨ published = [Effect.publish event]) ∧
      Did s (Server.publish faults event s).2 published := by
  rcases serve_cases (x := Server.publish faults event s) rfl with ⟨e, -, hx⟩ | ⟨-, hx⟩
  · rw [← hx]
    exact ⟨[], Or.inl rfl, did_received s _⟩
  · rw [← hx]
    exact ⟨_, Or.inr rfl, rfl, rfl, rfl⟩

theorem requests_publish (event : Event) (s : Server) :
    (Server.publish faults event s).2.requests = s.requests ++ [⟨.create, "events", ""⟩] :=
  requests_serve (fun _ => rfl) _ s

/-! ## Control-plane nodes -/

/-- Whether a stored control-plane node reports the address. -/
def IsMember (s : Server) (address : String) : Prop :=
  ∃ stored ∈ s.objects, stored.kind = .node ∧ hasLabel Names.controlPlaneLabel stored.content ∧
    (MemberNode.ofNode stored.content).address = some address

theorem isMember_of_listed {network address : String} {nodes : List MemberNode} {node : MemberNode}
    (h : ((surroundings faults network).listNodes s).1.answer = .ok nodes) (hnode : node ∈ nodes)
    (haddress : node.address = some address) : s.IsMember address := by
  change (controlPlaneNodes faults s).1 = .ok nodes at h
  unfold controlPlaneNodes at h
  cases hlist : list faults .node Names.controlPlaneLabel s with
  | mk answer s' =>
    rw [hlist] at h
    cases answer with
    | error e => cases h
    | ok bodies =>
      cases h
      obtain ⟨body, hbody, rfl⟩ := List.mem_map.mp hnode
      rcases serve_cases hlist with ⟨e, -, hx⟩ | ⟨-, hx⟩
      · cases hx
      · cases hx
        obtain ⟨stored, hstored, rfl⟩ := List.mem_map.mp hbody
        have hfound := List.mem_filter.mp (List.mem_mergeSort.mp hstored)
        simp only [Bool.and_eq_true, decide_eq_true_eq] at hfound
        exact ⟨stored, hfound.1, hfound.2.1, hfound.2.2, haddress⟩

/-! ## Live objects of tiers -/

theorem did_liveTier (faults : Faults) (ns : Namespaces) (update : Bool) (name : String)
    (s : Server) : Did s (liveTier faults ns update name s).2 [] := by
  unfold liveTier
  cases update with
  | true => exact .refl s
  | false => exact did_readIfExists _ _ _ _ _ s

theorem liveTier_error {ns : Namespaces} {update : Bool} {name : String} {e : Failure}
    (h : (liveTier faults ns update name s).1 = .error e) : ¬ e.IsInvalidConfig := by
  revert h
  unfold liveTier
  cases update with
  | true => rintro ⟨⟩
  | false =>
    rw [if_neg Bool.false_ne_true]
    dsimp only
    cases hread : (readIfExists faults .daemonSet ns.datapath name
        ("Failed to get DaemonSet " ++ name) Object.ofJson? s).1 with
    | error e' =>
      rintro ⟨⟩
      exact readIfExists_error hread
    | ok live => rintro ⟨⟩

/-- Reading the live objects has no effect, and fails for no fault of the desired network. -/
theorem liveTiers_asks (faults : Faults) (ns : Namespaces) (decision : Decision) (s : Server) :
    Did s (liveTiers faults ns decision s).2 [] ∧
      ∀ e, (liveTiers faults ns decision s).1 = .error e → ¬ e.IsInvalidConfig := by
  unfold liveTiers
  cases hmaster : liveTier faults ns decision.updateMaster Names.masterWorkload s with
  | mk master middle =>
    have hmiddle : Did s middle [] := by
      have hdid := did_liveTier faults ns decision.updateMaster Names.masterWorkload s
      rwa [hmaster] at hdid
    cases master with
    | error e =>
      refine ⟨hmiddle, ?_⟩
      rintro _ ⟨⟩
      exact liveTier_error (congrArg Prod.fst hmaster)
    | ok master =>
      dsimp only
      cases hnode : liveTier faults ns decision.updateNode Names.nodeWorkload middle with
      | mk node s' =>
        have hs' : Did middle s' [] := by
          have hdid := did_liveTier faults ns decision.updateNode Names.nodeWorkload middle
          rwa [hnode] at hdid
        cases node with
        | error e =>
          refine ⟨hmiddle.trans hs', ?_⟩
          rintro _ ⟨⟩
          exact liveTier_error (congrArg Prod.fst hnode)
        | ok node =>
          refine ⟨hmiddle.trans hs', ?_⟩
          rintro e ⟨⟩

end Server

end NetworkRollout
