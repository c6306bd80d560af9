import NetworkRollout.Apply.Applier
import NetworkRollout.Proofs.Server.Requests

/-!
# What applying objects writes

An object goes to a workload by what it says of itself: its type, its namespace or that of the
datapath, and its name or the one that names are generated from.

* `Object.SentTo`: an object goes to the workload of a name in the namespace of the datapath.
* `Server.applyObject_cases`: what applying one object writes.
* `Server.sentTo_iff`: an object is sent to a workload when some application writes it there.
* `Server.applyAll_written`: what a run of applications writes to a workload was sent to it.
* `Server.liveTiers_names`: live objects are read for tiers that are held back, under their names.
-/

namespace NetworkRollout

/-! ## Where objects are sent -/

/-- An object goes to the workload of a name in the namespace of the datapath. Which types the
server takes for daemon sets is left open. -/
def Object.SentTo (daemonSet : ObjectType → Prop) (ns : Namespaces) (name : String) (o : Object) :
    Prop :=
  (∃ type, o.type = some type ∧ daemonSet type) ∧
    Server.applyNamespace ns .daemonSet o = ns.datapath ∧ o.anyName = name

namespace Server

variable {faults : Faults} {ns : Namespaces} {s s' : Server}

/-- The write of an object to the workload of a name. -/
def workloadWrite (ns : Namespaces) (name : String) (body : Json) : Write :=
  .apply Kind.daemonSet.plural ns.datapath name body

/-- Applying an object of a kind that is served writes the object, or nothing. -/
theorem applyObject_cases {o : Object} {answer : Except Failure Unit}
    (h : applyObject faults ns o s = (answer, s')) :
    s'.writes = s.writes ∨ answer = .ok () ∧ ∃ type kind, o.type = some type ∧
      s.serving.kind? type.apiVersion type.kind = some kind ∧
      s'.writes = s.writes ++
        [.apply kind.plural (applyNamespace ns kind o) o.anyName o.toJson] := by
  unfold applyObject at h
  cases htype : o.type with
  | none =>
    rw [htype] at h
    cases h
    exact Or.inl rfl
  | some type =>
    rw [htype] at h
    dsimp only at h
    cases hdiscover : discover faults type.apiVersion type.kind s with
    | mk found middle =>
      obtain ⟨hsame, hkind⟩ := discover_cases hdiscover
      rw [hdiscover] at h
      cases found with
      | error e =>
        cases h
        exact Or.inl hsame
      | ok kind =>
        dsimp only at h
        cases happly : apply faults kind (applyNamespace ns kind o) o.anyName o.toJson middle with
        | mk applied after =>
          rw [happly] at h
          have hs' : after = s' := by
            cases applied with
            | error e => exact congrArg Prod.snd h
            | ok _ => exact congrArg Prod.snd h
          rw [← hs', ← hsame]
          rcases apply_cases happly with hwrites | ⟨rfl, hwrites⟩
          · exact Or.inl hwrites
          · cases h
            exact Or.inr ⟨rfl, type, kind, rfl, hkind kind rfl, hwrites⟩

/-- An object whose application is written to a workload was sent to it. -/
theorem sentTo_of_written {o : Object} {type : ObjectType} {kind : Kind} {name : String}
    {body : Json} (htype : o.type = some type)
    (hkind : s.serving.kind? type.apiVersion type.kind = some kind)
    (h : workloadWrite ns name body =
      .apply kind.plural (applyNamespace ns kind o) o.anyName o.toJson) :
    o.SentTo (Discovers · .daemonSet) ns name ∧ body = o.toJson := by
  unfold workloadWrite at h
  injection h with hplural hnamespace hname hbody
  have hdaemonSet : kind = .daemonSet := Serving.eq_daemonSet_of_plural hkind hplural.symm
  rw [hdaemonSet] at hkind hnamespace
  exact ⟨⟨⟨type, htype, discovers_iff.mpr ⟨_, hkind⟩⟩, hnamespace.symm, hname.symm⟩, hbody⟩

/-- The objects that are sent to a workload are those whose application can write there. -/
theorem sentTo_iff {o : Object} {name : String} :
    o.SentTo (Discovers · .daemonSet) ns name ↔
      ∃ faults s s', applyObject faults ns o s = (.ok (), s') ∧
        s'.writes = s.writes ++ [workloadWrite ns name o.toJson] := by
  constructor
  · rintro ⟨⟨type, htype, hkind⟩, hnamespace, hname⟩
    obtain ⟨serving, hserved⟩ := discovers_iff.mp hkind
    obtain ⟨found, hfound, hsame⟩ :=
      discover_of_kind? (s := {}) (Serving.kind?_daemonSet hserved .usual)
    obtain ⟨after, happly, hwrites⟩ : ∃ after,
        apply (fun _ _ => none) .daemonSet ns.datapath name o.toJson found = (.ok (), after) ∧
          after.writes = found.writes ++ [workloadWrite ns name o.toJson] := by
      refine ⟨_, rfl, ?_⟩
      unfold log store
      dsimp only
      split <;> rfl
    refine ⟨fun _ _ => none, {}, after, ?_, ?_⟩
    · unfold applyObject
      rw [htype]
      dsimp only
      rw [hfound]
      dsimp only
      rw [hnamespace, hname, happly]
    · rw [hwrites, hsame]
  · rintro ⟨faults, s, s', h, hwrites⟩
    rcases applyObject_cases h with hsame | ⟨-, type, kind, htype, hkind, hnew⟩
    · rw [hsame] at hwrites
      exact absurd (List.self_eq_append_right.mp hwrites) (List.cons_ne_nil _ _)
    · rw [hwrites] at hnew
      have hwrite := List.singleton_inj.mp (List.append_cancel_left hnew)
      exact (sentTo_of_written htype hkind hwrite).1

/-- What applying an object writes to a workload was sent to it. -/
theorem applyObject_written {o : Object} {answer : Except Failure Unit}
    (h : applyObject faults ns o s = (answer, s')) {name : String} {body : Json}
    (hbody : workloadWrite ns name body ∈ s'.writes) :
    workloadWrite ns name body ∈ s.writes ∨
      o.SentTo (Discovers · .daemonSet) ns name ∧ body = o.toJson := by
  rcases applyObject_cases h with hwrites | ⟨-, type, kind, htype, hkind, hwrites⟩
  · rw [hwrites] at hbody
    exact Or.inl hbody
  · rw [hwrites] at hbody
    rcases List.mem_append.mp hbody with hold | hnew
    · exact Or.inl hold
    · exact Or.inr (sentTo_of_written htype hkind (List.mem_singleton.mp hnew))

/-- What applying objects writes to a workload is an object of theirs that was sent there. -/
theorem applyAll_written {os : List Object} {answer : Except Failure Nat}
    (h : applyAll faults ns os s = (answer, s')) {name : String} {body : Json}
    (hbody : workloadWrite ns name body ∈ s'.writes) :
    workloadWrite ns name body ∈ s.writes ∨
      ∃ o ∈ os, o.SentTo (Discovers · .daemonSet) ns name ∧ body = o.toJson := by
  induction os generalizing s answer with
  | nil =>
    cases h
    exact Or.inl hbody
  | cons o os ih =>
    unfold applyAll at h
    cases hone : applyObject faults ns o s with
    | mk applied middle =>
      rw [hone] at h
      -- the first object has its say even when it ends the run
      have hmiddle : workloadWrite ns name body ∈ middle.writes →
          workloadWrite ns name body ∈ s.writes ∨
            ∃ p ∈ o :: os, p.SentTo (Discovers · .daemonSet) ns name ∧ body = p.toJson := by
        intro hmem
        rcases applyObject_written hone hmem with hold | hsent
        · exact Or.inl hold
        · exact Or.inr ⟨o, List.mem_cons_self, hsent⟩
      cases applied with
      | error e =>
        cases h
        exact hmiddle hbody
      | ok _ =>
        dsimp only at h
        cases hrest : applyAll faults ns os middle with
        | mk counted after =>
          rw [hrest] at h
          have hs' : after = s' := by
            cases counted with
            | error e => exact congrArg Prod.snd h
            | ok n => exact congrArg Prod.snd h
          rw [hs'] at hrest
          rcases ih hrest with hmem | ⟨p, hp, hsent⟩
          · exact hmiddle hmem
          · exact Or.inr ⟨p, List.mem_cons_of_mem _ hp, hsent⟩

end Server

/-! ## Live objects -/

namespace Server

variable {faults : Faults} {ns : Namespaces} {s s' : Server}

/-- Every stored object that reads says the name that it is stored under, as a server answers a
request by name with the object of that name. -/
def NamesObjects (s : Server) : Prop :=
  ∀ stored ∈ s.objects, ∀ o, Object.ofJson? stored.content = some o →
    o.metadata.name = some stored.name

/-- The live object of a tier is read only when the tier is held back, and has the name that was
asked for. -/
theorem liveTier_cases {update : Bool} {name : String} {answer : Except Failure (Option Object)}
    (hs : s.NamesObjects) (h : liveTier faults ns update name s = (answer, s')) :
    s'.objects = s.objects ∧
      ∀ m, answer = .ok (some m) → update = false ∧ m.metadata.name = some name := by
  unfold liveTier at h
  cases update with
  | true =>
    cases h
    refine ⟨rfl, ?_⟩
    rintro m ⟨⟩
  | false =>
    rw [if_neg Bool.false_ne_true] at h
    dsimp only at h
    cases hread : readIfExists faults .daemonSet ns.datapath name
        ("Failed to get DaemonSet " ++ name) Object.ofJson? s with
    | mk found after =>
      obtain ⟨hobjects, hfound⟩ := readIfExists_cases hread
      rw [hread] at h
      cases h
      refine ⟨hobjects, ?_⟩
      intro m hm
      match found, hm, hfound with
      | .error e, hm, _ => cases hm
      | .ok none, hm, _ => cases hm
      | .ok (some o), hm, hfound =>
        cases hm
        obtain ⟨stored, hmem, hname, ho⟩ := hfound o rfl
        rw [← hname]
        exact ⟨rfl, hs stored hmem o ho⟩

/-- Both live objects have the names of their workloads, and stand for tiers that are held back. -/
theorem liveTiers_names {decision : Decision} {live : LiveTiers} (hs : s.NamesObjects)
    (h : liveTiers faults ns decision s = (.ok live, s')) :
    (∀ m, live.master = some m →
        decision.updateMaster = false ∧ m.metadata.name = some Names.masterWorkload) ∧
      ∀ n, live.node = some n →
        decision.updateNode = false ∧ n.metadata.name = some Names.nodeWorkload := by
  unfold liveTiers at h
  cases hmaster : liveTier faults ns decision.updateMaster Names.masterWorkload s with
  | mk master middle =>
    obtain ⟨hobjects, hmasterName⟩ := liveTier_cases hs hmaster
    rw [hmaster] at h
    cases master with
    | error e => cases h
    | ok master =>
      dsimp only at h
      have hmiddle : middle.NamesObjects := by
        unfold NamesObjects
        rw [hobjects]
        exact hs
      cases hnode : liveTier faults ns decision.updateNode Names.nodeWorkload middle with
      | mk node after =>
        obtain ⟨-, hnodeName⟩ := liveTier_cases hmiddle hnode
        rw [hnode] at h
        cases node with
        | error e => cases h
        | ok node =>
          cases h
          refine ⟨?_, ?_⟩
          · rintro m ⟨⟩
            exact hmasterName m rfl
          · rintro n ⟨⟩
            exact hnodeName n rfl

end Server

end NetworkRollout
