import NetworkRollout.Proofs.Server.Network

/-!
# The annotations of a network as a store

Texts are kept under keys as annotations of one network. A text that is got is the one that was last
set under its key, or else the annotation that was there at the start. A text that is set changes
its own annotation and nothing else, and a call whose request fails changes nothing at all.

* `Server.StoreCall`, `Server.storeSteps`: a run of calls, with their answers.
* `Server.AnnotatedOnly`, `Server.Annotated`: what an annotation leaves of a body and of a server.
* `Server.Keeps`, `Server.Keeps.step`: the texts that a network keeps, and one call more.
* `Server.annotationStore`: what each call in a run does.
-/

namespace NetworkRollout

open Json

namespace Server

/-! ## Calls of the store -/

/-- A call of the store. -/
inductive StoreCall where
  | get (key : String)
  | set (key value : String)

/-- A call with its answer. -/
inductive Exchange where
  | got (key : String) (answer : Except Failure (Option String))
  | set (key value : String) (answer : Except Failure Unit)

namespace Exchange

/-- The one request of a call. -/
def request (network : String) : Exchange → Request
  | got _ _ => ⟨.get, Kind.network.plural, network⟩
  | set _ _ _ => ⟨.patch, Kind.network.plural, network⟩

/-- What a call says in front of the error of its request. -/
def complaint (network : String) : Exchange → String
  | got _ _ => "Failed to get Network " ++ network
  | set _ _ _ => "Failed to annotate Network " ++ network

def failure? : Exchange → Option Failure
  | got _ (.error e) => some e
  | set _ _ (.error e) => some e
  | _ => none

/-- The text that a call has put under the key. -/
def put? (key : String) : Exchange → Option String
  | set k value (.ok ()) => if k = key then some value else none
  | _ => none

end Exchange

/-- A call that was made, with the servers before and after it. -/
structure StoreStep where
  before : Server
  exchange : Exchange
  after : Server

def storeStep (faults : Faults) (network : String) (s : Server) : StoreCall → StoreStep
  | .get key =>
    let recalled := recorded faults network key s
    ⟨s, .got key recalled.1, recalled.2⟩
  | .set key value =>
    let stored := record faults network key value s
    ⟨s, .set key value stored.1, stored.2⟩

/-- Calls one after another. -/
def storeSteps (faults : Faults) (network : String) : Server → List StoreCall → List StoreStep
  | _, [] => []
  | s, call :: calls =>
    let step := storeStep faults network s call
    step :: storeSteps faults network step.after calls

/-- The text that was last put under a key. -/
def latest? (key : String) (history : List StoreStep) : Option String :=
  history.reverse.findSome? (·.exchange.put? key)

variable {faults : Faults} {s s' : Server} {network key value : String} {n : NetworkObject}

theorem latest?_append_singleton (key : String) (history : List StoreStep) (step : StoreStep) :
    latest? key (history ++ [step]) = (step.exchange.put? key).or (latest? key history) := by
  unfold latest?
  rw [List.reverse_append, List.reverse_singleton, List.singleton_append, List.findSome?_cons]
  cases step.exchange.put? key <;> rfl

/-! ## Answers -/

/-- What is stored is got, unless the request fails. -/
theorem get_of_find? {kind : Kind} {namespaceName name : String} {body : Json}
    (h : s.find? kind namespaceName name = some body) (faults : Faults) :
    get faults kind namespaceName name s =
      ((faults s.requests.length ⟨.get, kind.plural, name⟩).elim (.ok body) .error,
        { s with requests := s.requests ++ [⟨.get, kind.plural, name⟩] }) := by
  unfold get serve
  cases faults s.requests.length ⟨.get, kind.plural, name⟩ with
  | some e => rfl
  | none =>
    have hreceived : find? { s with requests := s.requests ++ [⟨.get, kind.plural, name⟩] } kind
        namespaceName name = some body := (find?_congr rfl).trans h
    dsimp only
    rw [hreceived]
    rfl

/-- A text of a network that reads is recalled, unless the request for it fails. -/
theorem recorded_fst (hn : s.network? network = some n) (faults : Faults) (key : String) :
    (recorded faults network key s).1 =
      (faults s.requests.length ⟨.get, Kind.network.plural, network⟩).elim
        (.ok (n.metadata.annotation? key))
        fun e => .error (failed ("Failed to get Network " ++ network) e) := by
  obtain ⟨body, hfind, hread⟩ := network?_eq_some hn
  unfold recorded
  rw [get_of_find? hfind]
  cases faults s.requests.length ⟨.get, Kind.network.plural, network⟩ with
  | some e => rfl
  | none =>
    dsimp only [Option.elim_none]
    rw [hread]

/-- Recording a text on a network that reads does so, unless the request for it fails. -/
theorem record_cases (hn : s.network? network = some n) (faults : Faults) (key value : String) :
    let request : Request := ⟨.patch, Kind.network.plural, network⟩
    let stored := record faults network key value s
    faults s.requests.length request = none ∧ stored.1 = .ok () ∧
        Did s stored.2 [.annotate network key value] ∨
      ∃ e, faults s.requests.length request = some e ∧
        stored.1 = .error (failed ("Failed to annotate Network " ++ network) e) ∧
        Did s stored.2 [] := by
  obtain ⟨body, hfind, hread⟩ := network?_eq_some hn
  have hrecording := recording (Option.isSome_of_eq_some hfind) faults key value
  dsimp only
  generalize record faults network key value s = stored at hrecording
  obtain ⟨answer, s'⟩ := stored
  cases hrecording with
  | done hnoFault _ _ hdid => exact Or.inl ⟨hnoFault, rfl, hdid⟩
  | failed hfault hdid => exact Or.inr ⟨_, hfault, rfl, hdid⟩
  | unread _ hfind' hunread _ =>
    -- a network that reads still does with another annotation
    obtain ⟨annotations, hread'⟩ := NetworkObject.ofJson?_annotated hread key value
    cases hfind.symm.trans hfind'
    cases hunread.symm.trans hread'

/-! ## What an annotation leaves -/

/-- Two bodies that differ in one annotation. The labels are among the other metadata, the spec and
the status among the other members. -/
structure AnnotatedOnly (key value : String) (before after : Json) : Prop where
  annotation : annotationIn key after = some (.text value)
  annotations : ∀ other, other ≠ key → annotationIn other after = annotationIn other before
  metadata : ∀ name, name ≠ "annotations" →
    Members.get? (after.field "metadata").members name =
      Members.get? (before.field "metadata").members name
  members : ∀ name, name ≠ "metadata" →
    Members.get? after.members name = Members.get? before.members name

theorem annotatedOnly_merge (key value : String) (body : Json) :
    AnnotatedOnly key value body (body.merge (annotationPatch key value)) where
  annotation := annotationIn_merge_annotationPatch_self key value body
  annotations := fun _ hother => annotationIn_merge_annotationPatch_of_ne hother value body
  metadata := by
    intro name hname
    unfold annotationPatch
    rw [field_merge_self rfl, get?_merge_of_ne hname]
  members := fun _ hname => get?_merge_of_ne hname body

/-- A network gets one annotation: the rest of its body stays, it reads as before but for the
annotations, and all other objects stay. -/
structure Annotated (network key value : String) (before after : Server) : Prop where
  body : ∃ old new, before.find? .network "" network = some old ∧
    after.find? .network "" network = some new ∧ AnnotatedOnly key value old new
  object : ∃ (n : NetworkObject) (annotations : Option TextMap),
    before.network? network = some n ∧
      after.network? network = some { n with metadata := { n.metadata with annotations } }
  others : ∀ kind namespaceName name, (kind, namespaceName, name) ≠ (.network, "", network) →
    after.find? kind namespaceName name = before.find? kind namespaceName name

theorem Did.annotated (h : Did s s' [.annotate network key value])
    (hn : s.network? network = some n) : Annotated network key value s s' := by
  obtain ⟨body, hfind, hread⟩ := network?_eq_some hn
  have hfind' := h.find?_annotate hfind
  obtain ⟨annotations, hread'⟩ := NetworkObject.ofJson?_annotated hread key value
  refine ⟨⟨_, _, hfind, hfind', annotatedOnly_merge key value _⟩,
    ⟨n, annotations, hn, (network?_of_find? hfind').trans hread'⟩, ?_⟩
  intro kind namespaceName name hne
  refine h.find?_eq ?_
  rintro effect heffect htarget
  cases List.mem_singleton.mp heffect
  exact hne (Option.some.inj htarget).symm

/-! ## The texts that a network keeps -/

/-- The annotations that are read of a network are those of its body. -/
theorem map_annotation?_of_network? (hn : s.network? network = some n) (key : String) :
    (n.metadata.annotation? key).map .text = s.annotation network key := by
  obtain ⟨body, hfind, hread⟩ := network?_eq_some hn
  obtain ⟨-, hmetadata, -⟩ := NetworkObject.ofJson?_object_iff.mp hread
  obtain ⟨j, hj, hread⟩ := Option.bind_eq_some_iff.mp hmetadata
  have hfield : (Json.object body).field "metadata" = j := congrArg (·.getD .null) hj
  have hbody := (((distinct_find? hfind).field "metadata").field "annotations").nodup
  unfold annotation annotationIn
  rw [hfind, Option.bind_some]
  rw [hfield] at hbody
  unfold path
  simp only [List.foldl_cons, List.foldl_nil, hfield]
  exact Metadata.map_annotation?_of_ofJson? hread hbody key

/-- A network that reads, with these texts under their keys among its annotations. -/
structure Keeps (network : String) (texts : String → Option String) (s : Server) : Prop where
  reads : (s.network? network).isSome
  texts : ∀ key, s.annotation network key = (texts key).map .text

namespace Keeps

variable {texts : String → Option String}

theorem of_network? (hn : s.network? network = some n) :
    Keeps network n.metadata.annotation? s where
  reads := Option.isSome_of_eq_some hn
  texts := fun key => (map_annotation?_of_network? hn key).symm

theorem annotation?_eq (h : Keeps network texts s) (hn : s.network? network = some n)
    (key : String) : n.metadata.annotation? key = texts key := by
  have htext := (map_annotation?_of_network? hn key).trans (h.texts key)
  exact Option.map_injective (fun _ _ => Json.text.inj) htext

theorem of_objects (h : Keeps network texts s) (hobjects : s'.objects = s.objects) :
    Keeps network texts s' where
  reads := by
    rw [network?_congr (find?_congr hobjects)]
    exact h.reads
  texts := by
    intro key
    rw [annotation_congr hobjects]
    exact h.texts key

/-- An annotation puts its text under its key. -/
theorem annotate (h : Keeps network texts s) (hdid : Did s s' [.annotate network key value]) :
    Keeps network (fun other => (if key = other then some value else none).or (texts other))
      s' := by
  obtain ⟨n, hn⟩ := Option.isSome_iff_exists.mp h.reads
  have hannotated := hdid.annotated hn
  obtain ⟨body, hfind, -⟩ := network?_eq_some hn
  refine ⟨?_, ?_⟩
  · obtain ⟨_, _, -, hn'⟩ := hannotated.object
    exact Option.isSome_of_eq_some hn'
  · intro other
    by_cases hkey : key = other
    · subst hkey
      rw [if_pos rfl]
      exact hdid.annotation_annotate (Option.isSome_of_eq_some hfind)
    · rw [if_neg hkey, Option.none_or, ← h.texts other]
      refine hdid.annotation_eq ?_
      intro effect heffect htouches
      cases List.mem_singleton.mp heffect
      exact hkey htouches.2

end Keeps

/-! ## Runs of calls -/

/-- What a call does on a network that kept the texts before it. -/
structure StepKeeps (faults : Faults) (network : String) (texts : String → Option String)
    (step : StoreStep) : Prop where
  got : ∀ key text, step.exchange = .got key (.ok text) → text = texts key
  set : ∀ key value, step.exchange = .set key value (.ok ()) →
    Annotated network key value step.before step.after
  /-- A call fails just when its request does, and says so. -/
  failure : step.exchange.failure? =
    (faults step.before.requests.length (step.exchange.request network)).map fun e =>
      .kubernetesApi (step.exchange.complaint network ++ ": " ++ e.text)
  /-- All but a text that is set leaves every object as it is, and writes nothing. -/
  unchanged : (∀ key value, step.exchange ≠ .set key value (.ok ())) →
    step.after.objects = step.before.objects ∧ step.after.writes = step.before.writes

namespace Keeps

variable {texts : String → Option String}

theorem step_get (h : Keeps network texts s) (faults : Faults) (key : String) :
    StepKeeps faults network texts (storeStep faults network s (.get key)) ∧
      Keeps network texts (storeStep faults network s (.get key)).after := by
  obtain ⟨n, hn⟩ := Option.isSome_iff_exists.mp h.reads
  have hanswer := recorded_fst hn faults key
  have hdid : Did s (recorded faults network key s).2 [] :=
    (asksKeep faults network).recorded key s
  refine ⟨⟨?_, ?_, ?_, fun _ => ⟨hdid.objects, ?_⟩⟩, h.of_objects hdid.objects⟩
  · rintro _ text heq
    injection heq with hkey hok
    subst hkey
    rw [hanswer] at hok
    cases hfault : faults s.requests.length ⟨.get, Kind.network.plural, network⟩ with
    | some e =>
      rw [hfault] at hok
      cases hok
    | none =>
      rw [hfault] at hok
      cases hok
      exact h.annotation?_eq hn key
  · rintro _ _ ⟨⟩
  · change Exchange.failure? (.got key (recorded faults network key s).1) =
      (faults s.requests.length ⟨.get, Kind.network.plural, network⟩).map _
    rw [hanswer]
    cases faults s.requests.length ⟨.get, Kind.network.plural, network⟩ <;> rfl
  · exact hdid.writes.trans (List.append_nil _)

theorem step_set (h : Keeps network texts s) (faults : Faults) (key value : String) :
    let step := storeStep faults network s (.set key value)
    StepKeeps faults network texts step ∧
      Keeps network (fun other => (step.exchange.put? other).or (texts other)) step.after := by
  intro step
  obtain ⟨n, hn⟩ := Option.isSome_iff_exists.mp h.reads
  rcases record_cases hn faults key value with
    ⟨hnoFault, hok, hdid⟩ | ⟨e, hfault, herror, hdid⟩
  · have hstep : step.exchange = .set key value (.ok ()) := congrArg (Exchange.set key value) hok
    refine ⟨⟨?_, ?_, ?_, fun hne => absurd hstep (hne key value)⟩, ?_⟩
    · intro key' text heq
      cases hstep.symm.trans heq
    · intro key' value' heq
      cases hstep.symm.trans heq
      exact hdid.annotated hn
    · rw [hstep]
      exact (congrArg (Option.map _) hnoFault).symm
    · rw [hstep]
      exact h.annotate hdid
  · have hstep : step.exchange = .set key value (.error (failed _ e)) :=
      congrArg (Exchange.set key value) herror
    refine ⟨⟨?_, ?_, ?_, fun _ => ⟨hdid.objects, hdid.writes.trans (List.append_nil _)⟩⟩, ?_⟩
    · intro key' text heq
      cases hstep.symm.trans heq
    · intro key' value' heq
      cases hstep.symm.trans heq
    · rw [hstep]
      exact (congrArg (Option.map _) hfault).symm
    · rw [hstep]
      exact h.of_objects hdid.objects

theorem step (h : Keeps network texts s) (faults : Faults) (call : StoreCall) :
    let step := storeStep faults network s call
    StepKeeps faults network texts step ∧
      Keeps network (fun key => (step.exchange.put? key).or (texts key)) step.after := by
  cases call with
  | get key => exact h.step_get faults key
  | set key value => exact h.step_set faults key value

/-- A run keeps at each step what was last put under each key, and under the other keys the texts
from before it. The induction is on the calls; the steps in the past have been made already. -/
theorem run {initial : String → Option String} (faults : Faults) (calls : List StoreCall)
    (past : List StoreStep)
    (h : Keeps network (fun key => (latest? key past).or (initial key)) s)
    {history later : List StoreStep} {step : StoreStep}
    (hrun : storeSteps faults network s calls = history ++ step :: later) :
    StepKeeps faults network (fun key => (latest? key (past ++ history)).or (initial key))
      step := by
  induction calls generalizing s past history with
  | nil => cases history <;> cases hrun
  | cons call calls ih =>
    obtain ⟨hstep, hafter⟩ := h.step faults call
    rw [storeSteps] at hrun
    cases history with
    | nil =>
      rw [← (List.cons.inj hrun).1, List.append_nil]
      exact hstep
    | cons first history =>
      obtain ⟨hfirst, hrest⟩ := List.cons.inj hrun
      rw [hfirst] at hafter hrest
      simp only [← Option.or_assoc, ← latest?_append_singleton] at hafter
      rw [List.append_cons]
      exact ih _ hafter hrest

end Keeps

/-- The annotations of a network are a store of texts: in every run of calls on a network that
reads, each call answers from what was last set, or else from the annotations at the start. -/
theorem annotationStore (hn : s.network? network = some n) (faults : Faults)
    (calls : List StoreCall) {history later : List StoreStep} {step : StoreStep}
    (hrun : storeSteps faults network s calls = history ++ step :: later) :
    StepKeeps faults network (fun key => (latest? key history).or (n.metadata.annotation? key))
      step :=
  Keeps.run faults calls [] (Keeps.of_network? hn) hrun

/-- A network with one annotation. -/
def annotatedBody : Members :=
  [("metadata", .object [("annotations", .object [("a", .text "0")])]),
    ("spec", NetworkSpec.toJson {})]

def annotatedServer : Server :=
  { objects := [⟨.network, "", "cluster", .object annotatedBody⟩] }

theorem network?_annotatedServer :
    annotatedServer.network? "cluster" =
      some { metadata := { annotations := some [("a", "0")] } } := by
  have hfind : annotatedServer.find? .network "" "cluster" = some (.object annotatedBody) := rfl
  rw [network?_of_find? hfind]
  exact NetworkObject.ofJson?_object_iff.mpr ⟨rfl, rfl, NetworkSpec.ofJson?_toJson {}, rfl⟩

/-- A text that was set is got after another one could not be set. -/
theorem annotationStore_afterFailure :
    let faults : Faults := fun i _ => if i = 1 then some ⟨503, "down"⟩ else none
    let first := storeStep faults "cluster" annotatedServer (.set "a" "1")
    let second := storeStep faults "cluster" first.after (.set "a" "2")
    let third := storeStep faults "cluster" second.after (.get "a")
    annotatedServer.network? "cluster" =
        some { metadata := { annotations := some [("a", "0")] } } ∧
      storeSteps faults "cluster" annotatedServer [.set "a" "1", .set "a" "2", .get "a"] =
        [first, second] ++ [third] ∧
      second.exchange.failure?.isSome ∧ third.exchange = .got "a" (.ok (some "1")) := by
  intro faults first second third
  refine ⟨network?_annotatedServer, rfl, rfl, ?_⟩
  have hlaws := annotationStore network?_annotatedServer faults
    [.set "a" "1", .set "a" "2", .get "a"]
    (show _ = [first, second] ++ third :: [] from rfl)
  have hlatest : latest? "a" [first, second] = some "1" := rfl
  have hfailure : Exchange.failure? (.got "a" (recorded faults "cluster" "a" second.after).1) =
      none := hlaws.failure
  change Exchange.got "a" (recorded faults "cluster" "a" second.after).1 = _
  cases hanswer : (recorded faults "cluster" "a" second.after).1 with
  | error e =>
    rw [hanswer] at hfailure
    cases hfailure
  | ok text =>
    rw [hlaws.got "a" text (congrArg (Exchange.got "a") hanswer), hlatest]
    rfl

end Server

end NetworkRollout
