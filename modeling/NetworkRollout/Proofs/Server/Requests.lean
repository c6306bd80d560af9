import Mathlib.Data.List.Nodup
import NetworkRollout.Server.Cluster

/-!
# What requests do

Each request ends in a fault or in its answer. Reading changes no stored object, discovery writes
nothing, and an application writes one object or none.

* `Server.serve_cases`: the two ends of a request.
* `Server.discover_cases`, `apply_cases`, `getIfExists_cases`, `readIfExists_cases`: one lemma for
  each request, with everything that it may do.
-/

namespace NetworkRollout

namespace Serving

variable {serving : Serving} {apiVersion name : String} {kind : Kind}

theorem mem_of_kind? (h : serving.kind? apiVersion name = some kind) : kind ∈ serving.kinds :=
  List.mem_of_find?_eq_some h

/-- A kind is found under its own version and name. -/
theorem eq_of_kind? (h : serving.kind? apiVersion name = some kind) :
    kind.apiVersion = Kind.plainVersion apiVersion ∧ kind.name = name := by
  have hfound := List.find?_some h
  simpa only [Bool.and_eq_true, decide_eq_true_eq] using hfound

/-- What is found to be a daemon set on one server is so on every server. -/
theorem kind?_daemonSet (h : serving.kind? apiVersion name = some .daemonSet)
    (other : Serving) : other.kind? apiVersion name = some .daemonSet := by
  obtain ⟨hversion, hname⟩ := eq_of_kind? h
  unfold kind?
  rw [← hversion, ← hname]
  exact other.daemonSets

/-- Only daemon sets are asked for under their plural. -/
theorem eq_daemonSet_of_plural (h : serving.kind? apiVersion name = some kind)
    (hplural : kind.plural = Kind.daemonSet.plural) : kind = .daemonSet :=
  List.inj_on_of_nodup_map serving.plurals (mem_of_kind? h)
    (List.mem_of_find?_eq_some serving.daemonSets) hplural

end Serving

namespace Server

variable {faults : Faults} {s s' : Server}

/-- A request ends in a fault, if there is one, or in its answer. -/
theorem serve_cases {α : Type} {r : Request} {answer : Call α} {x : Except ApiError α × Server}
    (h : serve faults r answer s = x) :
    (∃ e, faults s.requests.length r = some e ∧
        (.error e, { s with requests := s.requests ++ [r] }) = x) ∨
      faults s.requests.length r = none ∧
        answer { s with requests := s.requests ++ [r] } = x := by
  unfold serve at h
  cases hfault : faults s.requests.length r with
  | some e =>
    rw [hfault] at h
    exact Or.inl ⟨e, rfl, h⟩
  | none =>
    rw [hfault] at h
    exact Or.inr ⟨rfl, h⟩

/-- Some server discovers a type as a kind. -/
def Discovers (type : ObjectType) (kind : Kind) : Prop :=
  ∃ faults s s', discover faults type.apiVersion type.kind s = (.ok kind, s')

/-- Discovery writes nothing, and finds what is served. -/
theorem discover_cases {apiVersion name : String} {answer : Except ApiError Kind}
    (h : discover faults apiVersion name s = (answer, s')) :
    s'.writes = s.writes ∧
      ∀ kind, answer = .ok kind → s.serving.kind? apiVersion name = some kind := by
  unfold discover at h
  rcases serve_cases h with ⟨e, -, hx⟩ | ⟨-, hx⟩
  · cases hx
    refine ⟨rfl, ?_⟩
    rintro kind ⟨⟩
  · split at hx
    case h_1 found hfind =>
      cases hx
      refine ⟨rfl, ?_⟩
      rintro kind ⟨⟩
      exact hfind
    case h_2 =>
      cases hx
      refine ⟨rfl, ?_⟩
      rintro kind ⟨⟩

/-- What is served is discovered when there are no faults. -/
theorem discover_of_kind? {apiVersion name : String} {kind : Kind}
    (h : s.serving.kind? apiVersion name = some kind) :
    ∃ s', discover (fun _ _ => none) apiVersion name s = (.ok kind, s') ∧
      s'.writes = s.writes := by
  refine ⟨{ s with requests := s.requests ++ [⟨.discover, Kind.plainVersion apiVersion, ""⟩] },
    ?_, rfl⟩
  unfold discover serve
  dsimp only
  rw [h]

theorem discovers_iff {type : ObjectType} {kind : Kind} :
    Discovers type kind ↔
      ∃ serving : Serving, serving.kind? type.apiVersion type.kind = some kind := by
  constructor
  · rintro ⟨faults, s, s', h⟩
    exact ⟨s.serving, (discover_cases h).2 kind rfl⟩
  · rintro ⟨serving, h⟩
    obtain ⟨s', hfound, -⟩ := discover_of_kind? (s := { serving }) h
    exact ⟨_, _, s', hfound⟩

/-- An application that succeeds is written; one that fails is not. -/
theorem apply_cases {kind : Kind} {namespaceName name : String} {object : Json}
    {answer : Except ApiError Unit}
    (h : apply faults kind namespaceName name object s = (answer, s')) :
    s'.writes = s.writes ∨
      answer = .ok () ∧ s'.writes = s.writes ++ [.apply kind.plural namespaceName name object] := by
  rcases serve_cases h with ⟨e, -, hx⟩ | ⟨-, hx⟩
  · cases hx
    exact Or.inl rfl
  · cases hx
    refine Or.inr ⟨rfl, ?_⟩
    unfold log store
    dsimp only
    split <;> rfl

theorem get_cases {kind : Kind} {namespaceName name : String} {answer : Except ApiError Json}
    (h : get faults kind namespaceName name s = (answer, s')) :
    s'.objects = s.objects ∧ ∀ body, answer = .ok body →
      s.find? kind namespaceName name = some body := by
  rcases serve_cases h with ⟨e, -, hx⟩ | ⟨-, hx⟩
  · cases hx
    refine ⟨rfl, ?_⟩
    rintro body ⟨⟩
  · split at hx
    case h_1 found hfind =>
      cases hx
      refine ⟨rfl, ?_⟩
      rintro body ⟨⟩
      exact hfind
    case h_2 =>
      cases hx
      refine ⟨rfl, ?_⟩
      rintro body ⟨⟩

/-- Reading changes no object, and what is read is stored. -/
theorem getIfExists_cases {kind : Kind} {namespaceName name : String}
    {answer : Except ApiError (Option Json)}
    (h : getIfExists faults kind namespaceName name s = (answer, s')) :
    s'.objects = s.objects ∧ ∀ body, answer = .ok (some body) →
      s.find? kind namespaceName name = some body := by
  unfold getIfExists at h
  cases hget : get faults kind namespaceName name s with
  | mk read after =>
    obtain ⟨hobjects, hfound⟩ := get_cases hget
    rw [hget] at h
    cases read with
    | ok body =>
      cases h
      refine ⟨hobjects, ?_⟩
      rintro _ ⟨⟩
      exact hfound body rfl
    | error e =>
      dsimp only at h
      split at h
      · cases h
        refine ⟨hobjects, ?_⟩
        rintro body ⟨⟩
      · cases h
        refine ⟨hobjects, ?_⟩
        rintro body ⟨⟩

/-- The stored object that a look-up finds. -/
theorem exists_of_find? {kind : Kind} {namespaceName name : String} {body : Json}
    (h : s.find? kind namespaceName name = some body) :
    ∃ o ∈ s.objects, o.name = name ∧ o.content = body := by
  obtain ⟨o, ho, hbody⟩ := Option.map_eq_some_iff.mp h
  have hat := List.find?_some ho
  simp only [StoredObject.isAt, Bool.and_eq_true, decide_eq_true_eq] at hat
  exact ⟨o, List.mem_of_find?_eq_some ho, hat.2, hbody⟩

/-- What is read of an object is read of the stored one. -/
theorem readIfExists_cases {α : Type} {kind : Kind} {namespaceName name what : String}
    {read : Json → Option α} {answer : Except Failure (Option α)}
    (h : readIfExists faults kind namespaceName name what read s = (answer, s')) :
    s'.objects = s.objects ∧ ∀ a, answer = .ok (some a) →
      ∃ o ∈ s.objects, o.name = name ∧ read o.content = some a := by
  unfold readIfExists at h
  cases hget : getIfExists faults kind namespaceName name s with
  | mk found after =>
    obtain ⟨hobjects, hfound⟩ := getIfExists_cases hget
    rw [hget] at h
    match found, h, hfound with
    | .error e, h, _ =>
      cases h
      refine ⟨hobjects, ?_⟩
      rintro a ⟨⟩
    | .ok none, h, _ =>
      cases h
      refine ⟨hobjects, ?_⟩
      rintro a ⟨⟩
    | .ok (some body), h, hfound =>
      dsimp only at h
      cases hread : read body with
      | none =>
        rw [hread] at h
        cases h
        refine ⟨hobjects, ?_⟩
        rintro a ⟨⟩
      | some value =>
        rw [hread] at h
        cases h
        refine ⟨hobjects, ?_⟩
        rintro a ⟨⟩
        obtain ⟨o, hmem, hname, hbody⟩ := exists_of_find? (hfound body rfl)
        rw [← hbody] at hread
        exact ⟨o, hmem, hname, hread⟩

end Server

end NetworkRollout
