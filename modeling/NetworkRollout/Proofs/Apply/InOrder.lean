import NetworkRollout.Proofs.Apply.Applier
import NetworkRollout.Proofs.Server.Questions
import Mathlib.Data.List.Forall2

/-!
# Applying objects in order

A run of applications has the effects of its objects, each once and in their order, up to the first
object that cannot be applied. That object has no effect, and those behind it are not tried.

* `Object.AppliedAs`: the effect of applying an object.
* `Server.applyObject_effect`: applying one object has its effect, or none and fails.
* `Server.AppliedInOrder`, `Server.applyAll_inOrder`: how every run of applications ends.
-/

namespace NetworkRollout

/-- The effect of applying an object: what the object says of itself is applied as the kind that
its type is on the server. -/
def Object.AppliedAs (serving : Serving) (ns : Namespaces) (o : Object) (effect : Effect) : Prop :=
  ∃ type kind, o.type = some type ∧ serving.kind? type.apiVersion type.kind = some kind ∧
    effect = .apply kind (Server.applyNamespace ns kind o) o.anyName o.toJson

namespace Server

variable {faults : Faults} {ns : Namespaces} {s s' : Server}

theorem apply_effect (faults : Faults) (kind : Kind) (namespaceName name : String) (object : Json)
    (s : Server) :
    (∃ e, (apply faults kind namespaceName name object s).1 = .error e) ∧
        Did s (apply faults kind namespaceName name object s).2 [] ∨
      (apply faults kind namespaceName name object s).1 = .ok () ∧
        Did s (apply faults kind namespaceName name object s).2
          [.apply kind namespaceName name object] := by
  rcases serve_cases (x := apply faults kind namespaceName name object s) rfl with
    ⟨e, -, hx⟩ | ⟨-, hx⟩
  · rw [← hx]
    exact Or.inl ⟨⟨e, rfl⟩, did_received s _⟩
  · rw [← hx]
    refine Or.inr ⟨rfl, ?_, ?_, ?_⟩
    · exact objects_store_congr (s := { s with requests := _ }) (t := { objects := s.objects })
        rfl _
    · exact congrArg (· ++ [_]) (writes_store _ _)
    · exact serving_store _ _

/-- Applying an object has its effect, or none and fails. -/
theorem applyObject_effect {o : Object} {answer : Except Failure Unit}
    (h : applyObject faults ns o s = (answer, s')) :
    answer = .ok () ∧ (∃ effect, o.AppliedAs s.serving ns effect ∧ Did s s' [effect]) ∨
      ∃ e, answer = .error e ∧ ¬ e.IsInvalidConfig ∧ Did s s' [] := by
  unfold applyObject at h
  cases htype : o.type with
  | none =>
    rw [htype] at h
    cases h
    exact Or.inr ⟨_, rfl, by rintro ⟨_, ⟨⟩⟩, .refl s⟩
  | some type =>
    rw [htype] at h
    dsimp only at h
    have hmiddle := did_discover faults type.apiVersion type.kind s
    cases hdiscover : discover faults type.apiVersion type.kind s with
    | mk found middle =>
      rw [hdiscover] at h hmiddle
      cases found with
      | error e =>
        cases h
        exact Or.inr ⟨_, rfl, not_isInvalidConfig_unreadable _, hmiddle⟩
      | ok kind =>
        dsimp only at h
        have heffect := apply_effect faults kind (applyNamespace ns kind o) o.anyName
          o.toJson middle
        cases happly : apply faults kind (applyNamespace ns kind o) o.anyName o.toJson middle with
        | mk applied after =>
          rw [happly] at h heffect
          rcases heffect with ⟨⟨e, rfl⟩, hdid⟩ | ⟨rfl, hdid⟩
          · cases h
            exact Or.inr ⟨_, rfl, not_isInvalidConfig_failed _ e, hmiddle.trans hdid⟩
          · cases h
            have hkind := (discover_cases hdiscover).2 kind rfl
            exact Or.inl ⟨rfl, _, ⟨type, kind, htype, hkind, rfl⟩, hmiddle.trans hdid⟩

/-- How a run of applications ends: with all objects applied, or at the first one that cannot be
applied, with exactly those before it applied. -/
inductive AppliedInOrder (faults : Faults) (ns : Namespaces) (objects : List Object) (s : Server) :
    Except Failure Nat → Server → List Effect → Prop
  | all {s' : Server} {applied : List Effect}
      (heach : List.Forall₂ (Object.AppliedAs s.serving ns) objects applied)
      (hdid : s.Did s' applied) :
      AppliedInOrder faults ns objects s (.ok objects.length) s' applied
  | stopped {before later : List Object} {o : Object} {middle s' : Server} {e : Failure}
      {applied : List Effect} (hobjects : objects = before ++ o :: later)
      (heach : List.Forall₂ (Object.AppliedAs s.serving ns) before applied)
      (hmiddle : Did s middle applied)
      (hfails : applyObject faults ns o middle = (.error e, s')) (hdid : Did s s' applied)
      (hcause : ¬ e.IsInvalidConfig) :
      AppliedInOrder faults ns objects s (.error e) s' applied

theorem AppliedInOrder.did {objects : List Object} {answer : Except Failure Nat}
    {applied : List Effect} (h : AppliedInOrder faults ns objects s answer s' applied) :
    Did s s' applied := by
  cases h with
  | all _ hdid => exact hdid
  | stopped _ _ _ _ hdid _ => exact hdid

theorem exists_appliedAs {serving : Serving} {objects : List Object} {applied : List Effect}
    (h : List.Forall₂ (Object.AppliedAs serving ns) objects applied) :
    ∀ effect ∈ applied, ∃ o ∈ objects, o.AppliedAs serving ns effect := by
  induction h with
  | nil => rintro effect ⟨⟩
  | @cons o first objects applied hfirst _ ih =>
    intro effect hmem
    rcases List.mem_cons.mp hmem with rfl | hrest
    · exact ⟨o, List.mem_cons_self, hfirst⟩
    · obtain ⟨p, hp, happlied⟩ := ih effect hrest
      exact ⟨p, List.mem_cons_of_mem o hp, happlied⟩

/-- Every effect is that of an object to apply. -/
theorem AppliedInOrder.each {objects : List Object} {answer : Except Failure Nat}
    {applied : List Effect} (h : AppliedInOrder faults ns objects s answer s' applied) :
    ∀ effect ∈ applied, ∃ o ∈ objects, o.AppliedAs s.serving ns effect := by
  cases h with
  | all heach _ => exact exists_appliedAs heach
  | stopped hobjects heach _ _ _ _ =>
    intro effect hmem
    obtain ⟨o, ho, happlied⟩ := exists_appliedAs heach effect hmem
    rw [hobjects]
    exact ⟨o, List.mem_append_left _ ho, happlied⟩

theorem AppliedInOrder.all_of_ok {objects : List Object} {n : Nat} {applied : List Effect}
    (h : AppliedInOrder faults ns objects s (.ok n) s' applied) :
    List.Forall₂ (Object.AppliedAs s.serving ns) objects applied := by
  cases h with
  | all heach _ => exact heach

theorem AppliedInOrder.cause {objects : List Object} {e : Failure} {applied : List Effect}
    (h : AppliedInOrder faults ns objects s (.error e) s' applied) : ¬ e.IsInvalidConfig := by
  cases h with
  | stopped _ _ _ _ _ hcause => exact hcause

/-- The induction is on the objects: each one that is applied comes in front of the rest. -/
theorem applyAll_inOrder {objects : List Object} {answer : Except Failure Nat}
    (h : applyAll faults ns objects s = (answer, s')) :
    ∃ applied, AppliedInOrder faults ns objects s answer s' applied := by
  induction objects generalizing s answer with
  | nil =>
    cases h
    exact ⟨[], .all .nil (.refl _)⟩
  | cons o rest ih =>
    unfold applyAll at h
    cases hone : applyObject faults ns o s with
    | mk applied middle =>
      rw [hone] at h
      rcases applyObject_effect hone with ⟨rfl, effect, heffect, hmiddle⟩ | ⟨e, rfl, hcause, hnone⟩
      · dsimp only at h
        cases hrest : applyAll faults ns rest middle with
        | mk counted after =>
          rw [hrest] at h
          -- the count of the rest says nothing about the server
          have hs' : after = s' := by cases counted <;> exact congrArg Prod.snd h
          rw [hs'] at hrest
          obtain ⟨later, happlied⟩ := ih hrest
          -- the rest is applied to the same server
          have hserving := hmiddle.serving
          cases happlied with
          | all heach hdid =>
            cases h
            exact ⟨_, .all (.cons heffect (hserving ▸ heach)) (hmiddle.trans hdid)⟩
          | stopped hobjects heach hbefore hfails hdid hcause =>
            cases h
            exact ⟨_, .stopped (congrArg (o :: ·) hobjects) (.cons heffect (hserving ▸ heach))
              (hmiddle.trans hbefore) hfails (hmiddle.trans hdid) hcause⟩
      · cases h
        exact ⟨[], .stopped (List.nil_append _).symm .nil (.refl s) hone hnone hcause⟩

end Server

end NetworkRollout
