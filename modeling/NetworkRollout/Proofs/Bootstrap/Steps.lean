import NetworkRollout.Bootstrap.Surroundings

/-!
# How the steps of a pass end

A step ends with an answer or a failure, and in a state. What holds of the end of a step is derived
from what holds of the ends of its parts: a failure of the first part is the end of both.

* `PassM.Ends`: what holds of the end of a step.
* `ends_get`, `ends_set`, `ends_lift`: the end of a step that does not ask.
* `ends_bind`, `Ends.bind`: the end of two steps in a row.
* `ends_ask`, `ends_attempt`, `ends_askAs`: the end of a question.
-/

namespace NetworkRollout.PassM

variable {σ α β : Type} {run : Run σ}

/-- A question leaves a state behind like the one it was asked in, but for the world. -/
def asked (run : Run σ) (question : σ → Except Failure α × σ) : Run σ :=
  { run with world := (question run.world).2 }

/-- What holds of the answer of a step and of the state that it ends in. -/
def Ends (step : PassM σ α) (run : Run σ) (Q : Except Failure α → Run σ → Prop) : Prop :=
  Q (step.run.run run).1 (step.run.run run).2

theorem Ends.mono {step : PassM σ α} {P Q : Except Failure α → Run σ → Prop}
    (h : Ends step run P) (hPQ : ∀ answer run', P answer run' → Q answer run') :
    Ends step run Q := hPQ _ _ h

theorem ends_pure {a : α} {Q : Except Failure α → Run σ → Prop} :
    Ends (pure a) run Q ↔ Q (.ok a) run := Iff.rfl

theorem ends_throw {e : Failure} {Q : Except Failure α → Run σ → Prop} :
    Ends (throw e) run Q ↔ Q (.error e) run := Iff.rfl

theorem ends_get {Q : Except Failure (Run σ) → Run σ → Prop} :
    Ends get run Q ↔ Q (.ok run) run := Iff.rfl

theorem ends_set {next : Run σ} {Q : Except Failure PUnit → Run σ → Prop} :
    Ends (set next) run Q ↔ Q (.ok ⟨⟩) next := Iff.rfl

theorem ends_lift (x : Except Failure α) {Q : Except Failure α → Run σ → Prop} :
    Ends (liftM x) run Q ↔ Q x run := by
  cases x <;> rfl

theorem run_bind (x : PassM σ α) (f : α → PassM σ β) (run : Run σ) :
    (x >>= f).run.run run =
      match x.run.run run with
      | (.ok a, run') => (f a).run.run run'
      | (.error e, run') => (.error e, run') := by
  unfold ExceptT.run StateT.run
  simp only [bind, ExceptT.bind, ExceptT.mk, StateT.bind, ExceptT.bindCont]
  cases x run with
  | mk answer run' => cases answer <;> rfl

theorem ends_bind {x : PassM σ α} {f : α → PassM σ β} {Q : Except Failure β → Run σ → Prop} :
    Ends (x >>= f) run Q ↔
      Ends x run fun answer run' =>
        match answer with
        | .ok a => Ends (f a) run' Q
        | .error e => Q (.error e) run' := by
  unfold Ends
  rw [run_bind]
  rcases x.run.run run with ⟨answer | answer, run'⟩ <;> rfl

/-- Two steps in a row: the second goes on from what the first answers. -/
theorem Ends.bind {x : PassM σ α} {f : α → PassM σ β} {P : Except Failure α → Run σ → Prop}
    {Q : Except Failure β → Run σ → Prop} (hx : Ends x run P)
    (herror : ∀ e run', P (.error e) run' → Q (.error e) run')
    (hok : ∀ a run', P (.ok a) run' → Ends (f a) run' Q) : Ends (x >>= f) run Q := by
  refine ends_bind.mpr (hx.mono ?_)
  intro answer run' hP
  cases answer with
  | error e => exact herror e run' hP
  | ok a => exact hok a run' hP

/-! ## Questions -/

theorem run_ask (question : σ → Except Failure α × σ) (run : Run σ) :
    (ask question).run.run run = ((question run.world).1, asked run question) := by
  change (set (asked run question) >>= fun _ =>
    (liftM (question run.world).1 : PassM σ α)).run.run run = _
  rw [run_bind]
  cases (question run.world).1 <;> rfl

theorem ends_ask {question : σ → Except Failure α × σ} {Q : Except Failure α → Run σ → Prop} :
    Ends (ask question) run Q ↔ Q (question run.world).1 (asked run question) := by
  unfold Ends
  rw [run_ask]

theorem ends_attempt {question : σ → Except Failure α × σ}
    {Q : Except Failure (Except Failure α) → Run σ → Prop} :
    Ends (attempt question) run Q ↔ Q (.ok (question run.world).1) (asked run question) := Iff.rfl

theorem ends_askAs {cause : Failure → Failure} {question : σ → Except Failure α × σ}
    {Q : Except Failure α → Run σ → Prop} :
    Ends (askAs cause question) run Q ↔
      Q ((question run.world).1.mapError cause) (asked run question) := by
  unfold askAs
  rw [ends_bind, ends_attempt]
  cases (question run.world).1 <;> rfl

theorem run_askAs (cause : Failure → Failure) (question : σ → Except Failure α × σ)
    (run : Run σ) :
    (askAs cause question).run.run run =
      ((question run.world).1.mapError cause, asked run question) :=
  (ends_askAs (Q := fun answer run' => (answer, run') = _)).mpr rfl

end NetworkRollout.PassM
