import Mathlib.Logic.Function.Basic
import NetworkRollout.Proofs.Bootstrap.Deadlines

/-!
# Bootstraps that share their deadlines

Bootstraps of many targets go on at the same time. What they share, beside the world, is the
deadlines, and each of them touches these twice: it looks its own up when its discovery begins, and
shrinks it when the discovery has run into it. Between two such moments any other bootstrap may go
on, fail or end. However they take their turns, the deadline of a target is that of the discoveries
of the target that timed out, and of nothing else.

* `BootstrapCall`, `BootstrapStage`: a bootstrap, and how far it is.
* `BootstrapCall.advance`: a part of a bootstrap that touches the deadlines at one moment;
  `BootstrapCall.alone_eq`: the parts in a row are a bootstrap.
* `Bootstraps.turn`, `Bootstraps.after`: bootstraps that take turns.
* `adaptiveDeadlines`: the deadline of a target after any turns.
-/

namespace NetworkRollout

open PassM

variable {σ : Type}

/-! ## One bootstrap and its parts -/

/-- A bootstrap of a target, with whom it asks. -/
structure BootstrapCall (σ : Type) where
  surroundings : Surroundings σ
  namespaces : Namespaces := {}
  target : String
  spec : NetworkSpec := {}

/-- How far a bootstrap is. Its deadline is looked up when the discovery begins. -/
inductive BootstrapStage where
  | begun
  | discovering (surveyed : Infrastructure × Nat) (deadline : Deadline)
  | completing (surveyed : Infrastructure × Nat) (found : Discovery)
  | ended (answer : Except Failure Snapshot)
  deriving DecidableEq

/-- What comes after a discovery. -/
def BootstrapStage.afterDiscovery (surveyed : Infrastructure × Nat) :
    Except Failure Discovery → BootstrapStage
  | .error e => .ended (.error e)
  | .ok found => .completing surveyed found

/-- What a part of a bootstrap leaves: the stage, the state, and the discovery that ended in it. -/
structure BootstrapPart (σ : Type) where
  stage : BootstrapStage
  run : Run σ
  held : Option HeldDiscovery := none

namespace BootstrapCall

/-- The survey, and the look at the deadline. -/
def survey (call : BootstrapCall σ) (run : Run σ) : BootstrapPart σ :=
  match (Bootstrap.survey call.surroundings).run.run run with
  | (.error e, run) => { stage := .ended (.error e), run }
  | (.ok surveyed, run) => { stage := .discovering surveyed (run.deadlines.of call.target), run }

/-- The discovery with the deadline that was looked up. -/
def discover (call : BootstrapCall σ) (surveyed : Infrastructure × Nat) (deadline : Deadline)
    (run : Run σ) : BootstrapPart σ :=
  let d := Discovery.run call.surroundings.listNodes (Bootstrap.polling deadline) surveyed.2
    run.world
  let held : HeldDiscovery := { deadline := deadline.current, outcome := d.outcome }
  { stage := .afterDiscovery surveyed d.outcome
    run :=
      { world := d.world
        elapsed := run.elapsed + d.elapsed
        deadlines := run.deadlines.afterDiscovery call.target held }
    held }

/-- All that follows the discovery. -/
def complete (call : BootstrapCall σ) (surveyed : Infrastructure × Nat) (found : Discovery)
    (run : Run σ) : BootstrapPart σ :=
  let (answer, run) :=
    (Bootstrap.complete call.surroundings call.namespaces call.spec surveyed found).run.run run
  { stage := .ended answer, run }

/-- The next part of a bootstrap. -/
def advance (call : BootstrapCall σ) (stage : BootstrapStage) (run : Run σ) : BootstrapPart σ :=
  match stage with
  | .begun => call.survey run
  | .discovering surveyed deadline => call.discover surveyed deadline run
  | .completing surveyed found => call.complete surveyed found run
  | .ended _ => { stage, run }

/-- The parts in a row, with nothing in between. -/
def alone (call : BootstrapCall σ) (run : Run σ) : BootstrapPart σ :=
  let surveyed := call.advance .begun run
  let discovered := call.advance surveyed.stage surveyed.run
  call.advance discovered.stage discovered.run

/-- A survey fails, or a discovery begins with the deadline that the target has. The deadlines stay
as they are. -/
theorem survey_cases (call : BootstrapCall σ) (run : Run σ) :
    ∃ run', run'.deadlines = run.deadlines ∧
      ((∃ e, call.survey run = { stage := .ended (.error e), run := run' }) ∨
        ∃ surveyed, call.survey run =
          { stage := .discovering surveyed (run.deadlines.of call.target), run := run' }) := by
  have hkept : Ends (Bootstrap.survey call.surroundings) run fun _ run' =>
      run'.deadlines = run.deadlines := Bootstrap.keepsDeadlines_survey run
  unfold survey
  unfold Ends at hkept
  rcases hsurvey : (Bootstrap.survey call.surroundings).run.run run with ⟨e | surveyed, run'⟩
  · rw [hsurvey] at hkept
    exact ⟨run', hkept, Or.inl ⟨e, rfl⟩⟩
  · rw [hsurvey] at hkept
    exact ⟨run', hkept, Or.inr ⟨surveyed, by rw [← hkept]⟩⟩

/-- The deadlines change when a discovery ends, and then as it says. -/
theorem advance_deadlines (call : BootstrapCall σ) (stage : BootstrapStage) (run : Run σ) :
    (call.advance stage run).run.deadlines =
      match (call.advance stage run).held with
      | none => run.deadlines
      | some held => run.deadlines.afterDiscovery call.target held := by
  cases stage with
  | begun =>
    obtain ⟨run', hkept, ⟨e, hsurvey⟩ | ⟨surveyed, hsurvey⟩⟩ := call.survey_cases run <;>
    · rw [advance, hsurvey]
      exact hkept
  | discovering surveyed deadline => rfl
  | completing surveyed found =>
    exact Bootstrap.keepsDeadlines_complete call.namespaces call.spec surveyed found run
  | ended answer => rfl

/-- A bootstrap begins its discovery with the deadline that its target has by then. -/
theorem deadline_of_begun {call : BootstrapCall σ} {run : Run σ}
    {surveyed : Infrastructure × Nat} {deadline : Deadline}
    (h : (call.advance .begun run).stage = .discovering surveyed deadline) :
    deadline = run.deadlines.of call.target := by
  obtain ⟨run', -, ⟨e, hsurvey⟩ | ⟨surveyed', hsurvey⟩⟩ := call.survey_cases run
  · rw [advance, hsurvey] at h
    cases h
  · rw [advance, hsurvey] at h
    cases h
    rfl

/-- Without anything in between, the parts of a bootstrap are that bootstrap. -/
theorem alone_eq (call : BootstrapCall σ) (run : Run σ) :
    let whole := (bootstrap call.surroundings call.namespaces call.target call.spec).run.run run
    call.alone run = { stage := .ended whole.1, run := whole.2 } := by
  rw [bootstrap_eq, run_bind]
  unfold alone
  rw [advance, survey]
  rcases (Bootstrap.survey call.surroundings).run.run run with ⟨e | surveyed, run₁⟩
  · rfl
  · dsimp only
    rw [run_bind, Bootstrap.run_discover]
    have hdiscover : call.advance (.discovering surveyed (run₁.deadlines.of call.target)) run₁ =
      { stage := .afterDiscovery surveyed
          (Bootstrap.discoveryRun call.surroundings call.target surveyed.2 run₁).outcome
        run := Bootstrap.discovered call.surroundings call.target surveyed.2 run₁
        held := some
          { deadline := (run₁.deadlines.of call.target).current
            outcome :=
              (Bootstrap.discoveryRun call.surroundings call.target surveyed.2 run₁).outcome } } :=
      rfl
    rw [hdiscover]
    cases (Bootstrap.discoveryRun call.surroundings call.target surveyed.2 run₁).outcome <;> rfl

end BootstrapCall

/-! ## Bootstraps that take turns -/

/-- Bootstraps over one state, with the discoveries that ended so far and their targets. -/
structure Bootstraps (σ : Type) where
  run : Run σ
  stage : Nat → BootstrapStage := fun _ => .begun
  held : List (String × HeldDiscovery) := []

/-- The next part of one of the bootstraps, and what happens to the world before it. -/
structure BootstrapTurn (σ : Type) where
  call : Nat
  meanwhile : σ → σ := id

/-- The discoveries of a target that ran into their deadline. -/
def timeouts (target : String) (held : List (String × HeldDiscovery)) : Nat :=
  held.countP fun d => d.1 = target && d.2.timedOut

namespace Bootstraps

def turn (calls : Nat → BootstrapCall σ) (b : Bootstraps σ) (t : BootstrapTurn σ) :
    Bootstraps σ :=
  let call := calls t.call
  let part := call.advance (b.stage t.call) { b.run with world := t.meanwhile b.run.world }
  { run := part.run
    stage := Function.update b.stage t.call part.stage
    held := b.held ++ part.held.toList.map fun d => (call.target, d) }

def after (calls : Nat → BootstrapCall σ) (b : Bootstraps σ) (turns : List (BootstrapTurn σ)) :
    Bootstraps σ := turns.foldl (turn calls) b

/-- The deadlines are those of the timeouts that happened. -/
def Counted (b : Bootstraps σ) : Prop :=
  ∀ target, b.run.deadlines.of target = .afterTimeouts (timeouts target b.held)

variable {calls : Nat → BootstrapCall σ} {b : Bootstraps σ}

theorem timeouts_append (target : String) (held more : List (String × HeldDiscovery)) :
    timeouts target (held ++ more) = timeouts target held + timeouts target more :=
  List.countP_append

/-- One turn ends at most one discovery, and then the deadline of its target is one timeout
further if it timed out. -/
theorem Counted.turn (h : b.Counted) (t : BootstrapTurn σ) : (b.turn calls t).Counted := by
  intro target
  have hdeadlines := (calls t.call).advance_deadlines (b.stage t.call)
    { b.run with world := t.meanwhile b.run.world }
  unfold Bootstraps.turn
  dsimp only
  rw [hdeadlines, timeouts_append]
  cases ((calls t.call).advance (b.stage t.call)
    { b.run with world := t.meanwhile b.run.world }).held with
  | none => exact h target
  | some d =>
    dsimp only
    rw [Deadlines.of_afterDiscovery, h target]
    by_cases hhit : (calls t.call).target = target ∧ d.timedOut = true
    · rw [if_pos hhit]
      simp [timeouts, hhit, Deadline.afterTimeouts]
    · rw [if_neg hhit]
      simp [timeouts, hhit]

theorem Counted.after (h : b.Counted) (turns : List (BootstrapTurn σ)) :
    (b.after calls turns).Counted := by
  induction turns generalizing b with
  | nil => exact h
  | cons t rest ih => exact ih (h.turn t)

/-- Discoveries that ended stay on the list. -/
theorem held_turn (b : Bootstraps σ) (t : BootstrapTurn σ) : b.held <+: (b.turn calls t).held :=
  List.prefix_append _ _

theorem held_after (b : Bootstraps σ) (turns : List (BootstrapTurn σ)) :
    b.held <+: (b.after calls turns).held := by
  induction turns generalizing b with
  | nil => exact List.prefix_rfl
  | cons t rest ih => exact (b.held_turn t).trans (ih _)

end Bootstraps

/-- After any turns of any bootstraps, the deadline of a target is the one after as many timeouts as
discoveries of the target ran into theirs, whatever became of their bootstraps and whatever the
other targets did. A discovery that begins next has this deadline; it never grows, and never falls
below ten seconds. The parts that take turns are those of `bootstrap`. -/
theorem adaptiveDeadlines (calls : Nat → BootstrapCall σ) (world : σ)
    (turns : List (BootstrapTurn σ)) (target : String) :
    let b := Bootstraps.after calls { run := { world } } turns
    let due := max 10 (250 - 120 * min (timeouts target b.held) 2)
    (b.run.deadlines.of target).current = due ∧
      (∀ (call : BootstrapCall σ) (meanwhile : σ) (surveyed : Infrastructure × Nat)
        (deadline : Deadline), call.target = target →
        (call.advance .begun { b.run with world := meanwhile }).stage =
          .discovering surveyed deadline → deadline.current = due) ∧
      (∀ more, let later := ((b.after calls more).run.deadlines.of target).current
        10 ≤ later ∧ later ≤ due) ∧
      ∀ (call : BootstrapCall σ) (run : Run σ),
        let whole := (bootstrap call.surroundings call.namespaces call.target call.spec).run.run run
        call.alone run = { stage := .ended whole.1, run := whole.2 } := by
  intro b due
  have hstart : Bootstraps.Counted (σ := σ) { run := { world } } := fun _ => rfl
  have hcounted : b.Counted := hstart.after turns
  have hdue : (b.run.deadlines.of target).current = due := by
    rw [hcounted target, Deadline.current_afterTimeouts]
  refine ⟨hdue, ?_, ?_, BootstrapCall.alone_eq⟩
  · rintro call meanwhile surveyed deadline rfl hbegun
    rw [BootstrapCall.deadline_of_begun hbegun]
    exact hdue
  · intro more
    have hmore : timeouts target b.held ≤ timeouts target (b.after calls more).held :=
      (b.held_after more).sublist.countP_le
    dsimp only
    rw [hcounted.after more target, Deadline.current_afterTimeouts]
    omega

/-- A script whose listings are slower than any deadline, so that nobody is seen. -/
def Script.slow : Script where
  configMap _ name := if name = Names.clusterConfigName then .ok (some []) else .ok none
  listings := [{ delay := 250001, answer := .ok [] }]

/-- Bootstraps of two targets in such a script. -/
def slowCalls (call : Nat) : BootstrapCall ScriptState where
  surroundings := Script.slow.surroundings
  target := if call = 1 then "b" else "a"

/-- One part of `b` after the first of `a`. -/
def slowTurns : List (BootstrapTurn ScriptState) := [0, 1, 0, 0].map fun call => { call }

/-- The bootstraps of `a` and of `b` overlap, and that of `a` fails after its timeout. The next
discovery of `a` has 130 seconds. -/
theorem adaptiveDeadlines_overlapping :
    let b := Bootstraps.after slowCalls { run := { world := {} } } slowTurns
    timeouts "a" b.held = 1 ∧ b.stage 0 = .ended (.error .noControlPlaneMembers) ∧
      ∃ surveyed deadline, ((slowCalls 2).advance .begun b.run).stage =
        .discovering surveyed deadline ∧ deadline.current = 130 := by
  intro b
  obtain ⟨-, huses, -⟩ := adaptiveDeadlines slowCalls {} slowTurns "a"
  have hhit : timeouts "a" b.held = 1 := by decide +kernel
  have hbegun : ((slowCalls 2).advance .begun b.run).stage =
    .discovering ({}, 0) (b.run.deadlines.of "a") := rfl
  refine ⟨hhit, by decide +kernel, _, _, hbegun, ?_⟩
  have hdue := huses (slowCalls 2) b.run.world _ _ rfl hbegun
  rw [hdue, hhit]
  decide

end NetworkRollout
