import NetworkRollout.Proofs.Status.Conditions
import NetworkRollout.Proofs.Status.MergedStatus

/-!
# The summary of the status

The outcomes of a pass each change some of the fields that sum the status up: the decision, the
message and the conditions. Whatever outcomes follow each other, the fields fit together: the
network is ready exactly if the last pass left no message and its decision held nothing back, and
then its configuration is valid.

* `RolloutStatus.Shows`: what the status shows under a type.
* `RolloutStatus.Consistent`: how the fields fit together.
* `Outcome`, `RolloutStatus.Consistent.reported`: every outcome keeps them so.
* `RolloutStatus.DerivedFrom.consistent`: so do the statuses that passes build and store.
* `RolloutStatus.consistentSummary`: they fit together after every run of outcomes.
-/

namespace NetworkRollout

/-- An outcome that the status is changed by, with all that it reports. -/
inductive Outcome where
  | bootstrapped (now : Moment) (snapshot : Snapshot) (spec : NetworkSpec)
  | rolledOut (now : Moment) (decision : Decision) (applied : Nat)
  | invalid (now : Moment) (faults : List String)
  | failed (now : Moment) (reason message : String)

namespace RolloutStatus

def reported (s : RolloutStatus) : Outcome → RolloutStatus
  | .bootstrapped now snapshot spec => s.bootstrapped now snapshot spec
  | .rolledOut now decision applied => s.rolledOut now decision applied
  | .invalid now faults => s.invalid now faults
  | .failed now reason message => s.failed now reason message

def afterOutcomes (s : RolloutStatus) (outcomes : List Outcome) : RolloutStatus :=
  outcomes.foldl reported s

variable {s : RolloutStatus} {now : Moment} {type status reason : String} {message : Option String}

/-! ## What is shown -/

/-- A condition of the type has the status and the message. -/
def Shows (s : RolloutStatus) (type status : String) (message : Option String) : Prop :=
  ∃ c ∈ s.conditions, c.type = type ∧ c.status = status ∧ c.message = message

/-- A condition of the type has the status, with any message. -/
def Says (s : RolloutStatus) (type status : String) : Prop :=
  ∃ message, s.Shows type status message

theorem shows_setCondition_self {status' : String} {message' : Option String} :
    (s.setCondition now type status reason message).Shows type status' message' ↔
      status = status' ∧ message = message' := by
  unfold Shows
  simp only [mem_setCondition]
  constructor
  · rintro ⟨c, ⟨-, hother⟩ | rfl, htype, htold⟩
    · exact absurd htype hother
    · exact htold
  · exact fun htold => ⟨_, Or.inr rfl, rfl, htold⟩

theorem shows_setCondition_of_ne {other status' : String} {message' : Option String}
    (h : other ≠ type) :
    (s.setCondition now type status reason message).Shows other status' message' ↔
      s.Shows other status' message' := by
  unfold Shows
  simp only [mem_setCondition]
  constructor
  · rintro ⟨c, ⟨hc, -⟩ | rfl, htype, htold⟩
    · exact ⟨c, hc, htype, htold⟩
    · exact absurd htype.symm h
  · rintro ⟨c, hc, rfl, htold⟩
    exact ⟨c, Or.inl ⟨hc, h⟩, rfl, htold⟩

theorem says_setCondition_self {status' : String} :
    (s.setCondition now type status reason message).Says type status' ↔ status = status' := by
  simp only [Says, shows_setCondition_self, exists_and_left, exists_eq', and_true]

theorem says_setCondition_of_ne {other status' : String} (h : other ≠ type) :
    (s.setCondition now type status reason message).Says other status' ↔ s.Says other status' :=
  exists_congr fun _ => shows_setCondition_of_ne h

/-! ## How the fields fit together -/

/-- The last decision holds no tier back, and there is no message of a failure. -/
def IsSettled (s : RolloutStatus) : Prop :=
  s.message = none ∧ ∃ d, s.decision = some d ∧ d.updateMaster = true ∧ d.updateNode = true

/-- The conditions, of which there is at most one for each type, agree with the message and the
decision and with each other. -/
structure Consistent (s : RolloutStatus) : Prop where
  onePerType : s.OnePerType
  ready_iff : s.Says readyType "True" ↔ s.IsSettled
  valid_of_ready : s.Says readyType "True" → s.Says configValidType "True"
  shows_message : ∀ text, s.message = some text → s.Shows readyType "False" (some text)
  unready_of_invalid : s.Says configValidType "False" → s.Says readyType "False"

/-- The summary is the message, the decision and the conditions, whatever the other fields are. -/
theorem Consistent.congr {s' : RolloutStatus} (h : s.Consistent) (hmessage : s'.message = s.message)
    (hdecision : s'.decision = s.decision) (hconditions : s'.conditions = s.conditions) :
    s'.Consistent := by
  have hone : s'.OnePerType = s.OnePerType := by
    unfold OnePerType
    rw [hconditions]
  have hshows : s'.Shows = s.Shows := by
    unfold Shows
    rw [hconditions]
  have htold : s'.Says = s.Says := by
    unfold Says
    rw [hshows]
  have hsettled : s'.IsSettled = s.IsSettled := by
    unfold IsSettled
    rw [hmessage, hdecision]
  refine ⟨hone.mpr h.onePerType, ?_, ?_, ?_, ?_⟩
  · rw [htold, hsettled]
    exact h.ready_iff
  · rw [htold]
    exact h.valid_of_ready
  · rw [hmessage, hshows]
    exact h.shows_message
  · rw [htold]
    exact h.unready_of_invalid

/-- A status that says nothing yet. -/
theorem consistent_default : Consistent {} where
  onePerType := List.nodup_nil
  ready_iff := iff_of_false (fun ⟨_, _, hc, _⟩ => nomatch hc) (fun ⟨_, _, hd, _⟩ => nomatch hd)
  valid_of_ready := fun ⟨_, _, hc, _⟩ => nomatch hc
  shows_message := nofun
  unready_of_invalid := fun ⟨_, _, hc, _⟩ => nomatch hc

/-- A status that is made to say that it is not ready, with its message if it has one, is consistent
whatever else it says. -/
theorem OnePerType.consistent_unready (h : s.OnePerType) (hunsettled : ¬ s.IsSettled)
    (hmessage : ∀ text, s.message = some text → message = some text) :
    (s.setCondition now readyType "False" reason message).Consistent where
  onePerType := h.setCondition _ _ _ _ _
  ready_iff := iff_of_false (fun hready => nomatch says_setCondition_self.mp hready) hunsettled
  valid_of_ready hready := nomatch says_setCondition_self.mp hready
  shows_message text htext := shows_setCondition_self.mpr ⟨rfl, hmessage text htext⟩
  unready_of_invalid _ := says_setCondition_self.mpr rfl

/-- A settled status is consistent when it is made to say that its configuration is valid and then
that it is ready. -/
theorem OnePerType.consistent_ready (h : s.OnePerType) (hsettled : s.IsSettled) (now : Moment)
    (reason reason' : String) (message message' : Option String) :
    ((s.setCondition now configValidType "True" reason message).setCondition now readyType "True"
      reason' message').Consistent where
  onePerType := (h.setCondition _ _ _ _ _).setCondition _ _ _ _ _
  ready_iff := iff_of_true (says_setCondition_self.mpr rfl) hsettled
  valid_of_ready _ := (says_setCondition_of_ne (by decide)).mpr (says_setCondition_self.mpr rfl)
  shows_message text htext := nomatch hsettled.1.symm.trans htext
  unready_of_invalid hinvalid :=
    nomatch says_setCondition_self.mp ((says_setCondition_of_ne (by decide)).mp hinvalid)

theorem heldBack_eq_nil_iff {d : Decision} :
    heldBack d = [] ↔ d.updateMaster = true ∧ d.updateNode = true := by
  unfold heldBack
  cases d.updateMaster <;> cases d.updateNode <;> simp

/-! ## Outcomes -/

/-- The facts of a bootstrap are other fields than those of the summary, and another condition. -/
theorem Consistent.bootstrapped (h : s.Consistent) (now : Moment) (snapshot : Snapshot)
    (spec : NetworkSpec) : (s.bootstrapped now snapshot spec).Consistent := by
  have hready : readyType ≠ bootstrappedType := by decide
  have hvalid : configValidType ≠ bootstrappedType := by decide
  exact
    { onePerType := OnePerType.setCondition h.onePerType _ _ _ _ _
      ready_iff := (says_setCondition_of_ne hready).trans h.ready_iff
      valid_of_ready := fun htold => (says_setCondition_of_ne hvalid).mpr
        (h.valid_of_ready ((says_setCondition_of_ne hready).mp htold))
      shows_message := fun text htext =>
        (shows_setCondition_of_ne hready).mpr (h.shows_message text htext)
      unready_of_invalid := fun htold => (says_setCondition_of_ne hready).mpr
        (h.unready_of_invalid ((says_setCondition_of_ne hvalid).mp htold)) }

theorem OnePerType.consistent_rolledOut (h : s.OnePerType) (now : Moment) (decision : Decision)
    (applied : Nat) : (s.rolledOut now decision applied).Consistent := by
  unfold rolledOut
  split
  case h_1 hheld =>
    refine OnePerType.consistent_ready ?_ ?_ _ _ _ _ _
    · exact h
    · exact ⟨rfl, decision, rfl, heldBack_eq_nil_iff.mp hheld⟩
  case h_2 hheld =>
    refine OnePerType.consistent_unready (OnePerType.setCondition h _ _ _ _ _) ?_ nofun
    rintro ⟨-, d, hd, hfree⟩
    cases hd
    exact hheld (heldBack_eq_nil_iff.mpr hfree)

theorem OnePerType.consistent_invalid (h : s.OnePerType) (now : Moment) (faults : List String) :
    (s.invalid now faults).Consistent :=
  OnePerType.consistent_unready (OnePerType.setCondition h _ _ _ _ _) nofun fun _ => id

theorem OnePerType.consistent_failed (h : s.OnePerType) (now : Moment) (reason message : String) :
    (s.failed now reason message).Consistent :=
  OnePerType.consistent_unready h nofun fun _ => id

theorem Consistent.reported (h : s.Consistent) (outcome : Outcome) :
    (s.reported outcome).Consistent := by
  cases outcome with
  | bootstrapped now snapshot spec => exact h.bootstrapped now snapshot spec
  | rolledOut now decision applied => exact h.onePerType.consistent_rolledOut now decision applied
  | invalid now faults => exact h.onePerType.consistent_invalid now faults
  | failed now reason message => exact h.onePerType.consistent_failed now reason message

theorem Consistent.afterOutcomes (h : s.Consistent) (outcomes : List Outcome) :
    (s.afterOutcomes outcomes).Consistent := by
  induction outcomes generalizing s with
  | nil => exact h
  | cons outcome outcomes ih => exact ih (h.reported outcome)

/-- A pass builds a consistent status from a consistent one, and so is what is stored when its patch
is merged: what the patch leaves out is nothing of the summary. -/
theorem DerivedFrom.consistent {old new : RolloutStatus} (h : DerivedFrom old new)
    (hold : old.Consistent) : new.Consistent ∧ (new.laidOver old).Consistent := by
  have hnew : new.Consistent := by
    induction h with
    | copy => exact hold
    | bootstrapped _ now snapshot spec ih => exact ih.reported (.bootstrapped now snapshot spec)
    | @rolledOut s generation _ _ now decision applied ih =>
      -- the new generation is not part of the summary
      have hs : Consistent { s with observedGeneration := generation } := ih.congr rfl rfl rfl
      exact hs.reported (.rolledOut now decision applied)
    | invalid _ now faults ih => exact ih.reported (.invalid now faults)
    | failed _ now reason message ih => exact ih.reported (.failed now reason message)
  have hkeeps := h.keeps
  have hdecision : (new.laidOver old).decision = new.decision := by
    unfold laidOver
    cases hnone : new.decision with
    | none => exact hkeeps.decision hnone
    | some d => rfl
  have hconditions : (new.laidOver old).conditions = new.conditions := by
    unfold laidOver
    dsimp only
    split
    case isTrue hempty => rw [hkeeps.conditions hempty, hempty]
    case isFalse => rfl
  exact ⟨hnew, hnew.congr rfl hdecision hconditions⟩

/-- The summary is consistent after every run of outcomes on a new status, in any order and with
anything that they may report. -/
theorem consistentSummary (outcomes : List Outcome) :
    (({} : RolloutStatus).afterOutcomes outcomes).Consistent :=
  consistent_default.afterOutcomes outcomes

end RolloutStatus

end NetworkRollout
