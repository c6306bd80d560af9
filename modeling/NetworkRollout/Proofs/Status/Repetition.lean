import Mathlib.Data.List.Forall2
import NetworkRollout.Proofs.Status.Conditions

/-!
# Outcomes that repeat

Calls for different types put their conditions at the end, in the order of the calls. When the same
calls come again, whatever the clock shows by then, each finds its condition with the same status
and keeps its moment, and the conditions stand at the end again as they stood.

* `RolloutStatus.afterCalls_eq`: what calls for different types leave.
* `RolloutStatus.afterCalls_again`: the same calls at other moments.
* `FailingOutcome`: the ways in which a pass fails, as far as the status tells.
* `FailingOutcome.on_on`: the same failure at other moments.
-/

namespace NetworkRollout

variable {calls calls' : List ConditionCall} {call call' : ConditionCall}

/-- The second call says what the first one says, at a moment of its own. -/
def ConditionCall.SaysSame (call call' : ConditionCall) : Prop :=
  call' = { call with now := call'.now }

namespace RolloutStatus

variable {s : RolloutStatus} {type : String}

/-! ## Calls for different types -/

/-- The condition that a call puts at the end. -/
def left (s : RolloutStatus) (call : ConditionCall) : Condition :=
  call.condition (sinceWhen s.conditions call.type call.status call.now)

theorem called_eq (s : RolloutStatus) (call : ConditionCall) :
    s.called call =
      { s with conditions := s.conditions.filter (·.type ≠ call.type) ++ [s.left call] } := rfl

/-- A call for another type does not matter for the moment of a condition. -/
theorem sinceWhen_called_of_ne (h : type ≠ call.type) (status : String) (now : Moment) :
    sinceWhen (s.called call).conditions type status now =
      sinceWhen s.conditions type status now := by
  have hnew : (s.left call).type ≠ type := Ne.symm h
  have hfind : (s.called call).conditions.find? (fun c => c.type = type && c.status = status) =
      s.conditions.find? fun c => c.type = type && c.status = status := by
    rw [called_eq, List.find?_append, List.find?_filter, List.find?_singleton,
      decide_eq_false hnew, Bool.false_and, if_neg Bool.false_ne_true, Option.or_none]
    refine congrArg (List.find? · s.conditions) (funext fun c => ?_)
    by_cases htype : c.type = type
    · simp [htype, h]
    · simp [htype]
  unfold sinceWhen
  rw [hfind]

/-- Calls for different types leave the conditions of other types, and behind them one condition for
each call. -/
theorem afterCalls_eq (s : RolloutStatus) (h : (calls.map (·.type)).Nodup) :
    s.afterCalls calls =
      { s with conditions := s.conditions.filter (·.type ∉ calls.map (·.type)) ++
          calls.map s.left } := by
  induction calls generalizing s with
  | nil => simp [afterCalls]
  | cons call calls ih =>
    obtain ⟨hnew, hrest⟩ := List.nodup_cons.mp h
    have hleft : calls.map (s.called call).left = calls.map s.left := by
      refine List.map_congr_left fun other hother => ?_
      have hne : other.type ≠ call.type := fun heq =>
        hnew (List.mem_map.mpr ⟨other, hother, heq⟩)
      unfold left
      rw [sinceWhen_called_of_ne hne]
    have hkept : (s.called call).conditions.filter (·.type ∉ calls.map (·.type)) =
        s.conditions.filter (·.type ∉ (call :: calls).map (·.type)) ++ [s.left call] := by
      have htype : (s.left call).type ∉ calls.map (·.type) := hnew
      rw [called_eq, List.filter_append, List.filter_filter, List.filter_singleton,
        decide_eq_true htype]
      refine congrArg (List.filter · s.conditions ++ [s.left call]) (funext fun c => ?_)
      rw [← Bool.decide_and]
      exact decide_eq_decide.mpr (by rw [List.map_cons, List.mem_cons, not_or, and_comm])
    change (s.called call).afterCalls calls = _
    rw [ih _ hrest, hleft, hkept, List.append_assoc]
    rfl

/-- The moment of a condition is found where it is the only one of its type. -/
theorem sinceWhen_of_only {conditions : List Condition} {c : Condition} (hc : c ∈ conditions)
    (honly : ∀ d ∈ conditions, d.type = c.type → d = c) (now : Moment) :
    sinceWhen conditions c.type c.status now = c.since := by
  unfold sinceWhen
  cases hfind : conditions.find? fun d => d.type = c.type && d.status = c.status with
  | none => simpa using List.find?_eq_none.mp hfind c hc
  | some d =>
    have hboth := List.find?_some hfind
    rw [Bool.and_eq_true, decide_eq_true_iff] at hboth
    rw [honly d (List.mem_of_find?_eq_some hfind) hboth.1]

/-- The condition that a call has left is found by a call that says the same. -/
theorem left_afterCalls (s : RolloutStatus) (h : (calls.map (·.type)).Nodup) (hcall : call ∈ calls)
    (hsame : call.SaysSame call') : (s.afterCalls calls).left call' = s.left call := by
  have hmem : s.left call ∈ (s.afterCalls calls).conditions := by
    rw [afterCalls_eq s h]
    exact List.mem_append_right _ (List.mem_map.mpr ⟨call, hcall, rfl⟩)
  have honly : ∀ d ∈ (s.afterCalls calls).conditions, d.type = (s.left call).type →
      d = s.left call := by
    intro d hd htype
    rw [afterCalls_eq s h] at hd
    rcases List.mem_append.mp hd with hother | hleft
    · have hnew := of_decide_eq_true (List.mem_filter.mp hother).2
      exact absurd (List.mem_map.mpr ⟨call, hcall, htype.symm⟩) hnew
    · obtain ⟨other, hother, rfl⟩ := List.mem_map.mp hleft
      rw [List.inj_on_of_nodup_map h hother hcall htype]
  rw [hsame]
  exact congrArg call.condition (sinceWhen_of_only hmem honly call'.now)

theorem map_eq_of_saysSame {γ : Type} {f g : ConditionCall → γ}
    (hsame : List.Forall₂ ConditionCall.SaysSame calls calls')
    (h : ∀ a ∈ calls, ∀ b, a.SaysSame b → g b = f a) : calls'.map g = calls.map f := by
  induction hsame with
  | nil => rfl
  | cons hfirst _ ih =>
    rw [List.map_cons, List.map_cons, h _ List.mem_cons_self _ hfirst,
      ih fun a ha => h a (List.mem_cons_of_mem _ ha)]

/-- The same calls at other moments change nothing. -/
theorem afterCalls_again (s : RolloutStatus) (h : (calls.map (·.type)).Nodup)
    (hsame : List.Forall₂ ConditionCall.SaysSame calls calls') :
    (s.afterCalls calls).afterCalls calls' = s.afterCalls calls := by
  have htypes : calls'.map (·.type) = calls.map (·.type) :=
    map_eq_of_saysSame hsame fun a _ b hb => by rw [hb]
  have hleft : calls'.map (s.afterCalls calls).left = calls.map s.left :=
    map_eq_of_saysSame hsame fun a ha b hb => left_afterCalls s h ha hb
  have hkept : (s.afterCalls calls).conditions.filter (·.type ∉ calls.map (·.type)) =
      s.conditions.filter (·.type ∉ calls.map (·.type)) := by
    have hnone : (calls.map s.left).filter (·.type ∉ calls.map (·.type)) = [] := by
      rw [List.filter_eq_nil_iff]
      intro c hc hnew
      obtain ⟨call, hcall, rfl⟩ := List.mem_map.mp hc
      exact of_decide_eq_true hnew (List.mem_map.mpr ⟨call, hcall, rfl⟩)
    rw [afterCalls_eq s h, List.filter_append, List.filter_filter, hnone, List.append_nil]
    simp only [Bool.and_self]
  rw [afterCalls_eq _ (htypes ▸ h), htypes, hleft, hkept, afterCalls_eq s h]

end RolloutStatus

/-! ## Failures -/

/-- What a pass that fails says of itself. -/
inductive Verdict where
  | invalid (faults : List String)
  | failed (reason message : String)

/-- What the status tells of a pass that fails: what the bootstrap has found, if the pass has come
as far as that, and how it ended. -/
structure FailingOutcome where
  found : Option (Snapshot × NetworkSpec)
  verdict : Verdict

namespace FailingOutcome

/-- A status after a pass that fails, given the moments of its bootstrap and of its end. -/
def on (f : FailingOutcome) (surveyed ended : Moment) (s : RolloutStatus) : RolloutStatus :=
  let s := match f.found with
    | some (snapshot, spec) => s.bootstrapped surveyed snapshot spec
    | none => s
  match f.verdict with
  | .invalid faults => s.invalid ended faults
  | .failed reason message => s.failed ended reason message

/-- What is set apart from conditions. -/
def facts (f : FailingOutcome) (s : RolloutStatus) : RolloutStatus :=
  let s := match f.found with
    | some (snapshot, spec) =>
      { s with
        addresses := snapshot.addresses
        initiator := some snapshot.initiator
        nodeMode := some snapshot.nodeMode
        gatewayMode := some snapshot.gatewayMode
        ipfixCollectors := snapshot.ipfixCollectors spec }
    | none => s
  match f.verdict with
  | .invalid faults => { s with message := some ("; ".intercalate faults) }
  | .failed _ message => { s with message := some message }

/-- The conditions that are set. -/
def said (f : FailingOutcome) (surveyed ended : Moment) : List ConditionCall :=
  let first := match f.found with
    | some (snapshot, _) =>
      let (reason, message) := RolloutStatus.membership snapshot
      [⟨surveyed, RolloutStatus.bootstrappedType, "True", reason, some message⟩]
    | none => []
  first ++ match f.verdict with
    | .invalid faults =>
      let message := some ("; ".intercalate faults)
      [⟨ended, RolloutStatus.configValidType, "False", "InvalidConfig", message⟩,
        ⟨ended, RolloutStatus.readyType, "False", "InvalidConfig", message⟩]
    | .failed reason message =>
      [⟨ended, RolloutStatus.readyType, "False", reason, some message⟩]

theorem on_eq (f : FailingOutcome) (surveyed ended : Moment) (s : RolloutStatus) :
    f.on surveyed ended s = (f.facts s).afterCalls (f.said surveyed ended) := by
  obtain ⟨_ | ⟨snapshot, spec⟩, faults | ⟨reason, message⟩⟩ := f <;> rfl

theorem facts_on (f : FailingOutcome) (surveyed ended : Moment) (s : RolloutStatus) :
    f.facts (f.on surveyed ended s) = f.on surveyed ended s := by
  obtain ⟨_ | ⟨snapshot, spec⟩, faults | ⟨reason, message⟩⟩ := f <;> rfl

theorem nodup_said (f : FailingOutcome) (surveyed ended : Moment) :
    ((f.said surveyed ended).map (·.type)).Nodup := by
  have hall : ["Bootstrapped", "ConfigValid", "Ready"].Nodup := by decide
  refine hall.sublist ?_
  obtain ⟨_ | ⟨snapshot, spec⟩, faults | ⟨reason, message⟩⟩ := f
  · exact .cons _ (.refl _)
  · exact .cons _ (.cons _ (.refl _))
  · exact .refl _
  · exact .cons_cons _ (.cons _ (.refl _))

theorem said_saysSame (f : FailingOutcome) (surveyed ended surveyed' ended' : Moment) :
    List.Forall₂ ConditionCall.SaysSame (f.said surveyed ended) (f.said surveyed' ended') := by
  obtain ⟨_ | ⟨snapshot, spec⟩, faults | ⟨reason, message⟩⟩ := f
  · exact .cons rfl (.cons rfl .nil)
  · exact .cons rfl .nil
  · exact .cons rfl (.cons rfl (.cons rfl .nil))
  · exact .cons rfl (.cons rfl .nil)

theorem afterCalls_on (f : FailingOutcome) (surveyed ended surveyed' ended' : Moment)
    (s : RolloutStatus) :
    (f.on surveyed ended s).afterCalls (f.said surveyed' ended') = f.on surveyed ended s := by
  rw [on_eq]
  exact RolloutStatus.afterCalls_again _ (f.nodup_said _ _) (f.said_saysSame _ _ _ _)

/-- The same failure at other moments changes nothing, whatever the status was at first. -/
theorem on_on (f : FailingOutcome) (surveyed ended surveyed' ended' : Moment) (s : RolloutStatus) :
    f.on surveyed' ended' (f.on surveyed ended s) = f.on surveyed ended s := by
  rw [on_eq f surveyed' ended', facts_on, afterCalls_on]

end FailingOutcome

end NetworkRollout
