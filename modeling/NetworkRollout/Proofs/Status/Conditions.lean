import Mathlib.Data.List.Infix
import Mathlib.Data.List.Nodup
import NetworkRollout.Status.Status

/-!
# The history that conditions tell

Each call replaces the condition of its type, and takes over the moment of the one it replaces if
the status is the same. So a condition tells what the last call for its type said, and since when
the calls for that type have said the same, whatever calls for other types lie between.

* `RolloutStatus.mem_setCondition`: the conditions after a call.
* `LastBlock`: the calls at the end that agree on the status.
* `Condition.Recalls`: what a condition tells of the calls for its type.
* `RolloutStatus.conditionHistory`: every run of calls leaves one such condition for each type.
-/

namespace NetworkRollout

/-- A call that sets a condition: when, and what it says. -/
structure ConditionCall where
  now : Moment
  type : String
  status : String
  reason : String
  message : Option String

/-! ## Blocks of calls -/

/-- All calls set the same status. -/
def SameStatus (calls : List ConditionCall) : Prop :=
  ∀ a ∈ calls, ∀ b ∈ calls, a.status = b.status

/-- The longest block of calls at the end that all set the same status. -/
structure LastBlock (calls block : List ConditionCall) : Prop where
  atEnd : block <:+ calls
  sameStatus : SameStatus block
  longest : ∀ other, other <:+ calls → SameStatus other → other.length ≤ block.length

variable {calls block : List ConditionCall} {call last : ConditionCall}

theorem sameStatus_concat_iff :
    SameStatus (calls ++ [call]) ↔ ∀ a ∈ calls, a.status = call.status := by
  constructor
  · intro h a ha
    exact h a (List.mem_append_left _ ha) call List.mem_concat_self
  · intro h a ha b hb
    have hall : ∀ a ∈ calls ++ [call], a.status = call.status :=
      List.forall_mem_append.mpr ⟨h, List.forall_mem_singleton.mpr rfl⟩
    rw [hall a ha, hall b hb]

/-- A block that is not empty has the status of the last call. -/
theorem LastBlock.status_eq (h : LastBlock calls block) (hne : block ≠ [])
    (hlast : calls.getLast? = some last) : ∀ a ∈ block, a.status = last.status := by
  obtain ⟨before, rfl⟩ := h.atEnd
  rw [List.getLast?_append_of_ne_nil _ hne] at hlast
  exact fun a ha => h.sameStatus a ha last (List.mem_of_getLast? hlast)

/-- A call with the same status makes the block longer. -/
theorem LastBlock.concat (h : LastBlock calls block)
    (hstatus : ∀ a ∈ block, a.status = call.status) :
    LastBlock (calls ++ [call]) (block ++ [call]) where
  atEnd := List.suffix_concat_iff.mpr (Or.inr ⟨block, rfl, h.atEnd⟩)
  sameStatus := sameStatus_concat_iff.mpr hstatus
  longest other hend hsame := by
    rcases List.suffix_concat_iff.mp hend with rfl | ⟨others, rfl, hothers⟩
    · exact Nat.zero_le _
    · have hsame' : SameStatus others := fun a ha b hb =>
        hsame a (List.mem_append_left _ ha) b (List.mem_append_left _ hb)
      simpa using h.longest others hothers hsame'

/-- A call with another status than the one before starts a block. -/
theorem lastBlock_singleton
    (h : ∀ last, calls.getLast? = some last → last.status ≠ call.status) :
    LastBlock (calls ++ [call]) [call] where
  atEnd := List.suffix_append _ _
  sameStatus := sameStatus_concat_iff.mpr (List.forall_mem_nil _)
  longest other hend hsame := by
    rcases List.suffix_concat_iff.mp hend with rfl | ⟨others, rfl, before, rfl⟩
    · exact Nat.zero_le _
    · -- a longer block would hold the call before, which has another status
      cases hlast : others.getLast? with
      | none =>
        rw [List.getLast?_eq_none_iff.mp hlast]
        exact Nat.le_refl 1
      | some last =>
        have hcalls : (before ++ others).getLast? = some last := by
          rw [List.getLast?_append, hlast, Option.some_or]
        exact absurd (sameStatus_concat_iff.mp hsame last (List.mem_of_getLast? hlast))
          (h last hcalls)

/-! ## What a condition tells -/

/-- A condition says what the last of the calls says, since the first call of the last block. -/
structure Condition.Recalls (c : Condition) (calls : List ConditionCall) : Prop where
  last : ∃ call, calls.getLast? = some call ∧
    c.status = call.status ∧ c.reason = call.reason ∧ c.message = call.message
  since : ∃ first rest, LastBlock calls (first :: rest) ∧ c.since = first.now

/-- The condition that a call sets, since a moment. -/
def ConditionCall.condition (call : ConditionCall) (since : Moment) : Condition :=
  { type := call.type, status := call.status, reason := call.reason,
    message := call.message, since }

/-- A call with the status of the condition keeps its moment. -/
theorem Condition.Recalls.again {c : Condition} (h : c.Recalls calls)
    (hstatus : c.status = call.status) : (call.condition c.since).Recalls (calls ++ [call]) where
  last := ⟨call, List.getLast?_concat, rfl, rfl, rfl⟩
  since := by
    obtain ⟨last, hlast, htold, -⟩ := h.last
    obtain ⟨first, rest, hblock, hsince⟩ := h.since
    have hall := hblock.status_eq (List.cons_ne_nil _ _) hlast
    rw [← htold, hstatus] at hall
    exact ⟨first, rest ++ [call], hblock.concat hall, hsince⟩

/-- A call with another status than the call before it starts at its own moment. -/
theorem ConditionCall.recalls_condition
    (h : ∀ last, calls.getLast? = some last → last.status ≠ call.status) :
    (call.condition call.now).Recalls (calls ++ [call]) where
  last := ⟨call, List.getLast?_concat, rfl, rfl, rfl⟩
  since := ⟨call, [], lastBlock_singleton h, rfl⟩

/-! ## Setting a condition -/

namespace RolloutStatus

variable {s : RolloutStatus} {now : Moment} {type status reason : String} {message : Option String}

theorem mem_setCondition {c : Condition} :
    c ∈ (s.setCondition now type status reason message).conditions ↔
      (c ∈ s.conditions ∧ c.type ≠ type) ∨
        c = { type, status, reason, message, since := sinceWhen s.conditions type status now } := by
  unfold setCondition
  rw [List.mem_append, List.mem_filter, List.mem_singleton, decide_eq_true_iff]

/-- The types that conditions have, after a call. -/
theorem mem_types_setCondition {other : String} :
    other ∈ (s.setCondition now type status reason message).conditions.map (·.type) ↔
      other ∈ s.conditions.map (·.type) ∨ other = type := by
  simp only [List.mem_map, mem_setCondition]
  constructor
  · rintro ⟨c, ⟨hc, -⟩ | rfl, rfl⟩
    · exact Or.inl ⟨c, hc, rfl⟩
    · exact Or.inr rfl
  · rintro (⟨c, hc, rfl⟩ | rfl)
    · by_cases htype : c.type = type
      · exact ⟨_, Or.inr rfl, htype.symm⟩
      · exact ⟨c, Or.inl ⟨hc, htype⟩, rfl⟩
    · exact ⟨_, Or.inr rfl, rfl⟩

/-- No two conditions are of one type. -/
def OnePerType (s : RolloutStatus) : Prop := (s.conditions.map (·.type)).Nodup

theorem OnePerType.setCondition (h : s.OnePerType) (now : Moment) (type status reason : String)
    (message : Option String) : (s.setCondition now type status reason message).OnePerType := by
  unfold OnePerType RolloutStatus.setCondition
  rw [List.map_append, List.nodup_append]
  refine ⟨h.sublist (List.filter_sublist.map _), List.nodup_singleton type, ?_⟩
  intro a ha b hb
  obtain ⟨c, hc, rfl⟩ := List.mem_map.mp ha
  rw [List.map_singleton, List.mem_singleton] at hb
  rw [hb]
  exact of_decide_eq_true (List.mem_filter.mp hc).2

theorem OnePerType.eq_of_type (h : s.OnePerType) {c d : Condition} (hc : c ∈ s.conditions)
    (hd : d ∈ s.conditions) (htype : c.type = d.type) : c = d :=
  List.inj_on_of_nodup_map h hc hd htype

/-- The moment of a condition is found under its type and its status. -/
theorem OnePerType.sinceWhen_eq (h : s.OnePerType) {c : Condition} (hc : c ∈ s.conditions)
    (now : Moment) : sinceWhen s.conditions c.type c.status now = c.since := by
  unfold sinceWhen
  cases hfind : s.conditions.find? fun d => d.type = c.type && d.status = c.status with
  | none => simpa using List.find?_eq_none.mp hfind c hc
  | some d =>
    have hboth := List.find?_some hfind
    rw [Bool.and_eq_true, decide_eq_true_iff] at hboth
    rw [h.eq_of_type (List.mem_of_find?_eq_some hfind) hc hboth.1]

theorem sinceWhen_of_forall_ne {conditions : List Condition}
    (h : ∀ c ∈ conditions, c.type = type → c.status ≠ status) (now : Moment) :
    sinceWhen conditions type status now = now := by
  unfold sinceWhen
  rw [List.find?_eq_none.mpr]
  intro c hc
  simpa using h c hc

/-! ## Runs of calls -/

def called (s : RolloutStatus) (call : ConditionCall) : RolloutStatus :=
  s.setCondition call.now call.type call.status call.reason call.message

def afterCalls (s : RolloutStatus) (calls : List ConditionCall) : RolloutStatus :=
  calls.foldl called s

/-- The conditions tell what the calls have set. -/
structure Tells (s : RolloutStatus) (calls : List ConditionCall) : Prop where
  onePerType : s.OnePerType
  /-- There is a condition for each type that was set, and for no other. -/
  types : ∀ type, type ∈ s.conditions.map (·.type) ↔ type ∈ calls.map (·.type)
  /-- Each tells of the calls for its own type. -/
  each : ∀ c ∈ s.conditions, c.Recalls (calls.filter (·.type = c.type))

theorem tells_nil (h : s.conditions = []) : s.Tells [] := by
  refine ⟨?_, fun type => ?_, ?_⟩
  · rw [OnePerType, h]
    exact List.nodup_nil
  · rw [h]
    exact Iff.rfl
  · rw [h]
    exact List.forall_mem_nil _

/-- The condition that a call sets tells of the calls for its type, this one included. -/
theorem Tells.recalls_condition (h : s.Tells calls) (call : ConditionCall) :
    (call.condition (sinceWhen s.conditions call.type call.status call.now)).Recalls
      (calls.filter (·.type = call.type) ++ [call]) := by
  by_cases hsame : ∃ c ∈ s.conditions, c.type = call.type ∧ c.status = call.status
  · obtain ⟨c, hc, htype, hstatus⟩ := hsame
    rw [← htype, ← hstatus, h.onePerType.sinceWhen_eq hc]
    exact (h.each c hc).again hstatus
  · rw [sinceWhen_of_forall_ne fun c hc htype hstatus => hsame ⟨c, hc, htype, hstatus⟩]
    refine ConditionCall.recalls_condition fun last hlast hstatus => hsame ?_
    -- the last call for the type has left a condition, and that has its status
    obtain ⟨hmem, htype⟩ := List.mem_filter.mp (List.mem_of_getLast? hlast)
    rw [decide_eq_true_iff] at htype
    obtain ⟨c, hc, hcType⟩ := List.mem_map.mp
      ((h.types call.type).mpr (List.mem_map.mpr ⟨last, hmem, htype⟩))
    obtain ⟨last', hlast', htold, -⟩ := (h.each c hc).last
    rw [hcType, hlast] at hlast'
    obtain rfl := Option.some.inj hlast'
    exact ⟨c, hc, hcType, htold.trans hstatus⟩

theorem Tells.called (h : s.Tells calls) (call : ConditionCall) :
    (s.called call).Tells (calls ++ [call]) where
  onePerType := h.onePerType.setCondition _ _ _ _ _
  types type := by
    rw [List.map_append, List.mem_append, List.map_singleton, List.mem_singleton, ← h.types type]
    exact mem_types_setCondition
  each c hc := by
    rcases mem_setCondition.mp hc with ⟨hold, hother⟩ | rfl
    · rw [List.filter_append, List.filter_singleton, decide_eq_false hother.symm]
      simpa using h.each c hold
    · rw [List.filter_append, List.filter_singleton, decide_eq_true rfl]
      exact h.recalls_condition call

theorem Tells.afterCalls {before : List ConditionCall} (h : s.Tells before)
    (calls : List ConditionCall) : (s.afterCalls calls).Tells (before ++ calls) := by
  induction calls generalizing s before with
  | nil =>
    rw [List.append_nil]
    exact h
  | cons call calls ih =>
    rw [List.append_cons]
    exact ih (h.called call)

/-- Whatever is called in whatever order, and whatever the clock shows: a status that starts without
conditions has exactly one for each type that was set, and each tells what the last call for its
type said, since the first of the calls for that type that have said the same without a break. -/
theorem conditionHistory (s : RolloutStatus) (hstart : s.conditions = [])
    (calls : List ConditionCall) : (s.afterCalls calls).Tells calls :=
  (tells_nil hstart).afterCalls calls

/-- A network that becomes ready, with calls for another type in between. -/
def becomingReady : List ConditionCall :=
  [⟨⟨10, 0, by decide⟩, readyType, "False", "TransientError", some "timeout"⟩,
    ⟨⟨20, 0, by decide⟩, configValidType, "True", "Valid", none⟩,
    ⟨⟨20, 5, by decide⟩, readyType, "True", "Applied", none⟩,
    ⟨⟨30, 0, by decide⟩, configValidType, "True", "Valid", none⟩,
    ⟨⟨30, 5, by decide⟩, readyType, "True", "Applied", some "applied 3 objects"⟩]

theorem conditionHistory_becomingReady :
    ({} : RolloutStatus).conditions = [] ∧
      (({} : RolloutStatus).afterCalls becomingReady).Tells becomingReady ∧
      (({} : RolloutStatus).afterCalls becomingReady).conditions.map (fun c => (c.type, c.since)) =
        [("ConfigValid", ⟨20, 0, by decide⟩), ("Ready", ⟨20, 5, by decide⟩)] :=
  ⟨rfl, conditionHistory {} rfl becomingReady, by decide⟩

end RolloutStatus

end NetworkRollout
