import NetworkRollout.Proofs.Bootstrap.Prepare
import NetworkRollout.Proofs.Server.Questions

/-!
# What a preparation does to the server

Before a pass applies anything it only asks, and elects. So a preparation has no effect, or the one
that records the new initiator; and one that refuses the desired network ends with the very first
question.

* `Server.IsElection`: the effects that an election may have.
* `Election.on_server`, `Bootstrapped.on_server`: what elections and bootstraps do.
* `PreparedOn`, `Preparation.on_server`: the two ways in which a preparation ends.
-/

namespace NetworkRollout

open PassM Server

variable {faults : Faults} {network : String}

namespace Server

variable {s s' : Server}

/-- The effects of an election: none, or the annotation of a stored member as the initiator. -/
def IsElection (network : String) (s : Server) (effects : List Effect) : Prop :=
  effects = [] ∨
    ∃ address, effects = [.annotate network Names.initiatorKey address] ∧ s.IsMember address

theorem IsMember.of_asked {address : String} (hasked : Did s s' []) (h : s'.IsMember address) :
    s.IsMember address := by
  unfold IsMember at h ⊢
  rw [hasked.objects] at h
  exact h

theorem IsElection.of_asked {effects : List Effect} (hasked : Did s s' [])
    (h : IsElection network s' effects) : IsElection network s effects :=
  h.imp_right fun ⟨address, heffects, hmember⟩ => ⟨address, heffects, hmember.of_asked hasked⟩

theorem IsElection.target {effects : List Effect} (h : IsElection network s effects)
    {effect : Effect} (hmem : effect ∈ effects) : effect.target = some (.network, "", network) := by
  rcases h with rfl | ⟨address, rfl, -⟩
  · cases hmem
  · rw [List.mem_singleton.mp hmem]
    rfl

/-- Recording the address of a stored member as the initiator. -/
theorem IsElection.of_recording {address : String} (hasked : Did s s' [])
    (hnetwork : (s'.find? .network "" network).isSome) (hmember : s.IsMember address)
    (faults : Faults) :
    let recording := record faults network Names.initiatorKey address s'
    ∃ election, Did s recording.2 election ∧ IsElection network s election ∧
      ∀ e, recording.1 = .error e → ¬ e.IsInvalidConfig := by
  intro recording
  have hrecording := Server.recording hnetwork faults Names.initiatorKey address
  obtain ⟨election, helection, hdid⟩ := hrecording.did
  refine ⟨election, hasked.trans hdid, helection.imp_right fun helected =>
    ⟨address, helected, hmember⟩, fun e he => ?_⟩
  change (record faults network Names.initiatorKey address s').1 = _ at he
  rw [he] at hrecording
  exact hrecording.cause

/-- The spec applied last as a pass recalls it. -/
def appliedSpec? (s : Server) (network : String) : Option NetworkSpec :=
  (s.text? network Names.appliedSpecKey).bind NetworkSpec.ofText?

end Server

/-- What an election among stored members does. It fails for no fault of the desired network. -/
theorem Election.on_server {members : List String} {run run' : Run Server}
    {answer : Except Failure (Option String)}
    (h : Election (surroundings faults network) members run answer run')
    (hmembers : ∀ address ∈ members, run.world.IsMember address) :
    ∃ election, Did run.world run'.world election ∧ IsElection network run.world election ∧
      ∀ e, answer = .error e → ¬ e.IsInvalidConfig := by
  have hasked := (asksKeep faults network).recorded Names.initiatorKey run.world
  cases h with
  | unread herror =>
    refine ⟨[], hasked, Or.inl rfl, ?_⟩
    rintro _ ⟨⟩
    exact recorded_error herror
  | nobody _ _ =>
    refine ⟨[], hasked, Or.inl rfl, ?_⟩
    rintro e ⟨⟩
  | kept _ _ =>
    refine ⟨[], hasked, Or.inl rfl, ?_⟩
    rintro e ⟨⟩
  | unrecorded hok hchosen _ hwrite =>
    obtain ⟨election, hdid, helection, hcause⟩ := IsElection.of_recording hasked
      (hasked.isSome_find? (recorded_ok hok).2) (hmembers _ (chooseInitiator_mem hchosen)) faults
    refine ⟨election, hdid, helection, ?_⟩
    rintro _ ⟨⟩
    exact hcause _ hwrite
  | changed hok hchosen _ _ =>
    obtain ⟨election, hdid, helection, -⟩ := IsElection.of_recording hasked
      (hasked.isSome_find? (recorded_ok hok).2) (hmembers _ (chooseInitiator_mem hchosen)) faults
    refine ⟨election, hdid, helection, ?_⟩
    rintro e ⟨⟩

/-- The addresses of listed nodes are those of stored members. -/
theorem Bootstrap.Listed.isMember {s : Server} {nodes : List MemberNode} {members : List String}
    (hlisted : Bootstrap.Listed (surroundings faults network) (fun a b => Did a b []) s nodes)
    (hmembers : Bootstrap.addresses nodes = .ok members) {address : String}
    (h : address ∈ members) : s.IsMember address := by
  obtain ⟨node, hnode, haddress⟩ := (Bootstrap.mem_addresses_iff hmembers address).mp h
  rcases hlisted with rfl | ⟨w, hw, hanswer⟩
  · cases hnode
  · exact (isMember_of_listed hanswer hnode haddress).of_asked hw

/-- What a bootstrap does: it may elect. -/
theorem Bootstrapped.on_server {run run' : Run Server} {answer : Except Failure Snapshot}
    (h : Bootstrapped (surroundings faults network) (fun a b => Did a b []) run answer run') :
    ∃ election, Did run.world run'.world election ∧ IsElection network run.world election ∧
      ∀ e, answer = .error e → ¬ e.IsInvalidConfig := by
  cases h with
  | unelected hworld hcause =>
    refine ⟨[], hworld, Or.inl rfl, ?_⟩
    rintro _ ⟨⟩
    exact hcause
  | @elected nodes members before after _ outcome _ hbefore hlisted hmembers helection hafter
      hfailed hcause _ =>
    have hstored : ∀ address ∈ members, before.world.IsMember address := by
      intro address haddress
      have hmember := hlisted.isMember hmembers haddress
      unfold IsMember
      rw [hbefore.objects]
      exact hmember
    obtain ⟨election, hdid, hselection, hunelected⟩ := helection.on_server hstored
    refine ⟨election, ?_, hselection.of_asked hbefore, ?_⟩
    · simpa using (hbefore.trans hdid).trans hafter
    · intro e he
      cases houtcome : outcome with
      | error e' =>
        rw [hfailed e' houtcome] at he
        cases he
        exact hunelected e houtcome
      | ok chosen => exact hcause chosen houtcome e he

/-- The two ways in which a preparation ends: the desired network is refused after the first
question; or there may have been an election, and what is decided is decided on the completed
spec. -/
inductive PreparedOn (faults : Faults) (network : String) (spec : NetworkSpec) (hostMtu : UInt32)
    (run : Run Server) : Except Failure Prepared → Run Server → Prop
  | refused (messages : List String) :
      PreparedOn faults network spec hostMtu run (.error (.invalidConfig messages))
        (asked run (recorded faults network Names.appliedSpecKey))
  | bootstrapped {answer : Except Failure Prepared} {run' : Run Server} {election : List Effect}
      (hdid : Did run.world run'.world election)
      (helection : IsElection network run.world election)
      (hcause : ∀ e, answer = .error e → ¬ e.IsInvalidConfig)
      (hdecided : ∀ p, answer = .ok p → (run.world.find? .network "" network).isSome ∧
        p.spec = spec.fillDefaults (run.world.appliedSpec? network) hostMtu) :
      PreparedOn faults network spec hostMtu run answer run'

theorem Preparation.on_server {spec : NetworkSpec} {release : String} {hostMtu : UInt32}
    {run run' : Run Server} {answer : Except Failure Prepared}
    (h : Preparation (surroundings faults network) (fun a b => Did a b []) spec release hostMtu run
      answer run') : PreparedOn faults network spec hostMtu run answer run' := by
  have hasked := (asksKeep faults network).recorded Names.appliedSpecKey run.world
  cases h with
  | unread herror =>
    refine .bootstrapped hasked (Or.inl rfl) ?_ ?_
    · rintro _ ⟨⟩
      exact recorded_error herror
    · rintro p ⟨⟩
  | refused _ _ _ => exact .refused _
  | @accepted _ previous outcome _ hread hprevious _ hbootstrap =>
    obtain ⟨htext, hnetwork⟩ := recorded_ok hread
    obtain ⟨election, hdid, helection, hcause⟩ := hbootstrap.on_server
    refine .bootstrapped (hasked.trans hdid) (helection.of_asked hasked) ?_ ?_
    · intro e he
      cases outcome with
      | error e' =>
        cases he
        exact hcause e rfl
      | ok snapshot => cases he
    · intro p hp
      cases outcome with
      | error e => cases hp
      | ok snapshot =>
        cases hp
        refine ⟨hnetwork, ?_⟩
        rw [appliedSpec?, ← htext, ← hprevious]
        rfl

end NetworkRollout
