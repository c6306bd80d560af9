import NetworkRollout.Bootstrap.Bootstrap
import NetworkRollout.Proofs.Bootstrap.Steps
import NetworkRollout.Proofs.Bootstrap.Store
import NetworkRollout.Proofs.Text.ByteOrder

/-!
# The election of the initiator

Two members that both seed the databases make two clusters, so the initiator must not change while
the old one can still be a member. A recorded initiator is given up only by a round that does not
list it, whatever else fails in between.

* `smallest?_mem`, `smallest?_le`, `chooseInitiator_eq_none_iff`: the choice.
* `Election`, `ends_elect`: how one election ends, in any surroundings.
* `ElectionRound.Contract`, `ElectionRound.contract`: what a round on a store answers and writes.
* `stickyElections`: what any run of rounds on one store does.
-/

namespace NetworkRollout

open PassM

variable {σ : Type}

/-! ## The choice -/

theorem smallest?_eq_none_iff {members : List String} :
    smallest? members = none ↔ members = [] := by
  cases members with
  | nil => simp [smallest?]
  | cons x xs =>
    unfold smallest?
    cases smallest? xs <;> simp

theorem smallest?_mem {members : List String} {c : String} (h : smallest? members = some c) :
    c ∈ members := by
  induction members generalizing c with
  | nil => cases h
  | cons x xs ih =>
    unfold smallest? at h
    cases hrest : smallest? xs with
    | none =>
      rw [hrest] at h
      cases h
      exact List.mem_cons_self
    | some y =>
      rw [hrest] at h
      have hy := ih hrest
      by_cases hlt : y < x
      · simp only [hlt, if_true, Option.some.injEq] at h
        exact List.mem_cons_of_mem x (h ▸ hy)
      · simp only [hlt, if_false, Option.some.injEq] at h
        exact h ▸ List.mem_cons_self

theorem smallest?_le {members : List String} {c m : String} (h : smallest? members = some c)
    (hm : m ∈ members) : c ≤ m := by
  induction members generalizing c with
  | nil => cases h
  | cons x xs ih =>
    unfold smallest? at h
    cases hrest : smallest? xs with
    | none =>
      rw [hrest] at h
      cases h
      rw [smallest?_eq_none_iff.mp hrest, List.mem_singleton] at hm
      exact le_of_eq hm.symm
    | some y =>
      rw [hrest] at h
      simp only [Option.some.injEq] at h
      have hle : c ≤ x ∧ c ≤ y := by
        by_cases hlt : y < x
        · rw [if_pos hlt] at h
          exact h ▸ ⟨le_of_lt hlt, le_refl y⟩
        · rw [if_neg hlt] at h
          exact h ▸ ⟨le_refl x, not_lt.mp hlt⟩
      rcases List.mem_cons.mp hm with rfl | hrestMem
      · exact hle.1
      · exact le_trans hle.2 (ih hrest hrestMem)

theorem chooseInitiator_of_mem {members : List String} {a : String} (h : a ∈ members) :
    chooseInitiator (some a) members = some a := by
  simp [chooseInitiator, h]

theorem chooseInitiator_of_not_mem {recorded : Option String} {members : List String}
    (h : ∀ a, recorded = some a → a ∉ members) :
    chooseInitiator recorded members = smallest? members := by
  cases recorded with
  | none => rfl
  | some a => simp [chooseInitiator, h a rfl]

/-- There is an initiator as soon as there are members. -/
theorem chooseInitiator_eq_none_iff {recorded : Option String} {members : List String} :
    chooseInitiator recorded members = none ↔ members = [] := by
  by_cases h : ∃ a, recorded = some a ∧ a ∈ members
  · obtain ⟨a, rfl, ha⟩ := h
    rw [chooseInitiator_of_mem ha]
    simp [List.ne_nil_of_mem ha]
  · rw [chooseInitiator_of_not_mem (fun a ha hmem => h ⟨a, ha, hmem⟩), smallest?_eq_none_iff]

theorem chooseInitiator_mem {recorded : Option String} {members : List String} {c : String}
    (h : chooseInitiator recorded members = some c) : c ∈ members := by
  by_cases hkept : ∃ a, recorded = some a ∧ a ∈ members
  · obtain ⟨a, rfl, ha⟩ := hkept
    rw [chooseInitiator_of_mem ha, Option.some.injEq] at h
    exact h ▸ ha
  · rw [chooseInitiator_of_not_mem (fun a ha hmem => hkept ⟨a, ha, hmem⟩)] at h
    exact smallest?_mem h

/-! ## One election -/

/-- How an election ends, by its exits: the record is not read; there are no members; the recorded
initiator stays; the new one is not recorded; the new one is recorded. -/
inductive Election (env : Surroundings σ) (members : List String) (run : Run σ) :
    Except Failure (Option String) → Run σ → Prop
  | unread {e : Failure} (hread : (env.recorded Names.initiatorKey run.world).1 = .error e) :
      Election env members run (.error e) (asked run (env.recorded Names.initiatorKey))
  | nobody {recorded : Option String}
      (hread : (env.recorded Names.initiatorKey run.world).1 = .ok recorded)
      (hchosen : chooseInitiator recorded members = none) :
      Election env members run (.ok none) (asked run (env.recorded Names.initiatorKey))
  | kept {c : String} (hread : (env.recorded Names.initiatorKey run.world).1 = .ok (some c))
      (hchosen : chooseInitiator (some c) members = some c) :
      Election env members run (.ok (some c)) (asked run (env.recorded Names.initiatorKey))
  | unrecorded {recorded : Option String} {c : String} {e : Failure}
      (hread : (env.recorded Names.initiatorKey run.world).1 = .ok recorded)
      (hchosen : chooseInitiator recorded members = some c) (hne : recorded ≠ some c)
      (hwrite : (env.record Names.initiatorKey c
        (env.recorded Names.initiatorKey run.world).2).1 = .error e) :
      Election env members run (.error e)
        (asked (asked run (env.recorded Names.initiatorKey)) (env.record Names.initiatorKey c))
  | changed {recorded : Option String} {c : String}
      (hread : (env.recorded Names.initiatorKey run.world).1 = .ok recorded)
      (hchosen : chooseInitiator recorded members = some c) (hne : recorded ≠ some c)
      (hwrite : (env.record Names.initiatorKey c
        (env.recorded Names.initiatorKey run.world).2).1 = .ok ()) :
      Election env members run (.ok (some c))
        (asked (asked run (env.recorded Names.initiatorKey)) (env.record Names.initiatorKey c))

theorem ends_elect (env : Surroundings σ) (members : List String) (run : Run σ) :
    Ends (elect env members) run (Election env members run) := by
  unfold elect
  rw [ends_bind, ends_ask]
  cases hread : (env.recorded Names.initiatorKey run.world).1 with
  | error e => exact .unread hread
  | ok recorded =>
    dsimp only
    cases hchosen : chooseInitiator recorded members with
    | none => exact .nobody hread hchosen
    | some c =>
      dsimp only
      by_cases hsame : recorded = some c
      · subst hsame
        rw [if_neg (not_not_intro rfl)]
        exact .kept hread hchosen
      · rw [if_pos hsame, ends_bind, ends_ask]
        cases hwrite : (env.record Names.initiatorKey c
            (asked run (env.recorded Names.initiatorKey)).world).1 with
        | error e => exact .unrecorded hread hchosen hsame hwrite
        | ok _ => exact .changed hread hchosen hsame hwrite

/-! ## Rounds on one store -/

/-- The initiator that stands in the store. -/
def TextStore.initiator (store : TextStore σ) (run : Run σ) : Option String :=
  store.entry run.world Names.initiatorKey

theorem TextStore.Same.initiator {store : TextStore σ} {run run' : Run σ}
    (h : store.Same run.world run'.world) : store.initiator run' = store.initiator run :=
  congrFun h.entry Names.initiatorKey

/-- A round of an election: the members it is held among, in surroundings that keep their texts in
the store. -/
structure ElectionRound (store : TextStore σ) where
  surroundings : Surroundings σ
  stores : surroundings.StoresIn store
  members : List String

/-- However an election ends, it changes no text but the initiator. -/
theorem Election.entry_of_ne {store : TextStore σ} {env : Surroundings σ} {members : List String}
    {run run' : Run σ} {answer : Except Failure (Option String)} (hstores : env.StoresIn store)
    (h : Election env members run answer run') {key : String} (hkey : key ≠ Names.initiatorKey) :
    store.entry run'.world key = store.entry run.world key := by
  have hasked := congrFun (hstores.asks.recorded Names.initiatorKey run.world).entry key
  cases h with
  | unread _ => exact hasked
  | nobody _ _ => exact hasked
  | kept _ _ => exact hasked
  | unrecorded _ _ _ hwrite => exact (congrFun (hstores.record_error hwrite).entry key).trans hasked
  | changed _ _ _ hwrite => exact ((hstores.record_ok hwrite).others key hkey).trans hasked

namespace ElectionRound

variable {store : TextStore σ}

/-- What the round answers. -/
def answer (round : ElectionRound store) (run : Run σ) : Except Failure (Option String) :=
  ((elect round.surroundings round.members).run.run run).1

/-- The state that the round ends in. -/
def after (round : ElectionRound store) (run : Run σ) : Run σ :=
  ((elect round.surroundings round.members).run.run run).2

theorem election (round : ElectionRound store) (run : Run σ) :
    Election round.surroundings round.members run (round.answer run) (round.after run) :=
  ends_elect round.surroundings round.members run

/-- A round that elects one writes it, unless it is recorded already. -/
theorem written_of_elected (round : ElectionRound store) (run : Run σ) {c : String}
    (h : round.answer run = .ok (some c)) :
    chooseInitiator (store.initiator run) round.members = some c ∧
      if store.initiator run = some c then store.Same run.world (round.after run).world
      else store.Written Names.initiatorKey c run.world (round.after run).world := by
  have helection := round.election run
  have hasks := round.stores.asks.recorded Names.initiatorKey run.world
  rw [h] at helection
  generalize round.after run = after at helection ⊢
  cases helection with
  | kept hread hchosen =>
    have hrecorded : store.initiator run = some c := (round.stores.recorded hread).symm
    rw [if_pos hrecorded, hrecorded]
    exact ⟨hchosen, hasks⟩
  | @changed text _ hread hchosen hne hwrite =>
    have hrecorded : text = store.initiator run := round.stores.recorded hread
    rw [hrecorded] at hchosen hne
    rw [if_neg hne]
    exact ⟨hchosen, (round.stores.record_ok hwrite).of_same hasks (TextStore.Same.refl _)⟩

/-- A round that elects nobody leaves the store as it was. -/
theorem same_of_not_elected (round : ElectionRound store) (run : Run σ)
    (h : ∀ c, round.answer run ≠ .ok (some c)) :
    store.Same run.world (round.after run).world := by
  have helection := round.election run
  have hasks := round.stores.asks.recorded Names.initiatorKey run.world
  generalize hanswer : round.answer run = answer at helection
  generalize round.after run = after at helection ⊢
  cases helection with
  | unread _ => exact hasks
  | nobody _ _ => exact hasks
  | kept _ _ => exact absurd hanswer (h _)
  | unrecorded _ _ _ hwrite => exact hasks.trans (round.stores.record_error hwrite)
  | changed _ _ _ _ => exact absurd hanswer (h _)

/-- A round that reads the record elects somebody, or fails to write, as soon as there are
members. -/
theorem answer_eq_none_iff (round : ElectionRound store) (run : Run σ) :
    round.answer run = .ok none ↔
      (∃ text, (round.surroundings.recorded Names.initiatorKey run.world).1 = .ok text) ∧
        round.members = [] := by
  have helection := round.election run
  generalize round.answer run = answer at helection ⊢
  generalize round.after run = after at helection
  cases helection with
  | unread hread =>
    rw [hread]
    simp
  | nobody hread hchosen =>
    rw [hread]
    simp [chooseInitiator_eq_none_iff.mp hchosen]
  | kept _ hchosen => simp [List.ne_nil_of_mem (chooseInitiator_mem hchosen)]
  | unrecorded _ hchosen _ _ => simp [List.ne_nil_of_mem (chooseInitiator_mem hchosen)]
  | changed _ hchosen _ _ => simp [List.ne_nil_of_mem (chooseInitiator_mem hchosen)]

/-- A recorded initiator that is a member stays, and nothing is written, even by a round that
fails. -/
theorem same_of_member (round : ElectionRound store) (run : Run σ) {a : String}
    (hrecorded : store.initiator run = some a) (hmember : a ∈ round.members) :
    store.Same run.world (round.after run).world := by
  by_cases helected : ∃ c, round.answer run = .ok (some c)
  · obtain ⟨c, hc⟩ := helected
    obtain ⟨hchosen, hwritten⟩ := round.written_of_elected run hc
    rw [hrecorded, chooseInitiator_of_mem hmember] at hchosen
    rw [hrecorded, if_pos hchosen] at hwritten
    exact hwritten
  · exact round.same_of_not_elected run (not_exists.mp helected)

/-- What a round answers and writes. -/
structure Contract (round : ElectionRound store) (run : Run σ) : Prop where
  /-- The one elected is a member, and stands in the store. -/
  elected : ∀ c, round.answer run = .ok (some c) →
    c ∈ round.members ∧ store.initiator (round.after run) = some c
  /-- No other text changes, however the round ends. -/
  others : ∀ key, key ≠ Names.initiatorKey →
    store.entry (round.after run).world key = store.entry run.world key
  /-- A recorded initiator that is a member is the one elected. -/
  kept : ∀ c a, round.answer run = .ok (some c) → store.initiator run = some a →
    a ∈ round.members → c = a
  /-- Otherwise the one elected has the least bytes. -/
  least : ∀ c, round.answer run = .ok (some c) →
    (∀ a, store.initiator run = some a → a ∉ round.members) →
      ∀ m ∈ round.members, Text.bytes c ≤ Text.bytes m
  /-- An election writes once if the initiator changes, and not otherwise. -/
  writes : ∀ c, round.answer run = .ok (some c) →
    store.writes (round.after run).world = store.writes run.world ++
      if store.initiator run = some c then [] else [(Names.initiatorKey, c)]
  /-- Nobody is elected just when the record is read and there are no members. -/
  nobody : round.answer run = .ok none ↔
    (∃ text, (round.surroundings.recorded Names.initiatorKey run.world).1 = .ok text) ∧
      round.members = []
  /-- A round that elects nobody, or fails, leaves the store as it was. -/
  unchanged : (∀ c, round.answer run ≠ .ok (some c)) →
    store.Same run.world (round.after run).world
  /-- A recorded initiator is given up only by a round that it is no member of. -/
  givenUp : ∀ a, store.initiator run = some a →
    store.initiator (round.after run) ≠ some a → a ∉ round.members

theorem contract (round : ElectionRound store) (run : Run σ) : round.Contract run where
  elected := by
    intro c hc
    obtain ⟨hchosen, hwritten⟩ := round.written_of_elected run hc
    refine ⟨chooseInitiator_mem hchosen, ?_⟩
    split at hwritten
    case isTrue hrecorded => rw [hwritten.initiator, hrecorded]
    case isFalse => exact hwritten.entry
  others _ hkey := (round.election run).entry_of_ne round.stores hkey
  kept := by
    intro c a hc hrecorded hmember
    have hchosen := (round.written_of_elected run hc).1
    rw [hrecorded, chooseInitiator_of_mem hmember, Option.some.injEq] at hchosen
    exact hchosen.symm
  least := by
    intro c hc hleft m hm
    have hchosen := (round.written_of_elected run hc).1
    rw [chooseInitiator_of_not_mem hleft] at hchosen
    change ¬ Text.bytes m < Text.bytes c
    rw [Text.bytes_lt_iff, not_lt]
    exact smallest?_le hchosen hm
  writes := by
    intro c hc
    have hwritten := (round.written_of_elected run hc).2
    split at hwritten
    case isTrue hrecorded => rw [hwritten.writes, if_pos hrecorded, List.append_nil]
    case isFalse hrecorded => rw [hwritten.writes, if_neg hrecorded]
  nobody := round.answer_eq_none_iff run
  unchanged := round.same_of_not_elected run
  givenUp := by
    intro a hrecorded hgone hmember
    refine hgone ?_
    rw [(round.same_of_member run hrecorded hmember).initiator]
    exact hrecorded

end ElectionRound

/-! ## Runs -/

section Runs

variable {store : TextStore σ}

/-- The state after rounds in a row. A round that fails is followed by the next one. -/
def afterRounds (rounds : List (ElectionRound store)) (run : Run σ) : Run σ :=
  rounds.foldl (fun run round => round.after run) run

theorem afterRounds_append (before later : List (ElectionRound store)) (run : Run σ) :
    afterRounds (before ++ later) run = afterRounds later (afterRounds before run) :=
  List.foldl_append

/-- As long as the recorded initiator is a member of every round, nothing is written. -/
theorem same_of_members {rounds : List (ElectionRound store)} {run : Run σ} {a : String}
    (hrecorded : store.initiator run = some a)
    (hmembers : ∀ round ∈ rounds, a ∈ round.members) :
    store.Same run.world (afterRounds rounds run).world := by
  induction rounds generalizing run with
  | nil => exact TextStore.Same.refl run.world
  | cons round rest ih =>
    have hround := round.same_of_member run hrecorded (hmembers round List.mem_cons_self)
    refine hround.trans (ih ?_ fun r hr => hmembers r (List.mem_cons_of_mem round hr))
    rw [hround.initiator]
    exact hrecorded

/-- Rounds without members write nothing. -/
theorem same_of_no_members {rounds : List (ElectionRound store)} {run : Run σ}
    (hmembers : ∀ round ∈ rounds, round.members = []) :
    store.Same run.world (afterRounds rounds run).world := by
  induction rounds generalizing run with
  | nil => exact TextStore.Same.refl run.world
  | cons round rest ih =>
    have hnobody : ∀ c, round.answer run ≠ .ok (some c) := by
      intro c hc
      have hmember := ((round.contract run).elected c hc).1
      rw [hmembers round List.mem_cons_self] at hmember
      cases hmember
    exact ((round.contract run).unchanged hnobody).trans
      (ih fun r hr => hmembers r (List.mem_cons_of_mem round hr))

/-- An initiator that is recorded before some rounds and not after them was given up by one of them
that it was no member of. -/
theorem exists_round_of_changed {rounds : List (ElectionRound store)} {run : Run σ} {a : String}
    (hrecorded : store.initiator run = some a)
    (hchanged : store.initiator (afterRounds rounds run) ≠ some a) :
    ∃ before round later, rounds = before ++ round :: later ∧
      store.initiator (afterRounds before run) = some a ∧
      a ∉ round.members := by
  induction rounds generalizing run with
  | nil => exact absurd hrecorded hchanged
  | cons round rest ih =>
    -- the round that gives it up is the first after which it does not stand
    by_cases hround : store.initiator (round.after run) = some a
    · obtain ⟨before, left, later, heq, hbefore, hleft⟩ := ih hround hchanged
      exact ⟨round :: before, left, later, by rw [heq, List.cons_append], hbefore, hleft⟩
    · exact ⟨[], round, rest, rfl, hrecorded,
        (round.contract run).givenUp a hrecorded hround⟩

/-- What a run of rounds on one store does. -/
structure StickyElections (rounds : List (ElectionRound store)) (run : Run σ) : Prop where
  /-- Every round keeps its contract, in the state that the rounds before it left. -/
  each : ∀ before round later, rounds = before ++ round :: later →
    round.Contract (afterRounds before run)
  /-- Between two points of the run with different initiators there is a round that does not list
  the first one, and up to that round the first one stands. -/
  changed : ∀ before between later a b, rounds = before ++ between ++ later →
    store.initiator (afterRounds before run) = some a →
    store.initiator (afterRounds (before ++ between) run) = some b → a ≠ b →
    ∃ still left rest, between = still ++ left :: rest ∧
      store.initiator (afterRounds (before ++ still) run) = some a ∧
      a ∉ left.members
  /-- After a round that did not fail, rounds among the same members write nothing. -/
  repeated : ∀ before round again later, rounds = before ++ round :: again ++ later →
    (∃ answer, round.answer (afterRounds before run) = .ok answer) →
    (∀ r ∈ again, r.members = round.members) →
    store.Same (round.after (afterRounds before run)).world
      (afterRounds (before ++ round :: again) run).world

theorem stickyElections (rounds : List (ElectionRound store)) (run : Run σ) :
    StickyElections rounds run where
  each before round _ _ := round.contract (afterRounds before run)
  changed := by
    rintro before between later a b rfl hbefore hafter hne
    have hchanged : store.initiator (afterRounds (before ++ between) run) ≠ some a := by
      rw [hafter]
      exact fun h => hne (Option.some.inj h).symm
    rw [afterRounds_append] at hchanged
    obtain ⟨still, left, rest, heq, hstill, hleft⟩ := exists_round_of_changed hbefore hchanged
    refine ⟨still, left, rest, heq, ?_, hleft⟩
    rw [afterRounds_append]
    exact hstill
  repeated := by
    rintro before round again later rfl ⟨answer, hanswer⟩ hagain
    rw [afterRounds_append]
    cases answer with
    | none =>
      have hnone := ((round.contract _).nobody.mp hanswer).2
      exact same_of_no_members fun r hr => (hagain r hr).trans hnone
    | some c =>
      -- the one elected stands, and is a member of all rounds that repeat this one
      obtain ⟨hmember, hentry⟩ := (round.contract _).elected c hanswer
      exact same_of_members hentry fun r hr => (hagain r hr) ▸ hmember

/-- A round on the store of a script. -/
def Script.round (script : Script) (members : List String) : ElectionRound Script.store :=
  ⟨script.surroundings, script.storesIn, members⟩

/-- The initiator leaves; the first round after that cannot write, the second cannot read, and the
third, which is repeated, elects the least of the members. The last one has no members. -/
def leavingRounds : List (ElectionRound Script.store) :=
  [ Script.round {} ["10.0.0.3", "10.0.0.2"],
    Script.round { recordFault := some .noControlPlaneMembers } ["10.0.0.3", "10.0.0.1"],
    Script.round { recallFault := some .noControlPlaneMembers } ["10.0.0.3", "10.0.0.1"],
    Script.round {} ["10.0.0.3", "10.0.0.1"],
    Script.round {} ["10.0.0.3", "10.0.0.1"],
    Script.round {} [] ]

/-- The state before `leavingRounds`. -/
def recordedInitiator : Run ScriptState :=
  { world := { entries := [(Names.initiatorKey, "10.0.0.2")] } }

theorem stickyElections_leaving :
    (afterRounds leavingRounds recordedInitiator).world.writes =
        [(Names.initiatorKey, "10.0.0.1")] ∧
      StickyElections leavingRounds recordedInitiator ∧
      ∃ still left rest, leavingRounds = still ++ left :: rest ∧ "10.0.0.2" ∉ left.members := by
  have hwrites : (afterRounds leavingRounds recordedInitiator).world.writes =
      [(Names.initiatorKey, "10.0.0.1")] := by decide
  have hsticky := stickyElections leavingRounds recordedInitiator
  obtain ⟨still, left, rest, heq, -, hleft⟩ :=
    hsticky.changed [] leavingRounds [] "10.0.0.2" "10.0.0.1" (List.append_nil _).symm
      (by decide) (by decide) (by decide)
  exact ⟨hwrites, hsticky, still, left, rest, heq, hleft⟩

end Runs

end NetworkRollout
