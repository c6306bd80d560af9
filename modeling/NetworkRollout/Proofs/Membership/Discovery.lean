import NetworkRollout.Membership.Discovery

/-!
# What a discovery shows

A discovery only lists nodes. The nodes that it ends with are those of its last listing that was
seen, or none; and when it fails, then because the nodes could not be listed. Of the nodes it only
looks at how many there are, so that two discoveries go the same way if their listings do.

* `Discovery.Shows`: the end of a discovery, in terms of the listings.
* `Discovery.poll_shows`, `Discovery.run_shows`: every discovery ends so.
* `Discovery.run_alike`: two discoveries with listings that correspond.
-/

namespace NetworkRollout

variable {σ σ' : Type}

namespace Discovery

variable {ask : σ → Listing × σ} {R : σ → σ → Prop}

/-- What a polling does from a tick. -/
theorem poll_eq (ask : σ → Listing × σ) (p : Polling) (expected due now calls : Nat)
    (seen : List MemberNode) (world : σ) :
    poll ask p expected due now calls seen world =
      if max now due ≤ p.deadline then
        if max now due + (ask world).1.delay ≤ p.deadline then
          match (ask world).1.answer with
          | .error e => ⟨.error (.nodeDirectory e.message), calls + 1,
              max now due + (ask world).1.delay, (ask world).2⟩
          | .ok nodes =>
            if complete expected nodes then
              ⟨.ok ⟨nodes, false⟩, calls + 1, max now due + (ask world).1.delay, (ask world).2⟩
            else poll ask p expected (nextTick p.interval due (max now due))
              (max now due + (ask world).1.delay) (calls + 1) nodes (ask world).2
        else ⟨.ok ⟨seen, true⟩, calls + 1, p.deadline, (ask world).2⟩
      else ⟨.ok ⟨seen, true⟩, calls, p.deadline, world⟩ := by
  rw [poll]
  rfl

/-- The end of a discovery in which `seen` was seen before: the world is related to the first one,
the nodes are those seen before or those that a listing in such a world shows, and a failure is
one of listing the nodes. -/
structure Shows (ask : σ → Listing × σ) (R : σ → σ → Prop) (seen : List MemberNode) (first : σ)
    (d : DiscoveryRun σ) : Prop where
  world : R first d.world
  nodes : ∀ found, d.outcome = .ok found →
    found.nodes = seen ∨ ∃ w, R first w ∧ (ask w).1.answer = .ok found.nodes
  failure : ∀ e, d.outcome = .error e → ∃ detail, e = .nodeDirectory detail

/-- One more listing before a discovery. -/
theorem Shows.after_listing {seen nodes : List MemberNode} {first : σ} {d : DiscoveryRun σ}
    (htrans : ∀ {a b c}, R a b → R b c → R a c) (hrefl : R first first)
    (hask : R first (ask first).2) (hnodes : (ask first).1.answer = .ok nodes)
    (h : Shows ask R nodes (ask first).2 d) : Shows ask R seen first d where
  world := htrans hask h.world
  nodes := by
    intro found hfound
    rcases h.nodes found hfound with hsame | ⟨w, hw, hlisted⟩
    · rw [hsame]
      exact Or.inr ⟨first, hrefl, hnodes⟩
    · exact Or.inr ⟨w, htrans hask hw, hlisted⟩
  failure := h.failure

/-- Every polling ends so. The induction follows the listings: each is one more before the rest. -/
theorem poll_shows (hrefl : ∀ w, R w w) (htrans : ∀ {a b c}, R a b → R b c → R a c)
    (hask : ∀ w, R w (ask w).2) (p : Polling) (expected due now calls : Nat)
    (seen : List MemberNode) (first : σ) :
    Shows ask R seen first (poll ask p expected due now calls seen first) := by
  fun_induction poll ask p expected due now calls seen first with
  | case1 due now calls seen first _ _ listing world hlist _ _ e _ =>
    -- the listing fails
    have hworld := hask first
    rw [hlist] at hworld
    refine ⟨hworld, ?_, ?_⟩
    · rintro found ⟨⟩
    · rintro _ ⟨⟩
      exact ⟨_, rfl⟩
  | case2 due now calls seen first _ _ listing world hlist _ _ nodes hanswer _ =>
    -- all members are there
    have hworld := hask first
    rw [hlist] at hworld
    refine ⟨hworld, ?_, ?_⟩
    · rintro found ⟨⟩
      exact Or.inr ⟨first, hrefl first, by rw [hlist]; exact hanswer⟩
    · rintro e ⟨⟩
  | case3 due now calls seen first _ _ listing world hlist _ _ nodes hanswer _ ih =>
    -- some are missing, and the polling goes on
    refine Shows.after_listing htrans (hrefl first) (hask first)
      (?_ : (ask first).1.answer = .ok nodes) ?_
    · rw [hlist]
      exact hanswer
    · rw [hlist]
      exact ih
  | case4 due now calls seen first _ _ listing world hlist _ _ =>
    -- the answer comes after the deadline and is not looked at
    have hworld := hask first
    rw [hlist] at hworld
    refine ⟨hworld, ?_, ?_⟩
    · rintro found ⟨⟩
      exact Or.inl rfl
    · rintro e ⟨⟩
  | case5 due now calls seen first _ _ =>
    refine ⟨hrefl first, ?_, ?_⟩
    · rintro found ⟨⟩
      exact Or.inl rfl
    · rintro e ⟨⟩

/-- A discovery starts with nothing seen. -/
theorem run_shows (hrefl : ∀ w, R w w) (htrans : ∀ {a b c}, R a b → R b c → R a c)
    (hask : ∀ w, R w (ask w).2) (p : Polling) (expected : Nat) (first : σ) :
    Shows ask R [] first (run ask p expected first) :=
  poll_shows hrefl htrans hask p expected 0 0 0 [] first

end Discovery

/-! ## Two discoveries -/

/-- Two listings that take the same time, and fail alike or show nodes that correspond. -/
structure Listing.Alike (N : List MemberNode → List MemberNode → Prop) (l l' : Listing) : Prop where
  delay : l'.delay = l.delay
  answer : (∃ e, l.answer = .error e ∧ l'.answer = .error e) ∨
    ∃ nodes nodes', l.answer = .ok nodes ∧ l'.answer = .ok nodes' ∧ N nodes nodes'

/-- Two discoveries that take the same time, and fail alike or find nodes that correspond. -/
structure DiscoveryRun.Alike (N : List MemberNode → List MemberNode → Prop) (R : σ → σ' → Prop)
    (d : DiscoveryRun σ) (d' : DiscoveryRun σ') : Prop where
  outcome : (∃ e, d.outcome = .error e ∧ d'.outcome = .error e) ∨
    ∃ nodes nodes' timedOut, d.outcome = .ok ⟨nodes, timedOut⟩ ∧
      d'.outcome = .ok ⟨nodes', timedOut⟩ ∧ N nodes nodes'
  elapsed : d'.elapsed = d.elapsed
  world : R d.world d'.world

namespace Discovery

variable {N : List MemberNode → List MemberNode → Prop} {R : σ → σ' → Prop}
  {ask : σ → Listing × σ} {ask' : σ' → Listing × σ'}

theorem complete_of_length {nodes nodes' : List MemberNode} (h : nodes'.length = nodes.length)
    (expected : Nat) : complete expected nodes' = complete expected nodes := by
  have hempty : nodes'.isEmpty = nodes.isEmpty := by
    rw [Bool.eq_iff_iff, List.isEmpty_iff_length_eq_zero, List.isEmpty_iff_length_eq_zero, h]
  unfold complete
  rw [hempty, h]

/-- The induction follows the listings of the first polling; the second one begins each at the same
time. -/
theorem poll_alike (hlength : ∀ nodes nodes', N nodes nodes' → nodes'.length = nodes.length)
    (hask : ∀ w w', R w w' →
      Listing.Alike N (ask w).1 (ask' w').1 ∧ R (ask w).2 (ask' w').2)
    (p : Polling) (expected due now calls : Nat) (seen : List MemberNode) (world : σ) :
    ∀ seen' world', N seen seen' → R world world' →
      DiscoveryRun.Alike N R (poll ask p expected due now calls seen world)
        (poll ask' p expected due now calls seen' world') := by
  fun_induction poll ask p expected due now calls seen world with
  | case1 due now calls seen world start hbegins l next hasked readyAt hintime e hanswer =>
    intro seen' world' hseen hworld
    obtain ⟨hlisting, hnext⟩ := hask world world' hworld
    rw [hasked] at hlisting hnext
    rw [poll_eq, if_pos hbegins, hlisting.delay, if_pos hintime]
    rcases hlisting.answer with ⟨e', he, he'⟩ | ⟨nodes, nodes', hshown, -, -⟩
    · cases hanswer.symm.trans he
      rw [he']
      exact ⟨Or.inl ⟨_, rfl, rfl⟩, rfl, hnext⟩
    · cases hanswer.symm.trans hshown
  | case2 due now calls seen world start hbegins l next hasked readyAt hintime nodes hanswer
      hcomplete =>
    intro seen' world' hseen hworld
    obtain ⟨hlisting, hnext⟩ := hask world world' hworld
    rw [hasked] at hlisting hnext
    rw [poll_eq, if_pos hbegins, hlisting.delay, if_pos hintime]
    rcases hlisting.answer with ⟨e, he, -⟩ | ⟨_, nodes', hshown, hshown', hnodes⟩
    · cases hanswer.symm.trans he
    · cases hanswer.symm.trans hshown
      rw [hshown']
      dsimp only
      rw [complete_of_length (hlength _ _ hnodes), if_pos hcomplete]
      exact ⟨Or.inr ⟨_, _, _, rfl, rfl, hnodes⟩, rfl, hnext⟩
  | case3 due now calls seen world start hbegins l next hasked readyAt hintime nodes hanswer
      hcomplete ih =>
    intro seen' world' hseen hworld
    obtain ⟨hlisting, hnext⟩ := hask world world' hworld
    rw [hasked] at hlisting hnext
    rw [poll_eq ask' p, if_pos hbegins, hlisting.delay, if_pos hintime]
    rcases hlisting.answer with ⟨e, he, -⟩ | ⟨_, nodes', hshown, hshown', hnodes⟩
    · cases hanswer.symm.trans he
    · cases hanswer.symm.trans hshown
      rw [hshown']
      dsimp only
      rw [complete_of_length (hlength _ _ hnodes), if_neg hcomplete]
      exact ih _ _ hnodes hnext
  | case4 due now calls seen world start hbegins l next hasked readyAt hlate =>
    intro seen' world' hseen hworld
    obtain ⟨hlisting, hnext⟩ := hask world world' hworld
    rw [hasked] at hlisting hnext
    rw [poll_eq, if_pos hbegins, hlisting.delay, if_neg hlate]
    exact ⟨Or.inr ⟨seen, seen', true, rfl, rfl, hseen⟩, rfl, hnext⟩
  | case5 due now calls seen world start hover =>
    intro seen' world' hseen hworld
    rw [poll_eq, if_neg hover]
    exact ⟨Or.inr ⟨seen, seen', true, rfl, rfl, hseen⟩, rfl, hworld⟩

/-- Two discoveries go the same way if their listings correspond, and so do the nodes that they
find. -/
theorem run_alike (hlength : ∀ nodes nodes', N nodes nodes' → nodes'.length = nodes.length)
    (hask : ∀ w w', R w w' →
      Listing.Alike N (ask w).1 (ask' w').1 ∧ R (ask w).2 (ask' w').2)
    (hnone : N [] []) (p : Polling) (expected : Nat) {world : σ} {world' : σ'}
    (hworld : R world world') :
    DiscoveryRun.Alike N R (run ask p expected world) (run ask' p expected world') :=
  poll_alike hlength hask p expected 0 0 0 [] world [] world' hnone hworld

end Discovery

end NetworkRollout
