import Mathlib.Data.List.Forall2
import Mathlib.Data.List.Sort
import NetworkRollout.Bootstrap.Scripted
import NetworkRollout.Proofs.Bootstrap.Deadlines
import NetworkRollout.Proofs.Text.ByteOrder

/-!
# The order of listings

The server promises no order in what it lists. A discovery looks at how many nodes a listing shows,
and what follows it only sees the sorted addresses; so two bootstraps whose listings show the same
nodes in different orders are the same bootstrap, as long as every node has an address.

* `Listing.Reordered`: two listings of the same nodes.
* `Bootstrap.ascending_addresses`: the addresses are those of the nodes, in ascending order.
* `bootstrap_reordered`: bootstraps do not tell the listings apart.
-/

namespace NetworkRollout

open PassM

variable {σ : Type}

/-! ## Listings of the same nodes -/

/-- The nodes are the same in some order, and all of them report an address. -/
structure MemberNode.SameNodes (nodes nodes' : List MemberNode) : Prop where
  perm : nodes.Perm nodes'
  addressed : ∀ node ∈ nodes, node.address.isSome

theorem MemberNode.SameNodes.nil : SameNodes [] [] := ⟨.refl [], by rintro node ⟨⟩⟩

theorem MemberNode.SameNodes.length_eq {nodes nodes' : List MemberNode}
    (h : SameNodes nodes nodes') : nodes'.length = nodes.length := h.perm.length_eq.symm

namespace Listing

/-- Both listings show the same nodes, or they fail alike; and they take the same time. -/
abbrev Reordered : Listing → Listing → Prop := Alike MemberNode.SameNodes

theorem rel_getElem? {listings listings' : List Listing}
    (h : List.Forall₂ Reordered listings listings') (i : Nat) :
    Option.Rel Reordered listings[i]? listings'[i]? := by
  induction h generalizing i with
  | nil => exact .none
  | cons hfirst _ ih =>
    cases i with
    | zero => exact .some hfirst
    | succ i => exact ih i

/-- Scripts that show the same nodes, listing by listing, are read alike. -/
theorem script_reordered {listings listings' : List Listing}
    (h : List.Forall₂ Reordered listings listings') (call : Nat) :
    Reordered (Discovery.script listings call) (Discovery.script listings' call) := by
  have hcall := rel_getElem? h call
  have hlast := rel_getElem? h (listings.length - 1)
  unfold Discovery.script
  rw [List.getLast?_eq_getElem?, List.getLast?_eq_getElem?, ← h.length_eq]
  generalize listings[call]? = answer, listings'[call]? = answer' at hcall ⊢
  generalize listings[listings.length - 1]? = last, listings'[listings.length - 1]? = last'
    at hlast ⊢
  cases hcall with
  | some hsame => exact hsame
  | none =>
    cases hlast with
    | some hsame => exact hsame
    | none => exact ⟨rfl, Or.inr ⟨[], [], rfl, rfl, .nil⟩⟩

end Listing

namespace Bootstrap

/-! ## Addresses -/

/-- Where all nodes report an address, these are the addresses. -/
theorem mapM_address_of_addressed {nodes : List MemberNode}
    (h : ∀ node ∈ nodes, node.address.isSome) :
    nodes.mapM address = .ok (nodes.filterMap (·.address)) := by
  induction nodes with
  | nil => rfl
  | cons node rest ih =>
    obtain ⟨a, ha⟩ := Option.isSome_iff_exists.mp (h node List.mem_cons_self)
    have hrest := ih fun node hnode => h node (List.mem_cons_of_mem _ hnode)
    rw [List.mapM_cons, hrest, List.filterMap_cons_some ha, address, ha]
    rfl

/-- Sorted addresses ascend. -/
theorem pairwise_mergeSort_le (addresses : List String) :
    addresses.mergeSort.Pairwise (· ≤ ·) :=
  List.pairwise_mergeSort' (· ≤ ·) addresses

theorem mergeSort_eq_of_perm {addresses addresses' : List String}
    (h : addresses.Perm addresses') : addresses'.mergeSort = addresses.mergeSort :=
  List.Perm.eq_of_pairwise' (pairwise_mergeSort_le _) (pairwise_mergeSort_le _)
    ((List.mergeSort_perm _ _).trans (h.symm.trans (List.mergeSort_perm _ _).symm))

/-- The order of the nodes does not matter for their addresses. -/
theorem addresses_of_sameNodes {nodes nodes' : List MemberNode}
    (h : MemberNode.SameNodes nodes nodes') : addresses nodes' = addresses nodes := by
  have haddressed' : ∀ node ∈ nodes', node.address.isSome := fun node hnode =>
    h.addressed node (h.perm.mem_iff.mpr hnode)
  unfold addresses
  rw [mapM_address_of_addressed h.addressed, mapM_address_of_addressed haddressed']
  exact congrArg Except.ok (mergeSort_eq_of_perm (h.perm.filterMap _))

/-- The addresses of nodes ascend in their bytes, and none is left out or repeated less often. -/
theorem ascending_addresses {nodes : List MemberNode} {members : List String}
    (h : addresses nodes = .ok members) :
    members.Perm (nodes.filterMap (·.address)) ∧
      members.Pairwise fun a b => Text.bytes a ≤ Text.bytes b := by
  unfold addresses at h
  cases hfound : nodes.mapM address with
  | error e =>
    rw [hfound] at h
    cases h
  | ok found =>
    rw [hfound] at h
    cases h
    rw [← filterMap_of_mapM_address hfound]
    refine ⟨List.mergeSort_perm _ _, (pairwise_mergeSort_le _).imp fun hle => ?_⟩
    exact List.not_lt.mp fun hlt => absurd (Text.bytes_lt_iff.mp hlt) (not_lt.mpr hle)

/-! ## Whole bootstraps -/

section

variable {env : Surroundings σ} {listNodes : σ → Listing × σ}

/-- Listings in another order leave the discovery in the same state, and it fails alike or finds
the same nodes. -/
theorem discover_reordered
    (hlist : ∀ w, Listing.Reordered (env.listNodes w).1 (listNodes w).1 ∧
      (listNodes w).2 = (env.listNodes w).2) (target : String) (expected : Nat) (run : Run σ) :
    (∃ e after, (discover env target expected).run.run run = (.error e, after) ∧
      (discover { env with listNodes } target expected).run.run run = (.error e, after)) ∨
    ∃ nodes nodes' timedOut after,
      (discover env target expected).run.run run = (.ok ⟨nodes, timedOut⟩, after) ∧
        (discover { env with listNodes } target expected).run.run run =
          (.ok ⟨nodes', timedOut⟩, after) ∧ MemberNode.SameNodes nodes nodes' := by
  have hasked : ∀ w w' : σ, w = w' →
      (env.listNodes w).1.Reordered (listNodes w').1 ∧ (env.listNodes w).2 = (listNodes w').2 := by
    rintro w _ rfl
    exact ⟨(hlist w).1, (hlist w).2.symm⟩
  have hsame := Discovery.run_alike (fun _ _ => MemberNode.SameNodes.length_eq) hasked .nil
    (polling (run.deadlines.of target)) expected (Eq.refl run.world)
  rw [run_discover, run_discover]
  unfold discovered discoveryRun
  dsimp only
  rw [hsame.elapsed, ← hsame.world]
  rcases hsame.outcome with ⟨e, he, he'⟩ | ⟨nodes, nodes', timedOut, hd, hd', hnodes⟩
  · rw [he, he']
    exact Or.inl ⟨e, _, rfl, rfl⟩
  · rw [hd, hd']
    exact Or.inr ⟨nodes, nodes', timedOut, _, rfl, rfl, hnodes⟩

/-- What follows a discovery asks for no listing, and only sees the addresses of the nodes. -/
theorem complete_reordered (ns : Namespaces) (spec : NetworkSpec)
    (surveyed : Infrastructure × Nat) {nodes nodes' : List MemberNode} (timedOut : Bool)
    (h : MemberNode.SameNodes nodes nodes') :
    complete { env with listNodes } ns spec surveyed ⟨nodes', timedOut⟩ =
      complete env ns spec surveyed ⟨nodes, timedOut⟩ := by
  unfold complete
  dsimp only
  rw [addresses_of_sameNodes h]
  rfl

/-- What a bootstrap finds, if it gets to its discovery. -/
def found? (env : Surroundings σ) (target : String) (run : Run σ) : Option Discovery :=
  match (survey env).run.run run with
  | (.error _, _) => none
  | (.ok surveyed, run) => ((discover env target surveyed.2).run.run run).1.toOption

/-- The addresses of a bootstrap are those of the nodes that it finds. -/
theorem addresses_of_bootstrap {ns : Namespaces} {target : String} {spec : NetworkSpec}
    {run : Run σ} {s : Snapshot} (h : ((bootstrap env ns target spec).run.run run).1 = .ok s) :
    ∃ found, found? env target run = some found ∧ addresses found.nodes = .ok s.addresses := by
  rw [bootstrap_eq, run_bind] at h
  unfold found?
  cases hsurvey : (survey env).run.run run with
  | mk answer run₁ =>
    rw [hsurvey] at h
    cases answer with
    | error e => cases h
    | ok surveyed =>
      dsimp only at h ⊢
      rw [run_bind] at h
      cases hdiscover : (discover env target surveyed.2).run.run run₁ with
      | mk answer run₂ =>
        rw [hdiscover] at h
        cases answer with
        | error e => cases h
        | ok found =>
          exact ⟨found, rfl, (yields_complete ns spec surveyed found run₂ s h).2⟩

end

end Bootstrap

/-- A bootstrap does not depend on the order of its listings: it answers the same, and leaves the
same world, deadlines and time behind. The addresses that it reports are those of the nodes that it
finds, with their repetitions, ascending in their bytes. -/
theorem bootstrap_reordered (env : Surroundings σ) (listNodes : σ → Listing × σ)
    (hlist : ∀ w, Listing.Reordered (env.listNodes w).1 (listNodes w).1 ∧
      (listNodes w).2 = (env.listNodes w).2)
    (ns : Namespaces) (target : String) (spec : NetworkSpec) (run : Run σ) :
    (bootstrap { env with listNodes } ns target spec).run.run run =
        (bootstrap env ns target spec).run.run run ∧
      ∀ s, ((bootstrap env ns target spec).run.run run).1 = .ok s →
        ∃ found, Bootstrap.found? env target run = some found ∧
          s.addresses.Perm (found.nodes.filterMap (·.address)) ∧
          s.addresses.Pairwise fun a b => Text.bytes a ≤ Text.bytes b := by
  constructor
  · have hsurvey : Bootstrap.survey { env with listNodes } = Bootstrap.survey env := rfl
    rw [bootstrap_eq, bootstrap_eq, run_bind, run_bind, hsurvey]
    rcases (Bootstrap.survey env).run.run run with ⟨e | surveyed, run₁⟩
    · rfl
    · dsimp only
      rw [run_bind, run_bind]
      rcases Bootstrap.discover_reordered hlist target surveyed.2 run₁ with
        ⟨e, after, hfails, hfails'⟩ | ⟨nodes, nodes', timedOut, after, hfinds, hfinds', hsame⟩
      · rw [hfails, hfails']
      · rw [hfinds, hfinds']
        dsimp only
        rw [Bootstrap.complete_reordered ns spec surveyed timedOut hsame]
  · intro s hs
    obtain ⟨found, hfound, haddresses⟩ := Bootstrap.addresses_of_bootstrap hs
    exact ⟨found, hfound, Bootstrap.ascending_addresses haddresses⟩

/-- A script in which three members are expected, and the first listing misses one of them. -/
def Script.threeMembers (first second : List MemberNode) : Script where
  configMap _ name :=
    if name = Names.clusterConfigName then
      .ok (some [(Names.installConfigKey, "controlPlane:\n  replicas: 3\n")])
    else .ok none
  listings := [{ answer := .ok first }, { delay := 20, answer := .ok second }]

/-- Two of the members share an address. -/
def Script.inOrder : Script :=
  threeMembers [⟨"m0", some "10.0.0.10"⟩, ⟨"m1", some "10.0.0.9"⟩]
    [⟨"m0", some "10.0.0.10"⟩, ⟨"m1", some "10.0.0.9"⟩, ⟨"m2", some "10.0.0.10"⟩]

/-- The same members, listed in other orders. -/
def Script.outOfOrder : Script :=
  threeMembers [⟨"m1", some "10.0.0.9"⟩, ⟨"m0", some "10.0.0.10"⟩]
    [⟨"m2", some "10.0.0.10"⟩, ⟨"m0", some "10.0.0.10"⟩, ⟨"m1", some "10.0.0.9"⟩]

theorem Script.outOfOrder_reordered :
    List.Forall₂ Listing.Reordered inOrder.listings outOfOrder.listings := by
  refine .cons ⟨rfl, Or.inr ⟨_, _, rfl, rfl, ?_, ?_⟩⟩
    (.cons ⟨rfl, Or.inr ⟨_, _, rfl, rfl, ?_, ?_⟩⟩ .nil)
  all_goals decide

theorem bootstrap_reordered_outOfOrder :
    (bootstrap Script.outOfOrder.surroundings {} "c" {}).run.run { world := {} } =
      (bootstrap Script.inOrder.surroundings {} "c" {}).run.run { world := {} } := by
  have hlistings : Script.outOfOrder.surroundings =
      { Script.inOrder.surroundings with
        listNodes := Script.outOfOrder.surroundings.listNodes } := rfl
  rw [hlistings]
  exact (bootstrap_reordered Script.inOrder.surroundings Script.outOfOrder.surroundings.listNodes
    (fun s => ⟨Listing.script_reordered Script.outOfOrder_reordered s.calls, rfl⟩)
    {} "c" {} { world := {} }).1

end NetworkRollout
