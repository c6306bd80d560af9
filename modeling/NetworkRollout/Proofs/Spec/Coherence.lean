import NetworkRollout.Proofs.Spec.ChangeSafety
import NetworkRollout.Proofs.Text.Pieces
import NetworkRollout.Tier.State

/-!
# Which specs are coherent

The checks of a spec work with the families that its two lists of pools cover, folded over the
lists, and with the number of service pools. Together they accept one service pool, or one of each
family, and cluster pools of the same families. So the count of the service pools alone tells
whether the network is dual-stack.

* `IsV6Pool`, `Covers`: the family of a pool, and the families of a list of pools.
* `NetworkSpec.Coherent`: what a spec has to be.
* `NetworkSpec.faults_eq_nil_iff`: the checks find nothing exactly in coherent specs.
* `NetworkSpec.coherence`: what the checks say of a spec, of its family and of its order.
-/

namespace NetworkRollout

/-! ## Families of pools -/

/-- The families of addresses that a pool can have. -/
inductive PoolFamily where
  | v4
  | v6

/-- A pool of IPv6: the text in front of its first slash is an IPv6 address, and so is all of the
text if there is no slash. -/
def IsV6Pool (cidr : String) : Prop :=
  ∃ address length, '/' ∉ address ∧ cidr.toList = Text.rejoin '/' address length ∧
    Text.isIPv6 address = true

/-- What is no pool of IPv6 is one of IPv4. -/
def PoolFamily.Has : PoolFamily → String → Prop
  | v4, cidr => ¬ IsV6Pool cidr
  | v6, cidr => IsV6Pool cidr

/-- Some pool of the list has the family. -/
def Covers (cidrs : List String) (family : PoolFamily) : Prop := ∃ cidr ∈ cidrs, family.Has cidr

theorem isIPv6Pool_iff {cidr : String} : isIPv6Pool cidr = true ↔ IsV6Pool cidr := by
  unfold isIPv6Pool
  constructor
  · intro h
    rcases hcut : Text.cutAt '/' cidr.toList with ⟨address, length⟩
    obtain ⟨hslash, hcidr⟩ := Text.cutAt_eq_iff.mp hcut
    rw [hcut] at h
    exact ⟨address, length, hslash, hcidr, h⟩
  · rintro ⟨address, length, hslash, hcidr, h⟩
    rw [Text.cutAt_eq_iff.mpr ⟨hslash, hcidr⟩]
    exact h

namespace Coverage

variable {cidrs others : List String}

theorem ofPools_v4_iff : (ofPools cidrs).v4 = true ↔ Covers cidrs .v4 := by
  simp only [ofPools, List.any_eq_true, Bool.not_eq_true', Bool.eq_false_iff, ne_eq,
    isIPv6Pool_iff, Covers, PoolFamily.Has]

theorem ofPools_v6_iff : (ofPools cidrs).v6 = true ↔ Covers cidrs .v6 := by
  simp only [ofPools, List.any_eq_true, isIPv6Pool_iff, Covers, PoolFamily.Has]

/-- Coverages are the same if they are of the same families. -/
theorem ofPools_eq_iff :
    ofPools cidrs = ofPools others ↔ ∀ family, Covers cidrs family ↔ Covers others family := by
  constructor
  · rintro h (_ | _)
    · rw [← ofPools_v4_iff, h, ofPools_v4_iff]
    · rw [← ofPools_v6_iff, h, ofPools_v6_iff]
  · intro h
    have hv4 : (ofPools cidrs).v4 = (ofPools others).v4 := by
      rw [Bool.eq_iff_iff, ofPools_v4_iff, ofPools_v4_iff]
      exact h .v4
    have hv6 : (ofPools cidrs).v6 = (ofPools others).v6 := by
      rw [Bool.eq_iff_iff, ofPools_v6_iff, ofPools_v6_iff]
      exact h .v6
    exact congrArg₂ Coverage.mk hv4 hv6

theorem isDual_ofPools_iff : (ofPools cidrs).isDual = true ↔ ∀ family, Covers cidrs family := by
  unfold isDual
  rw [Bool.and_eq_true, ofPools_v4_iff, ofPools_v6_iff]
  constructor
  · rintro ⟨hv4, hv6⟩ (_ | _)
    · exact hv4
    · exact hv6
  · exact fun h => ⟨h .v4, h .v6⟩

/-- Every pool has a family, so only no pools cover none. -/
theorem isEmpty_ofPools (cidrs : List String) : (ofPools cidrs).isEmpty = cidrs.isEmpty := by
  cases cidrs with
  | nil => rfl
  | cons cidr cidrs =>
    unfold isEmpty ofPools
    rw [List.any_cons, List.any_cons, List.isEmpty_cons]
    cases isIPv6Pool cidr <;> simp

/-- The order of pools makes no difference. -/
theorem ofPools_perm (h : cidrs.Perm others) : ofPools cidrs = ofPools others :=
  ofPools_eq_iff.mpr fun _ => exists_congr fun _ => and_congr_left fun _ => h.mem_iff

end Coverage

/-- One pool has one family. -/
theorem not_covers_both_singleton (cidr : String) : ¬ ∀ family, Covers [cidr] family := by
  intro h
  obtain ⟨_, hv6, hhas⟩ := h .v6
  obtain ⟨_, hv4, hhasNot⟩ := h .v4
  rw [List.mem_singleton] at hv6 hv4
  subst hv6 hv4
  exact hhasNot hhas

/-- Two pools cover both families if exactly one of them is of IPv6. -/
theorem covers_both_pair_iff {a b : String} :
    (∀ family, Covers [a, b] family) ↔ (IsV6Pool a ∧ ¬ IsV6Pool b ∨ ¬ IsV6Pool a ∧ IsV6Pool b) := by
  have hcovers : ∀ family, Covers [a, b] family ↔ family.Has a ∨ family.Has b := fun family => by
    simp only [Covers, List.mem_cons, List.not_mem_nil, or_false, exists_eq_or_imp, exists_eq_left]
  constructor
  · intro h
    have hv4 : ¬ IsV6Pool a ∨ ¬ IsV6Pool b := (hcovers .v4).mp (h .v4)
    rcases (hcovers .v6).mp (h .v6) with ha | hb
    · exact Or.inl ⟨ha, hv4.resolve_left (not_not_intro ha)⟩
    · exact Or.inr ⟨hv4.resolve_right (not_not_intro hb), hb⟩
  · rintro (⟨ha, hb⟩ | ⟨ha, hb⟩) (_ | _)
    · exact (hcovers .v4).mpr (Or.inr hb)
    · exact (hcovers .v6).mpr (Or.inl ha)
    · exact (hcovers .v4).mpr (Or.inl ha)
    · exact (hcovers .v6).mpr (Or.inr hb)

/-! ## What a spec has to be -/

/-- One service pool, or two of which exactly one is of IPv6. -/
def FitForServices : List String → Prop
  | [_] => True
  | [a, b] => IsV6Pool a ∧ ¬ IsV6Pool b ∨ ¬ IsV6Pool a ∧ IsV6Pool b
  | _ => False

/-- The numbers of an overlay lie in their ranges. -/
structure Overlay.InRange (overlay : Overlay) : Prop where
  mtu : ∀ mtu, overlay.mtu = some mtu → 576 ≤ mtu.toNat ∧ mtu.toNat ≤ 65536
  genevePort : ∀ port, overlay.genevePort = some port → 1 ≤ port.toNat ∧ port.toNat ≤ 65535

namespace NetworkSpec

variable {spec : NetworkSpec}

/-- Some cluster pool has the family. -/
def ClusterCovers (spec : NetworkSpec) (family : PoolFamily) : Prop :=
  Covers (spec.clusterNetwork.map (·.cidr)) family

/-- Some service pool has the family. -/
def ServiceCovers (spec : NetworkSpec) (family : PoolFamily) : Prop :=
  Covers spec.serviceNetwork family

/-- A spec that fits together: one service pool or a pair, cluster pools of the same families, and
numbers in their ranges. -/
structure Coherent (spec : NetworkSpec) : Prop where
  servicePools : FitForServices spec.serviceNetwork
  clusterPools : spec.clusterNetwork ≠ []
  families : ∀ family, spec.ClusterCovers family ↔ spec.ServiceCovers family
  overlay : ∀ overlay, spec.overlay = some overlay → overlay.InRange

end NetworkSpec

/-- The checks on the number of service pools, together. -/
theorem fitForServices_iff {pools : List String} :
    FitForServices pools ↔ (Coverage.ofPools pools).isEmpty = false ∧
      (2 < pools.length || (pools.length = 2 && !(Coverage.ofPools pools).isDual)) = false := by
  rw [Coverage.isEmpty_ofPools]
  -- No pool, one, two, and more: only two are asked for their families.
  rcases pools with _ | ⟨a, _ | ⟨b, _ | ⟨c, rest⟩⟩⟩
  · simp [FitForServices]
  · simp [FitForServices]
  · have hdual : (Coverage.ofPools [a, b]).isDual = true ↔ _ :=
      Coverage.isDual_ofPools_iff.trans covers_both_pair_iff
    simp [FitForServices, ← hdual]
  · simp [FitForServices]

/-- A list of pools that is fit for services covers both families exactly if it is a pair. -/
theorem FitForServices.covers_both_iff {pools : List String} (h : FitForServices pools) :
    (∀ family, Covers pools family) ↔ pools.length = 2 := by
  rcases pools with _ | ⟨a, _ | ⟨b, _ | ⟨c, rest⟩⟩⟩
  · exact h.elim
  · exact iff_of_false (not_covers_both_singleton a) (by simp)
  · exact iff_of_true (covers_both_pair_iff.mpr h) rfl
  · exact h.elim

theorem Family.ofPoolCount_eq_dualStack_iff {count : Nat} :
    ofPoolCount count = dualStack ↔ count = 2 := by
  unfold ofPoolCount
  by_cases h : count = 2
  · rw [if_pos h]
    exact iff_of_true rfl h
  · rw [if_neg h]
    exact iff_of_false nofun h

/-- A number between two bounds, or none, is no fault. -/
theorem rangeFault_eq_nil_iff {low high : UInt32} {setting : Option UInt32}
    {fault : UInt32 → SpecFault} :
    (match setting with
      | some n => faultIf (n < low || high < n) (fault n)
      | none => []) = [] ↔
      ∀ n, setting = some n → low.toNat ≤ n.toNat ∧ n.toNat ≤ high.toNat := by
  cases setting with
  | none => simp
  | some n =>
    simp only [faultIf_eq_nil_iff, Bool.or_eq_false_iff, decide_eq_false_iff_not,
      UInt32.lt_iff_toNat_lt, Nat.not_lt, Option.some.injEq, forall_eq']

namespace NetworkSpec

variable {spec : NetworkSpec}

theorem overlayFaults_eq_nil_iff {overlay : Overlay} :
    overlayFaults overlay = [] ↔ overlay.InRange := by
  unfold overlayFaults
  rw [List.append_eq_nil_iff]
  constructor
  · rintro ⟨hmtu, hport⟩
    exact ⟨rangeFault_eq_nil_iff.mp hmtu, rangeFault_eq_nil_iff.mp hport⟩
  · rintro ⟨hmtu, hport⟩
    exact ⟨rangeFault_eq_nil_iff.mpr hmtu, rangeFault_eq_nil_iff.mpr hport⟩

theorem poolFaults_eq_nil_iff : spec.poolFaults = [] ↔
    FitForServices spec.serviceNetwork ∧ spec.clusterNetwork ≠ [] ∧
      ∀ family, spec.ClusterCovers family ↔ spec.ServiceCovers family := by
  have hcluster : spec.clusterCoverage.isEmpty = false ↔ spec.clusterNetwork ≠ [] := by
    unfold clusterCoverage
    rw [Coverage.isEmpty_ofPools, List.isEmpty_map, List.isEmpty_eq_false_iff]
  have hfamilies : decide (spec.clusterCoverage ≠ spec.serviceCoverage) = false ↔
      ∀ family, spec.ClusterCovers family ↔ spec.ServiceCovers family :=
    decide_eq_false_iff_not.trans (not_not.trans Coverage.ofPools_eq_iff)
  unfold poolFaults
  simp only [List.append_eq_nil_iff, faultIf_eq_nil_iff]
  rw [hcluster, hfamilies, fitForServices_iff]
  constructor
  · rintro ⟨⟨⟨hany, hservice⟩, hsame⟩, hcount⟩
    exact ⟨⟨hservice, hcount⟩, hany, hsame⟩
  · rintro ⟨⟨hservice, hcount⟩, hany, hsame⟩
    exact ⟨⟨⟨hany, hservice⟩, hsame⟩, hcount⟩

/-- The checks find nothing exactly in coherent specs. -/
theorem faults_eq_nil_iff : spec.faults = [] ↔ spec.Coherent := by
  have hoverlay : (spec.overlay.map overlayFaults).getD [] = [] ↔
      ∀ overlay, spec.overlay = some overlay → overlay.InRange := by
    cases spec.overlay with
    | none => simp
    | some overlay => simp [overlayFaults_eq_nil_iff]
  unfold faults
  rw [List.append_eq_nil_iff, poolFaults_eq_nil_iff, hoverlay]
  exact ⟨fun ⟨⟨hservice, hany, hsame⟩, hranges⟩ => ⟨hservice, hany, hsame, hranges⟩,
    fun h => ⟨⟨h.servicePools, h.clusterPools, h.families⟩, h.overlay⟩⟩

/-- In a coherent spec the count of the service pools tells whether both lists of pools cover both
families. -/
theorem Coherent.dualStack_iff (h : spec.Coherent) :
    Family.ofPoolCount spec.serviceNetwork.length = .dualStack ↔
      (∀ family, spec.ClusterCovers family) ∧ ∀ family, spec.ServiceCovers family := by
  have hboth : (∀ family, spec.ClusterCovers family) ↔ ∀ family, spec.ServiceCovers family :=
    forall_congr' h.families
  have hcount : (∀ family, spec.ServiceCovers family) ↔ spec.serviceNetwork.length = 2 :=
    h.servicePools.covers_both_iff
  rw [hboth, and_self, hcount, Family.ofPoolCount_eq_dualStack_iff]

/-- Pools in another order have the same faults. -/
theorem faults_reordered {cluster : List ClusterPool} {service : List String}
    (hcluster : cluster.Perm spec.clusterNetwork) (hservice : service.Perm spec.serviceNetwork) :
    faults { spec with clusterNetwork := cluster, serviceNetwork := service } = spec.faults := by
  have hclusterCoverage : Coverage.ofPools (cluster.map (·.cidr)) = spec.clusterCoverage :=
    Coverage.ofPools_perm (hcluster.map _)
  have hserviceCoverage : Coverage.ofPools service = spec.serviceCoverage :=
    Coverage.ofPools_perm hservice
  unfold faults poolFaults
  dsimp only [clusterCoverage, serviceCoverage] at hclusterCoverage hserviceCoverage ⊢
  rw [hclusterCoverage, hserviceCoverage, hservice.length_eq]
  rfl

/-- A spec is accepted exactly if it is coherent. Then the count of its service pools makes it
dual-stack exactly if both lists of pools cover both families. And the order of the pools makes no
difference. -/
theorem coherence (spec : NetworkSpec) :
    (spec.faults = [] ↔ spec.Coherent) ∧
      (spec.faults = [] →
        (Family.ofPoolCount spec.serviceNetwork.length = .dualStack ↔
          (∀ family, spec.ClusterCovers family) ∧ ∀ family, spec.ServiceCovers family)) ∧
      ∀ (cluster : List ClusterPool) (service : List String),
        cluster.Perm spec.clusterNetwork → service.Perm spec.serviceNetwork →
          faults { spec with clusterNetwork := cluster, serviceNetwork := service } =
            spec.faults :=
  ⟨faults_eq_nil_iff, fun h => (faults_eq_nil_iff.mp h).dualStack_iff,
    fun _ _ hcluster hservice => faults_reordered hcluster hservice⟩

/-- A dual-stack network whose pools are listed in different orders, with the smallest numbers. -/
def dualStackPools : NetworkSpec where
  clusterNetwork := [⟨"10.128.0.0/14", 23⟩, ⟨"fd01::/48", 64⟩, ⟨"10.132.0.0", 23⟩]
  serviceNetwork := ["::ffff:172.30.0.0/112", "172.30.0.0/16"]
  defaultNetwork := { overlay := some { mtu := some 576, genevePort := some 1 } }

/-- It is accepted, in this order and with its service pools the other way round. -/
theorem coherence_dualStackPools :
    dualStackPools.Coherent ∧ (∀ family, dualStackPools.ServiceCovers family) ∧
      faults { dualStackPools with
        serviceNetwork := ["172.30.0.0/16", "::ffff:172.30.0.0/112"] } = [] := by
  obtain ⟨haccepted, hfamily, horder⟩ := coherence dualStackPools
  have hnone : dualStackPools.faults = [] := by decide +kernel
  refine ⟨haccepted.mp hnone, ((hfamily hnone).mp (by decide)).2, ?_⟩
  exact (horder _ _ (.refl _) (.swap _ _ [])).trans hnone

end NetworkSpec

end NetworkRollout
