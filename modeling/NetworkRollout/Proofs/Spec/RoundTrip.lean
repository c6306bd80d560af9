import NetworkRollout.Spec.Json
import NetworkRollout.Proofs.Json.Record

/-!
# A recorded spec reads back

Each record of a spec is read back from its JSON form, absent options included, and the form holds
only what its text denotes. So the text that is recorded of a spec gives the spec back.

* `NetworkSpec.ofJson?_toJson`: the JSON form of a spec reads back.
* `NetworkSpec.ofText?_toText`: so does its text.
-/

namespace NetworkRollout

open Json Json.Fields

namespace ClusterPool

@[simp] theorem exact_toJson (p : ClusterPool) : p.toJson.Exact := by
  unfold toJson
  simp

theorem ofJson?_toJson (p : ClusterPool) : ofJson? p.toJson = some p := by
  refine bind_fields? (by simp) (by simp) ?_
  refine bind_required (a := p.cidr) (by simp) (text?_text _) ?_
  refine bind_withDefault (a := p.hostPrefix) (by simp) (u32?_ofU32 _) ?_
  rfl

end ClusterPool

namespace HybridOverlay

@[simp] theorem exact_toJson (h : HybridOverlay) : h.toJson.Exact := by
  unfold toJson
  simp [exact_ofList ClusterPool.exact_toJson]

theorem ofJson?_toJson (h : HybridOverlay) : ofJson? h.toJson = some h := by
  refine bind_fields? (by simp) (by simp) ?_
  refine bind_withDefault (a := h.pools) (by simp) (listOf?_ofList ClusterPool.ofJson?_toJson _) ?_
  refine bind_optional (a := h.vxlanPort) (by simp) u32?_ofU32 rfl ?_
  rfl

end HybridOverlay

namespace Ipsec

@[simp] theorem exact_toJson (i : Ipsec) : i.toJson.Exact := by
  unfold toJson
  simp

theorem ofJson?_toJson (i : Ipsec) : ofJson? i.toJson = some i := by
  unfold ofJson? toJson
  rw [fields?_objectOf (by simp) (by simp)]
  rfl

end Ipsec

namespace Gateway

@[simp] theorem exact_toJson (g : Gateway) : g.toJson.Exact := by
  unfold toJson
  simp

theorem ofJson?_toJson (g : Gateway) : ofJson? g.toJson = some g := by
  refine bind_fields? (by simp) (by simp) ?_
  refine bind_withDefault (a := g.routingViaHost) (by simp) (bool?_bool _) ?_
  rfl

end Gateway

namespace PolicyAudit

@[simp] theorem exact_toJson (a : PolicyAudit) : a.toJson.Exact := by
  unfold toJson
  simp

theorem ofJson?_toJson (a : PolicyAudit) : ofJson? a.toJson = some a := by
  refine bind_fields? (by simp) (by simp) ?_
  refine bind_optional (a := a.rateLimit) (by simp) u32?_ofU32 rfl ?_
  refine bind_optional (a := a.maxFileSize) (by simp) u32?_ofU32 rfl ?_
  refine bind_withDefault (a := a.destination) (by simp) (text?_text _) ?_
  refine bind_withDefault (a := a.syslogFacility) (by simp) (text?_text _) ?_
  rfl

end PolicyAudit

namespace Overlay

@[simp] theorem exact_toJson (o : Overlay) : o.toJson.Exact := by
  unfold toJson
  simp

theorem ofJson?_toJson (o : Overlay) : ofJson? o.toJson = some o := by
  refine bind_fields? (by simp) (by simp) ?_
  refine bind_optional (a := o.mtu) (by simp) u32?_ofU32 rfl ?_
  refine bind_optional (a := o.genevePort) (by simp) u32?_ofU32 rfl ?_
  refine bind_optional (a := o.hybridOverlay) (by simp) HybridOverlay.ofJson?_toJson rfl ?_
  refine bind_optional (a := o.ipsec) (by simp) Ipsec.ofJson?_toJson rfl ?_
  refine bind_optional (a := o.gateway) (by simp) Gateway.ofJson?_toJson rfl ?_
  refine bind_optional (a := o.policyAudit) (by simp) PolicyAudit.ofJson?_toJson rfl ?_
  rfl

end Overlay

namespace DefaultNetwork

@[simp] theorem exact_toJson (d : DefaultNetwork) : d.toJson.Exact := by
  unfold toJson
  simp

theorem ofJson?_toJson (d : DefaultNetwork) : ofJson? d.toJson = some d := by
  refine bind_fields? (by simp) (by simp) ?_
  refine bind_withDefault (a := d.type) (by simp) (text?_text _) ?_
  refine bind_optional (a := d.overlay) (by simp) Overlay.ofJson?_toJson rfl ?_
  rfl

end DefaultNetwork

namespace MtuRange

@[simp] theorem exact_toJson (r : MtuRange) : r.toJson.Exact := by
  unfold toJson
  simp

theorem ofJson?_toJson (r : MtuRange) : ofJson? r.toJson = some r := by
  refine bind_fields? (by simp) (by simp) ?_
  refine bind_optional (a := r.oldMtu) (by simp) u32?_ofU32 rfl ?_
  refine bind_optional (a := r.newMtu) (by simp) u32?_ofU32 rfl ?_
  rfl

end MtuRange

namespace MtuMigration

@[simp] theorem exact_toJson (m : MtuMigration) : m.toJson.Exact := by
  unfold toJson
  simp

theorem ofJson?_toJson (m : MtuMigration) : ofJson? m.toJson = some m := by
  refine bind_fields? (by simp) (by simp) ?_
  refine bind_optional (a := m.network) (by simp) MtuRange.ofJson?_toJson rfl ?_
  refine bind_optional (a := m.machine) (by simp) MtuRange.ofJson?_toJson rfl ?_
  rfl

end MtuMigration

namespace Migration

@[simp] theorem exact_toJson (m : Migration) : m.toJson.Exact := by
  unfold toJson
  simp

theorem ofJson?_toJson (m : Migration) : ofJson? m.toJson = some m := by
  refine bind_fields? (by simp) (by simp) ?_
  refine bind_optional (a := m.mtu) (by simp) MtuMigration.ofJson?_toJson rfl ?_
  rfl

end Migration

namespace Collectors

@[simp] theorem exact_toJson (c : Collectors) : c.toJson.Exact := by
  unfold toJson
  simp [exact_ofList Exact.text]

theorem ofJson?_toJson (c : Collectors) : ofJson? c.toJson = some c := by
  refine bind_fields? (by simp) (by simp) ?_
  refine bind_withDefault (a := c.endpoints) (by simp) (listOf?_ofList text?_text _) ?_
  rfl

end Collectors

namespace FlowExport

@[simp] theorem exact_toJson (f : FlowExport) : f.toJson.Exact := by
  unfold toJson
  simp

theorem ofJson?_toJson (f : FlowExport) : ofJson? f.toJson = some f := by
  refine bind_fields? (by simp) (by simp) ?_
  refine bind_optional (a := f.netFlow) (by simp) Collectors.ofJson?_toJson rfl ?_
  refine bind_optional (a := f.sFlow) (by simp) Collectors.ofJson?_toJson rfl ?_
  refine bind_optional (a := f.ipfix) (by simp) Collectors.ofJson?_toJson rfl ?_
  rfl

end FlowExport

namespace NetworkSpec

@[simp] theorem exact_toJson (s : NetworkSpec) : s.toJson.Exact := by
  unfold toJson
  simp [exact_ofList ClusterPool.exact_toJson, exact_ofList Exact.text]

theorem ofJson?_toJson (s : NetworkSpec) : ofJson? s.toJson = some s := by
  refine bind_fields? (by simp) (by simp) ?_
  refine bind_withDefault (a := s.clusterNetwork) (by simp)
    (listOf?_ofList ClusterPool.ofJson?_toJson _) ?_
  refine bind_withDefault (a := s.serviceNetwork) (by simp) (listOf?_ofList text?_text _) ?_
  refine bind_withDefault (a := s.defaultNetwork) (by simp) (DefaultNetwork.ofJson?_toJson _) ?_
  refine bind_optional (a := s.migration) (by simp) Migration.ofJson?_toJson rfl ?_
  refine bind_optional (a := s.flowExport) (by simp) FlowExport.ofJson?_toJson rfl ?_
  rfl

/-- The text that is recorded of a spec gives the spec back. -/
theorem ofText?_toText (s : NetworkSpec) : ofText? s.toText = some s := by
  unfold ofText? toText
  rw [ofString?_render s.exact_toJson, Option.bind_some, ofJson?_toJson]

theorem toText_injective : Function.Injective toText := by
  intro s t hsame
  have hread := ofText?_toText t
  rw [← hsame, ofText?_toText] at hread
  exact Option.some.inj hread

end NetworkSpec

end NetworkRollout
