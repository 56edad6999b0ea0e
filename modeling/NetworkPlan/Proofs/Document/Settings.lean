import NetworkPlan.Document.Settings
import NetworkPlan.Proofs.Decoder.Acceptance
import NetworkPlan.Proofs.Text.Trim

/-!
# What the common settings are read from

The members of the common document that decide where the network lies and where its outbound
traffic goes.  No name means two of its members, and the settings depend on nothing else.
-/

namespace NetworkPlan

/-!
## The virtual network
-/

namespace VirtualNetwork

theorem record_unambiguous : record.Unambiguous := by
  decide

theorem field_addressPrefixes :
    record.Field ["vnetAddressPrefixes"] (.list .block) (·.addressPrefixes) := by
  refine Record.Field.of_members [] [_, _, _, _, _, _] rfl rfl ?_ rfl (fun _ _ => rfl) ?_ trivial
  · exact List.forall_mem_singleton.mpr rfl
  · simp

theorem field_sharedBastionIp :
    record.Field ["sharedBastionIp"] .string (·.sharedBastionIp) := by
  refine Record.Field.of_members [_, _] [_, _, _, _] rfl rfl ?_ rfl (fun _ _ => rfl) ?_ trivial
  · exact List.forall_mem_singleton.mpr rfl
  · simp

theorem field_egressNextHopIp :
    record.Field ["egressNextHopIp"] .string (·.egressNextHopIp) := by
  refine Record.Field.of_members [_, _, _] [_, _, _] rfl rfl ?_ rfl (fun _ _ => rfl) ?_ trivial
  · exact List.forall_mem_singleton.mpr rfl
  · simp

end VirtualNetwork

theorem Deployment.record_unambiguous : Deployment.record.Unambiguous := by
  decide

namespace Settings

theorem record_unambiguous : record.Unambiguous := by
  decide

theorem field_deployment : record.Field ["common"] Deployment.record.decode (·.deployment) := by
  refine Record.Field.of_members [] [_, _] rfl rfl ?_ rfl (fun _ _ => rfl) ?_ trivial
  · exact List.forall_mem_singleton.mpr rfl
  · simp

theorem field_network : record.Field ["network"] VirtualNetwork.record.decode (·.network) := by
  refine Record.Field.of_members [_] [_] rfl rfl ?_ rfl (fun _ _ => rfl) ?_ trivial
  · exact List.forall_mem_singleton.mpr rfl
  · simp

theorem field_resourceToggles :
    record.Field ["resourceToggles"] (.entries .bool) (·.resourceToggles) := by
  refine Record.Field.of_members [_, _] [] rfl rfl ?_ rfl (fun _ _ => rfl) ?_ trivial
  · exact List.forall_mem_singleton.mpr rfl
  · simp

/-- The members of the common document that the settings are read from. -/
def sections : List String := ["common", "network", "resourceToggles"]

/-- Objects with the same sections are read as the same settings. -/
theorem eq_of_reads {members others : List (String × Json)} {settings other : Settings}
    (h : record.decode.Reads (.object members) settings)
    (hother : record.decode.Reads (.object others) other)
    (hsame : forall key, key ∈ sections -> Entries.get? key members = Entries.get? key others) :
    settings = other := by
  have hdeployment := field_deployment.part_eq h hother fun key hkey =>
    hsame key (by simp [sections, List.mem_singleton.mp hkey])
  have hnetwork := field_network.part_eq h hother fun key hkey =>
    hsame key (by simp [sections, List.mem_singleton.mp hkey])
  have htoggles := field_resourceToggles.part_eq h hother fun key hkey =>
    hsame key (by simp [sections, List.mem_singleton.mp hkey])
  cases settings
  cases other
  rw [Settings.mk.injEq]
  exact ⟨hdeployment, hnetwork, htoggles⟩

end Settings
end NetworkPlan
