import NetworkPlan.Document.Subnets
import NetworkPlan.Proofs.Decoder.Acceptance
import NetworkPlan.Proofs.Text.Trim

/-!
# What the subnet document is read from

The members that a description takes its identifiers and its size from.  The token has two names;
an object that uses both is refused, so it does not matter which of them is asked for.
-/

namespace NetworkPlan
namespace SubnetDescription

theorem record_unambiguous : record.Unambiguous := by
  decide

theorem field_name : record.Field ["name"] .string (·.name) := by
  refine Record.Field.of_members [] [_, _, _] rfl rfl ?_ rfl (fun _ _ => rfl) ?_ fun _ _ _ => rfl
  · exact List.forall_mem_singleton.mpr rfl
  · simp

theorem field_aliasName : record.Field ["alias"] (.option .string) (·.aliasName) := by
  refine Record.Field.of_members [_] [_, _] rfl rfl ?_ rfl (fun _ _ => rfl) ?_ fun _ _ _ => rfl
  · exact List.forall_mem_singleton.mpr rfl
  · simp

theorem field_legacyToken :
    record.Field ["nsg-rule", "legacyToken"] (.option .string) (·.legacyToken) := by
  refine Record.Field.of_members [_, _] [_] rfl rfl ?_ rfl (fun _ _ => rfl) ?_ fun _ _ _ => rfl
  · simp only [List.forall_mem_cons, List.not_mem_nil, false_imp_iff, implies_true, and_true]
    exact And.intro rfl rfl
  · simp

theorem field_prefixLength : record.Field ["prefixLength"] .byte (·.prefixLength) := by
  refine Record.Field.of_members [_, _, _] [] rfl rfl ?_ rfl (fun _ _ => rfl) ?_ fun _ _ _ => rfl
  · exact List.forall_mem_singleton.mpr rfl
  · simp

end SubnetDescription

namespace SubnetDocument

theorem record_unambiguous : record.Unambiguous := by
  decide

theorem field_descriptions :
    record.Field ["subnetDefinitions"] (.list SubnetDescription.record.decode)
      (·.descriptions) := by
  refine Record.Field.of_members [_, _] [] rfl rfl ?_ rfl (fun _ _ => rfl) ?_ trivial
  · exact List.forall_mem_singleton.mpr rfl
  · simp

end SubnetDocument
end NetworkPlan
