import NetworkPlan.Proofs.Routing.Failure

/-!
# The route plan

The documents and the directory settle whether there is a route plan and what it says: the firewall
stands at the first usable address of its subnet, inbound traffic goes to it in any case, and
outbound traffic goes to it unless another address is set.
-/

namespace NetworkPlan
namespace Directory

theorem routePlan_eq_ok_iff {d : Directory} {doc : RoutingDocument} {egress : Option String}
    {p : RoutePlan} :
    d.routePlan doc egress = .ok p ↔
      d.firewallAddress doc.firewallAlias = .ok p.firewallAddress ∧
      d.isAllocated doc.ingressAlias = true ∧
      doc.inboundTargets.filter d.isAllocated ≠ [] ∧
      exists nextHop routes,
        egressHop egress p.firewallAddress = .ok nextHop ∧
        d.inboundRoutes p.firewallAddress (doc.inboundTargets.filter d.isAllocated) = .ok routes ∧
        p.tables = [
          ⟨ingressTable, routes, [doc.ingressAlias]⟩,
          ⟨egressTable, [⟨doc.outboundRouteName, doc.outboundPrefix.toText, applianceHop, nextHop⟩],
            doc.outboundAliases.filter d.isAllocated⟩] := by
  cases hingress : d.isAllocated doc.ingressAlias with
  | false =>
      simp [routePlan, hingress, bind_eq_ok, throw_ne_ok]
  | true =>
      by_cases htargets : doc.inboundTargets.filter d.isAllocated = []
      · simp [routePlan, hingress, htargets, bind_eq_ok, throw_ne_ok]
      · simp only [routePlan, hingress, htargets, bind_eq_ok, pure_eq_ok, Bool.not_true,
          Bool.false_eq_true, if_false, List.isEmpty_iff, ne_eq, not_false_eq_true, true_and]
        constructor
        · intro h
          rcases h with ⟨firewall, hfirewall, nextHop, hhop, routes, hroutes, rfl⟩
          exact ⟨hfirewall, nextHop, routes, hhop, hroutes, rfl⟩
        · intro h
          rcases h with ⟨hfirewall, nextHop, routes, hhop, hroutes, htables⟩
          refine ⟨p.firewallAddress, hfirewall, nextHop, hhop, routes, hroutes, ?_⟩
          rw [← htables]

/-- What a route plan says: the firewall stands at the first usable address of its subnet, inbound
traffic goes to the firewall, outbound traffic to the next hop. -/
structure Routed (d : Directory) (doc : RoutingDocument) (egress : Option String)
    (p : RoutePlan) : Prop where
  firewall : exists block, d.blockOf doc.firewallAlias = some block ∧
    block.host? 0 = some p.firewallAddress ∧ p.firewallAddress ∈ block ∧
    p.firewallAddress.value = block.low + block.reserved
  tables : exists routes nextHop,
    List.Forall₂ (d.RouteTo p.firewallAddress) (doc.inboundTargets.filter d.isAllocated) routes ∧
    NextHop egress p.firewallAddress nextHop ∧
    p.tables = [
      ⟨ingressTable, routes, [doc.ingressAlias]⟩,
      ⟨egressTable, [⟨doc.outboundRouteName, doc.outboundPrefix.toText, applianceHop, nextHop⟩],
        doc.outboundAliases.filter d.isAllocated⟩]

theorem routed_of_routePlan {d : Directory} {doc : RoutingDocument} {egress : Option String}
    {p : RoutePlan} (h : d.routePlan doc egress = .ok p) : d.Routed doc egress p := by
  rcases routePlan_eq_ok_iff.mp h with
    ⟨hfirewall, _, _, nextHop, routes, hhop, hroutes, htables⟩
  rcases firewallAddress_eq_ok_iff.mp hfirewall with ⟨block, hblock, hhost⟩
  have hvalue := (Block.host?_eq_some_iff.mp hhost).right
  exact {
    firewall := ⟨block, hblock, hhost, Block.mem_of_host? hhost, hvalue⟩
    tables := ⟨routes, nextHop, inboundRoutes_eq_ok_iff.mp hroutes, egressHop_eq_ok_iff.mp hhop,
      htables⟩ }

theorem exists_routePlan_iff {d : Directory} {doc : RoutingDocument} {egress : Option String} :
    (exists p, d.routePlan doc egress = .ok p) ↔
      d.isAllocated doc.firewallAlias = true ∧ d.isAllocated doc.ingressAlias = true ∧
      (exists aliasName, aliasName ∈ doc.inboundTargets ∧ d.isAllocated aliasName = true) ∧
      HopReadable egress := by
  constructor
  · intro h
    rcases h with ⟨p, h⟩
    rcases routePlan_eq_ok_iff.mp h with ⟨hfirewall, hingress, htargets, nextHop, _, hhop, _⟩
    rcases List.exists_mem_of_ne_nil _ htargets with ⟨aliasName, hmem⟩
    exact ⟨exists_firewallAddress_iff.mp ⟨_, hfirewall⟩, hingress,
      ⟨aliasName, List.mem_filter.mp hmem⟩, exists_egressHop_iff.mp ⟨nextHop, hhop⟩⟩
  · intro h
    rcases h with ⟨hfirewall, hingress, ⟨aliasName, hmem, htarget⟩, hreadable⟩
    cases hplan : d.routePlan doc egress with
    | ok p =>
        exact ⟨p, rfl⟩
    | error e =>
        -- None of the failures occurs here.
        cases routePlan_eq_error_iff.mp hplan with
        | noFirewall hfree =>
            rw [hfirewall] at hfree
            cases hfree
        | noIngress _ hfree =>
            rw [hingress] at hfree
            cases hfree
        | badNextHop _ _ hgiven hunread =>
            rcases (@exists_egressHop_iff egress (.ofNat 0)).mpr hreadable with ⟨hop, hhop⟩
            rw [egressHop_eq_error_iff.mpr ⟨_, hgiven, hunread, rfl⟩] at hhop
            cases hhop
        | noInboundTarget _ _ _ hfree =>
            rw [hfree aliasName hmem] at htarget
            cases htarget

end Directory

/-- There is a route plan exactly if the firewall, the subnet that faces outward and some target of
inbound traffic have their blocks and no next hop is set that cannot be read; everything else fails
for one of four reasons, which never include a firewall subnet or a target without an address. -/
theorem routePlan_described (d : Directory) (doc : RoutingDocument) (egress : Option String) :
    ((exists p, d.routePlan doc egress = .ok p) ↔
      d.isAllocated doc.firewallAlias = true ∧ d.isAllocated doc.ingressAlias = true ∧
      (exists aliasName, aliasName ∈ doc.inboundTargets ∧ d.isAllocated aliasName = true) ∧
      HopReadable egress) ∧
    (forall e, (d.routePlan doc egress).mapError PlanError.resolution = .error e ↔
      exists r, d.RouteFailure doc egress r ∧ PlanError.resolution r = e) ∧
    (forall block, d.routePlan doc egress ≠ .error (.noFirewallHost block)) ∧
    (forall aliasName, d.routePlan doc egress ≠ .error (.noInboundBlock aliasName)) ∧
    (forall p, d.routePlan doc egress = .ok p -> d.Routed doc egress p) := by
  refine ⟨Directory.exists_routePlan_iff, ?_, ?_, ?_, fun p => Directory.routed_of_routePlan⟩
  · intro e
    simp only [mapError_eq_error, Directory.routePlan_eq_error_iff]
  · intro block h
    cases Directory.routePlan_eq_error_iff.mp h
  · intro aliasName h
    cases Directory.routePlan_eq_error_iff.mp h

end NetworkPlan
