import NetworkPlan.Proofs.Routing.Stages

/-!
# Failures of the route plan

There are four of them.  The next hop is the only text that the route plan reads as an address, and
the only one that it can find fault with.
-/

namespace NetworkPlan
namespace Directory

/-- Why there is no route plan; a failure is named only where none of those before it occurs. -/
inductive RouteFailure (d : Directory) (doc : RoutingDocument) (egress : Option String) :
    ResolutionError -> Prop where
  | noFirewall : d.isAllocated doc.firewallAlias = false ->
      RouteFailure d doc egress (.noFirewall doc.firewallAlias)
  | noIngress : d.isAllocated doc.firewallAlias = true ->
      d.isAllocated doc.ingressAlias = false ->
      RouteFailure d doc egress (.noIngress doc.ingressAlias)
  | badNextHop {text : String} : d.isAllocated doc.firewallAlias = true ->
      d.isAllocated doc.ingressAlias = true ->
      egress.bind Text.nonBlank? = some text -> (Address.parse text).isOk = false ->
      RouteFailure d doc egress (.badNextHop text)
  | noInboundTarget : d.isAllocated doc.firewallAlias = true ->
      d.isAllocated doc.ingressAlias = true -> HopReadable egress ->
      (forall aliasName, aliasName ∈ doc.inboundTargets -> d.isAllocated aliasName = false) ->
      RouteFailure d doc egress .noInboundTarget

variable {d : Directory} {doc : RoutingDocument} {egress : Option String} {e : ResolutionError}

theorem routeFailure_of_routePlan (h : d.routePlan doc egress = .error e) :
    d.RouteFailure doc egress e := by
  rcases bind_eq_error.mp h with hfirewall | ⟨firewall, hfirewall, h⟩
  · rcases firewallAddress_eq_error_iff.mp hfirewall with ⟨hfree, rfl⟩
    exact .noFirewall hfree
  have hallocated := exists_firewallAddress_iff.mp ⟨firewall, hfirewall⟩
  cases hingress : d.isAllocated doc.ingressAlias with
  | false =>
      simp only [hingress, Bool.not_false, if_true] at h
      rcases bind_eq_error.mp h with hthrow | ⟨_, hthrow, _⟩
      · cases hthrow
        exact .noIngress hallocated hingress
      · cases hthrow
  | true =>
      simp only [hingress, Bool.not_true, Bool.false_eq_true, if_false] at h
      rcases bind_eq_error.mp h with hhop | ⟨nextHop, hhop, h⟩
      · rcases egressHop_eq_error_iff.mp hhop with ⟨text, hgiven, hunread, rfl⟩
        exact .badNextHop hallocated hingress hgiven hunread
      by_cases htargets : (doc.inboundTargets.filter d.isAllocated).isEmpty = true
      · simp only [htargets, if_true] at h
        rcases bind_eq_error.mp h with hthrow | ⟨_, hthrow, _⟩
        · cases hthrow
          exact .noInboundTarget hallocated hingress (exists_egressHop_iff.mp ⟨nextHop, hhop⟩)
            (filter_isAllocated_eq_nil_iff.mp (List.isEmpty_iff.mp htargets))
        · cases hthrow
      · -- All that are left have a block, so the routes to them do not fail.
        simp only [htargets] at h
        rcases exists_inboundRoutes (fun _ hmem => (List.mem_filter.mp hmem).right) with
          ⟨routes, hroutes⟩
        rcases bind_eq_error.mp h with hfailed | ⟨_, _, hpure⟩
        · rw [hroutes] at hfailed
          cases hfailed
        · exact absurd hpure pure_ne_error

theorem routePlan_eq_error_iff :
    d.routePlan doc egress = .error e ↔ d.RouteFailure doc egress e := by
  constructor
  · exact routeFailure_of_routePlan
  · intro h
    cases h with
    | noFirewall hfree =>
        have hfirewall := firewallAddress_eq_error_iff.mpr ⟨hfree, rfl⟩
        rw [routePlan, hfirewall]
        rfl
    | noIngress hallocated hfree =>
        rcases exists_firewallAddress_iff.mpr hallocated with ⟨firewall, hfirewall⟩
        rw [routePlan, hfirewall, hfree]
        rfl
    | badNextHop hallocated hingress hgiven hunread =>
        rcases exists_firewallAddress_iff.mpr hallocated with ⟨firewall, hfirewall⟩
        have hhop := (@egressHop_eq_error_iff _ egress firewall).mpr ⟨_, hgiven, hunread, rfl⟩
        rw [routePlan, hfirewall, hingress]
        simp only [bind, Except.bind, hhop, Bool.not_true, Bool.false_eq_true, if_false]
    | noInboundTarget hallocated hingress hreadable hfree =>
        have htargets := filter_isAllocated_eq_nil_iff.mpr hfree
        rcases exists_firewallAddress_iff.mpr hallocated with ⟨firewall, hfirewall⟩
        rcases (@exists_egressHop_iff egress firewall).mpr hreadable with ⟨hop, hhop⟩
        rw [routePlan, hfirewall, hingress, htargets]
        simp only [bind, Except.bind, hhop, Bool.not_true, Bool.false_eq_true, if_false]
        rfl

/-- A route plan refuses its next hop only if that is not the text of an address. -/
theorem routePlan_eq_badNextHop {text : String}
    (h : d.routePlan doc egress = .error (.badNextHop text)) :
    egress.bind Text.nonBlank? = some text ∧ (Address.parse text).isOk = false := by
  cases routePlan_eq_error_iff.mp h with
  | badNextHop _ _ hgiven hunread =>
      exact ⟨hgiven, hunread⟩

end Directory
end NetworkPlan
