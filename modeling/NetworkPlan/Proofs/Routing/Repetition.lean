import Mathlib.Data.List.Count
import NetworkPlan.Proofs.Routing.Plan

/-!
# Subnets that are listed twice

A document may list a subnet more than once.  The route plan keeps what is listed, so every listing
of a protected subnet makes a route of its own under the same name, and every listing for outbound
traffic makes a member.
-/

namespace NetworkPlan

theorem inboundRouteName_injective : Function.Injective inboundRouteName := by
  intro a b h
  have hsame : toString a = toString b := by
    simpa [inboundRouteName] using h
  exact hsame

namespace Directory

variable {d : Directory}

/-- No subnet that has its block is listed twice. -/
def ListedOnce (d : Directory) (aliases : List String) : Prop :=
  forall aliasName, d.isAllocated aliasName = true -> aliases.count aliasName ≤ 1

theorem nodup_filter_isAllocated_iff {aliases : List String} :
    (aliases.filter d.isAllocated).Nodup ↔ d.ListedOnce aliases := by
  rw [List.nodup_iff_count_le_one]
  apply forall_congr'
  intro aliasName
  cases hallocated : d.isAllocated aliasName with
  | false =>
      have hfree : aliasName ∉ aliases.filter d.isAllocated := by
        intro hmem
        rw [(List.mem_filter.mp hmem).right] at hallocated
        cases hallocated
      simp [List.count_eq_zero_of_not_mem hfree]
  | true =>
      rw [List.count_filter hallocated, forall_prop_of_true rfl]

theorem names_of_routeTo {firewall : Address} {aliases : List String} {routes : List Route}
    (h : List.Forall₂ (d.RouteTo firewall) aliases routes) :
    routes.map (·.name) = aliases.map inboundRouteName := by
  symm
  apply map_eq_map_of_forall₂ h
  intro aliasName _ route hroute
  rcases hroute with ⟨_, _, rfl⟩
  rfl

end Directory

/-- Two routes of one table have the same name, or a table lists a subnet twice, exactly if the
document lists a subnet twice: a protected subnet has as many routes as it has listings. -/
theorem routes_repeat_as_listed {d : Directory} {doc : RoutingDocument} {egress : Option String}
    {p : RoutePlan} (h : d.routePlan doc egress = .ok p) :
    ((forall t, t ∈ p.tables -> (t.routes.map (·.name)).Nodup) ↔
      d.ListedOnce doc.inboundTargets) ∧
    ((forall t, t ∈ p.tables -> t.members.Nodup) ↔ d.ListedOnce doc.outboundAliases) ∧
    (forall t, t ∈ p.tables -> t.name = ingressTable -> forall aliasName,
      d.isAllocated aliasName = true ->
        (t.routes.map (·.name)).count (inboundRouteName aliasName) =
          doc.inboundTargets.count aliasName) := by
  rcases (Directory.routed_of_routePlan h).tables with ⟨routes, nextHop, hroutes, _, htables⟩
  have hnames := Directory.names_of_routeTo hroutes
  rw [htables]
  simp only [List.forall_mem_cons, List.not_mem_nil, false_implies, implies_true, and_true]
  refine ⟨?_, ?_, ?_, ?_⟩
  · rw [hnames, List.nodup_map_iff inboundRouteName_injective,
      Directory.nodup_filter_isAllocated_iff]
    exact and_iff_left (List.nodup_singleton doc.outboundRouteName)
  · rw [Directory.nodup_filter_isAllocated_iff, and_iff_right (List.nodup_singleton _)]
  · intro _ aliasName hallocated
    rw [hnames, List.count_map_of_injective _ _ inboundRouteName_injective,
      List.count_filter hallocated]
  · intro hother
    exact absurd hother (by decide)

namespace Directory

def ofThree : Directory :=
  ofSubnets
    [⟨"snet-user", "usernode", 24, none⟩, ⟨"snet-agic", "agic", 24, none⟩,
      ⟨"snet-firewall", "firewall", 26, none⟩]
    [⟨"snet-user", "usernode", Block.ofNetwork 0x0A000000 24⟩,
      ⟨"snet-agic", "agic", Block.ofNetwork 0x0A000100 24⟩,
      ⟨"snet-firewall", "firewall", Block.ofNetwork 0x0A000200 26⟩]

/-- The plan that sends traffic into the listed subnets, and out of them, to the firewall. -/
def planOfThree (inbound : List Route) (outbound : List String) : RoutePlan :=
  ⟨.ofNat 0x0A000201, [
    ⟨ingressTable, inbound, ["agic"]⟩,
    ⟨egressTable, [⟨"udr-internet-outbound", "0.0.0.0/0", applianceHop, .ofNat 0x0A000201⟩],
      outbound⟩]⟩

/-- The route to the first of the three subnets. -/
def routeOfThree : Route :=
  ⟨"udr-usernode-inbound", "10.0.0.0/24", applianceHop, .ofNat 0x0A000201⟩

end Directory

/-- Every subnet is listed once. -/
theorem routes_repeat_as_listed_once :
    let doc : RoutingDocument := { RoutingDocument.default with outboundAliases := ["usernode"] }
    let p : RoutePlan := Directory.planOfThree [Directory.routeOfThree] ["usernode"]
    Directory.ofThree.routePlan doc none = .ok p ∧
      (forall t, t ∈ p.tables -> t.members.Nodup) ∧
      forall t, t ∈ p.tables -> t.name = ingressTable ->
        (t.routes.map (·.name)).count (inboundRouteName "usernode") = 1 := by
  intro doc p
  have hplan : Directory.ofThree.routePlan doc none = .ok p := by
    decide
  have honce : Directory.ofThree.ListedOnce doc.outboundAliases := by
    intro aliasName _
    exact List.nodup_iff_count_le_one.mp (List.nodup_singleton "usernode") aliasName
  rcases routes_repeat_as_listed hplan with ⟨_, hmembers, hcount⟩
  exact ⟨hplan, hmembers.mpr honce,
    fun t ht hname => hcount t ht hname "usernode" rfl⟩

/-- A subnet that is listed twice gets two routes of one name, and stands in a table twice. -/
theorem routes_repeat_if_listed_twice :
    let doc : RoutingDocument :=
      { RoutingDocument.default with
        inboundTargets := ["usernode", "usernode"]
        outboundAliases := ["usernode", "usernode"] }
    let p : RoutePlan := Directory.planOfThree [Directory.routeOfThree, Directory.routeOfThree]
      ["usernode", "usernode"]
    Directory.ofThree.routePlan doc none = .ok p ∧
      (p.tables.map fun t => (t.routes.map (·.name))) =
        [["udr-usernode-inbound", "udr-usernode-inbound"], ["udr-internet-outbound"]] ∧
      ¬ (forall t, t ∈ p.tables -> (t.routes.map (·.name)).Nodup) ∧
      ¬ (forall t, t ∈ p.tables -> t.members.Nodup) := by
  decide

end NetworkPlan
