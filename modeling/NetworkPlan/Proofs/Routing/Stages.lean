import NetworkPlan.Proofs.Address.Hosts
import NetworkPlan.Proofs.Outcome
import NetworkPlan.Proofs.Subnet.Directory
import NetworkPlan.Routing.Plan

/-!
# The stages of the route plan

A route plan needs the address of the firewall, the next hop for outbound traffic, and a route for
every protected subnet.  These lemmas say what each stage gives and how it can fail.
-/

namespace NetworkPlan

def inboundRouteName (aliasName : String) : String :=
  s!"udr-{aliasName}-inbound"

/-- Outbound traffic goes to the address that is set, and to the firewall if none is. -/
inductive NextHop (egress : Option String) (firewall : Address) : Address -> Prop where
  | firewall : egress.bind Text.nonBlank? = none -> NextHop egress firewall firewall
  | override {text : String} {hop : Address} : egress.bind Text.nonBlank? = some text ->
      Address.parse text = .ok hop -> NextHop egress firewall hop

/-- No address is set, or one that can be read. -/
def HopReadable (egress : Option String) : Prop :=
  forall text, egress = some text ->
    Text.trim text = "" ∨ (Address.parse (Text.trim text)).isOk = true

namespace Directory

variable {d : Directory} {e : ResolutionError}

/-!
## The firewall
-/

theorem firewallAddress_eq_ok_iff {aliasName : String} {a : Address} :
    d.firewallAddress aliasName = .ok a ↔
      exists block, d.blockOf aliasName = some block ∧ block.host? 0 = some a := by
  unfold firewallAddress
  cases d.blockOf aliasName with
  | none =>
      simp
  | some block =>
      rcases block.exists_host?_zero with ⟨host, hhost⟩
      simp [hhost]

/-- A block always has an address for the firewall. -/
theorem firewallAddress_eq_error_iff {aliasName : String} :
    d.firewallAddress aliasName = .error e ↔
      d.isAllocated aliasName = false ∧ e = .noFirewall aliasName := by
  unfold firewallAddress isAllocated
  cases d.blockOf aliasName with
  | none =>
      simp [eq_comm]
  | some block =>
      rcases block.exists_host?_zero with ⟨host, hhost⟩
      simp [hhost]

theorem exists_firewallAddress_iff {aliasName : String} :
    (exists a, d.firewallAddress aliasName = .ok a) ↔ d.isAllocated aliasName = true := by
  rw [isAllocated_iff_blockOf]
  constructor
  · intro h
    rcases h with ⟨a, h⟩
    rcases firewallAddress_eq_ok_iff.mp h with ⟨block, hblock, _⟩
    exact ⟨block, hblock⟩
  · intro h
    rcases h with ⟨block, hblock⟩
    rcases block.exists_host?_zero with ⟨a, ha⟩
    exact ⟨a, firewallAddress_eq_ok_iff.mpr ⟨block, hblock, ha⟩⟩

/-!
## The next hop
-/

variable {egress : Option String} {firewall : Address}

theorem egressHop_eq_ok_iff {hop : Address} :
    egressHop egress firewall = .ok hop ↔ NextHop egress firewall hop := by
  unfold egressHop
  constructor
  · intro h
    split at h
    next hnone =>
      cases h
      exact .firewall hnone
    next text htext =>
      split at h
      next a hread =>
        cases h
        exact .override htext hread
      next => cases h
  · intro h
    cases h with
    | firewall hnone =>
        rw [hnone]
    | override htext hread =>
        rw [htext]
        simp only [hread]

theorem egressHop_eq_error_iff :
    egressHop egress firewall = .error e ↔
      exists text, egress.bind Text.nonBlank? = some text ∧
        (Address.parse text).isOk = false ∧ e = .badNextHop text := by
  unfold egressHop
  cases htext : egress.bind Text.nonBlank? with
  | none =>
      simp
  | some text =>
      cases hread : Address.parse text with
      | ok a =>
          simp [hread, Except.isOk, Except.toBool]
      | error fault =>
          simp only [hread]
          constructor
          · intro h
            cases h
            exact ⟨text, rfl, by rw [hread]; rfl, rfl⟩
          · intro h
            rcases h with ⟨_, hsame, _, rfl⟩
            cases hsame
            rfl

theorem exists_egressHop_iff :
    (exists hop, egressHop egress firewall = .ok hop) ↔ HopReadable egress := by
  constructor
  · intro h text htext
    rcases h with ⟨hop, h⟩
    subst htext
    cases egressHop_eq_ok_iff.mp h with
    | firewall hnone =>
        left
        by_contra hblank
        rw [Option.bind_some, Text.nonBlank?, if_neg hblank] at hnone
        cases hnone
    | override hgiven hread =>
        right
        rw [(Text.nonBlank?_eq_some_iff.mp hgiven).left, hread]
        rfl
  · intro h
    cases hhop : egressHop egress firewall with
    | ok hop =>
        exact ⟨hop, rfl⟩
    | error fault =>
        -- The text that was refused is neither blank nor the text of an address.
        rcases egressHop_eq_error_iff.mp hhop with ⟨text, hgiven, hunread, _⟩
        rcases Option.bind_eq_some_iff.mp hgiven with ⟨given, hegress, htext⟩
        rcases Text.nonBlank?_eq_some_iff.mp htext with ⟨htrim, hne⟩
        rcases h given hegress with hblank | hread
        · rw [htrim] at hblank
          exact absurd hblank hne
        · rw [htrim, hunread] at hread
          cases hread

/-!
## The routes to protected subnets
-/

theorem filter_isAllocated_eq_nil_iff {aliases : List String} :
    aliases.filter d.isAllocated = [] ↔
      forall aliasName, aliasName ∈ aliases -> d.isAllocated aliasName = false := by
  simp only [List.filter_eq_nil_iff, Bool.not_eq_true]

/-- The route sends what is meant for the subnet to the firewall. -/
def RouteTo (d : Directory) (firewall : Address) (aliasName : String) (route : Route) : Prop :=
  exists block, d.blockOf aliasName = some block ∧
    route = ⟨inboundRouteName aliasName, block.toText, applianceHop, firewall⟩

theorem inboundRoute_eq_ok_iff {aliasName : String} {route : Route} :
    d.inboundRoute firewall aliasName = .ok route ↔ d.RouteTo firewall aliasName route := by
  unfold inboundRoute RouteTo
  cases d.blockOf aliasName with
  | none =>
      simp
  | some block =>
      simp [inboundRouteName, eq_comm]

theorem inboundRoutes_eq_ok_iff {aliases : List String} {routes : List Route} :
    d.inboundRoutes firewall aliases = .ok routes ↔
      List.Forall₂ (d.RouteTo firewall) aliases routes := by
  induction aliases generalizing routes with
  | nil =>
      constructor
      · intro h
        cases h
        exact List.Forall₂.nil
      · intro h
        cases h
        rfl
  | cons aliasName rest ih =>
      simp only [inboundRoutes, bind_eq_ok, pure_eq_ok, inboundRoute_eq_ok_iff]
      constructor
      · intro h
        rcases h with ⟨route, hroute, others, hothers, rfl⟩
        exact List.Forall₂.cons hroute (ih.mp hothers)
      · intro h
        cases h with
        | @cons _ route _ others hroute hothers =>
            exact ⟨route, hroute, others, ih.mpr hothers, rfl⟩

theorem exists_inboundRoutes {aliases : List String}
    (h : forall aliasName, aliasName ∈ aliases -> d.isAllocated aliasName = true) :
    exists routes, d.inboundRoutes firewall aliases = .ok routes := by
  simp only [inboundRoutes_eq_ok_iff, exists_forall₂_iff]
  intro aliasName hmem
  rcases isAllocated_iff_blockOf.mp (h aliasName hmem) with ⟨block, hblock⟩
  exact ⟨_, block, hblock, rfl⟩

end Directory
end NetworkPlan
