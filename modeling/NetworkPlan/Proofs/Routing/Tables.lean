import NetworkPlan.Proofs.Plan
import NetworkPlan.Proofs.Routing.Plan

/-!
# Subnets and their route tables

A route plan has two tables.  The first lists the subnet that faces outward, the second the subnets
whose outbound traffic is routed, and the documents choose the two independently of each other.  An
attachment names the first table that lists its subnet.  So tables and attachments agree on every
subnet but one: the subnet that faces outward, if it is listed for outbound traffic as well, stands
in both tables and is attached to one.
-/

namespace NetworkPlan

/-!
## The tables that list a subnet
-/

namespace RoutePlan

/-- The tables that list a subnet, in order. -/
def tablesOf (p : RoutePlan) (aliasName : String) : List RouteTable :=
  p.tables.filter (·.members.contains aliasName)

theorem mem_tablesOf_iff {p : RoutePlan} {aliasName : String} {t : RouteTable} :
    t ∈ p.tablesOf aliasName ↔ t ∈ p.tables ∧ aliasName ∈ t.members := by
  rw [tablesOf, List.mem_filter, List.contains_iff_mem]

/-- The table that applies is the first one that lists the subnet. -/
theorem tableFor_eq (p : RoutePlan) (aliasName : String) :
    p.tableFor aliasName = (p.tablesOf aliasName).head?.map (·.name) := by
  rw [tableFor, tablesOf, List.head?_filter]

/-- Where the names of the tables differ, the table that applies to a subnet is the one that lists
it exactly if no other table lists it. -/
theorem tableFor_agrees_iff {p : RoutePlan} (hnames : (p.tables.map (·.name)).Nodup)
    (aliasName : String) :
    (forall t, t ∈ p.tables -> (p.tableFor aliasName = some t.name ↔ aliasName ∈ t.members)) ↔
      (p.tablesOf aliasName).length ≤ 1 := by
  have hlisted : forall t, t ∈ p.tables -> (aliasName ∈ t.members ↔ t ∈ p.tablesOf aliasName) := by
    intro t ht
    rw [mem_tablesOf_iff, and_iff_right ht]
  have hnodup : ((p.tablesOf aliasName).map (·.name)).Nodup :=
    hnames.sublist (List.filter_sublist.map _)
  have hinside : forall t, t ∈ p.tablesOf aliasName -> t ∈ p.tables :=
    fun t ht => (mem_tablesOf_iff.mp ht).left
  rw [tableFor_eq]
  rw [forall₂_congr fun t ht => by rw [hlisted t ht]]
  cases htables : p.tablesOf aliasName with
  | nil =>
      simp
  | cons first rest =>
      rw [htables] at hnodup hinside
      cases rest with
      | nil =>
          constructor
          · intro _
            exact Nat.le_refl 1
          · intro _ t ht
            rw [List.head?_cons, Option.map_some, Option.some.injEq, List.mem_singleton]
            constructor
            · intro hname
              have hfirst := hinside first List.mem_cons_self
              exact (List.inj_on_of_nodup_map hnames hfirst ht hname).symm
            · intro hsame
              rw [hsame]
      | cons second others =>
          -- The second table lists the subnet and does not apply to it.
          have hsecond : second ∈ first :: second :: others :=
            List.mem_cons_of_mem first List.mem_cons_self
          have hne : first.name ≠ second.name := by
            intro hname
            exact (List.nodup_cons.mp hnodup).left
              (List.mem_map.mpr ⟨second, List.mem_cons_self, hname.symm⟩)
          constructor
          · intro hagrees
            have hname := (hagrees second (hinside second hsecond)).mpr hsecond
            rw [List.head?_cons, Option.map_some, Option.some.injEq] at hname
            exact absurd hname hne
          · intro hlength
            simp at hlength

end RoutePlan

/-- An attachment names a table exactly if that table applies to its subnet. -/
theorem attachment_routeTable_eq_iff {settings : Settings} {groups : List SecurityGroup}
    {routes : RoutePlan} {s : Subnet} {table : String} :
    (attachment settings groups routes s).routeTable =
        settings.resourceName "rt" ++ "-" ++ table ↔
      routes.tableFor s.aliasName = some table := by
  unfold attachment
  cases htable : routes.tableFor s.aliasName with
  | none =>
      simp
  | some own =>
      simp

/-!
## The tables of a plan
-/

/-- The subnet faces outward and is listed for outbound traffic as well. -/
def RoutingDocument.ListsTwice (doc : RoutingDocument) (aliasName : String) : Prop :=
  aliasName = doc.ingressAlias ∧ aliasName ∈ doc.outboundAliases

namespace Plan

variable {inputs : Inputs} {plan : Plan}

/-- The attachment names a table exactly if the table lists the subnet. -/
def Agrees (plan : Plan) (x : Attachment) : Prop :=
  forall t, t ∈ plan.routes.tables ->
    (x.routeTable = plan.settings.resourceName "rt" ++ "-" ++ t.name ↔ x.aliasName ∈ t.members)

theorem MadeFrom.exists_tables (h : plan.MadeFrom inputs) :
    exists inbound outbound listed,
      plan.routes.tables = [⟨ingressTable, inbound, [plan.routing.ingressAlias]⟩,
        ⟨egressTable, outbound, listed⟩] ∧
      (plan.routing.ingressAlias ∈ listed ↔
        plan.routing.ingressAlias ∈ plan.routing.outboundAliases) := by
  rcases Directory.routePlan_eq_ok_iff.mp h.routes with
    ⟨_, hingress, _, nextHop, routes, _, _, htables⟩
  refine ⟨routes, _, _, htables, ?_⟩
  rw [List.mem_filter, and_iff_left hingress]

theorem MadeFrom.tableNames_nodup (h : plan.MadeFrom inputs) :
    (plan.routes.tables.map (·.name)).Nodup := by
  rcases h.exists_tables with ⟨inbound, outbound, listed, htables, _⟩
  rw [htables]
  show [ingressTable, egressTable].Nodup
  decide

theorem MadeFrom.length_tablesOf_le_one_iff (h : plan.MadeFrom inputs) (aliasName : String) :
    (plan.routes.tablesOf aliasName).length ≤ 1 ↔ ¬ plan.routing.ListsTwice aliasName := by
  rcases h.exists_tables with ⟨inbound, outbound, listed, htables, hlisted⟩
  rw [RoutePlan.tablesOf, htables, RoutingDocument.ListsTwice]
  by_cases hingress : aliasName = plan.routing.ingressAlias
  · rw [hingress, ← hlisted]
    by_cases hboth : plan.routing.ingressAlias ∈ listed <;> simp [hboth]
  · by_cases hegress : aliasName ∈ listed <;> simp [hingress, hegress]

end Plan

/-- A subnet stands in at most one route table, and its attachment names the tables that list it,
unless it is the subnet that faces outward and is listed for outbound traffic as well.  That one
stands in two tables, and its attachment does not say so. -/
theorem one_table_unless_listed_twice {inputs : Inputs} {plan : Plan}
    (h : compile inputs = .ok plan) :
    (forall aliasName, (plan.routes.tablesOf aliasName).length ≤ 1 ↔
      ¬ plan.routing.ListsTwice aliasName) ∧
    (forall x, x ∈ plan.attachments ->
      (plan.Agrees x ↔ ¬ plan.routing.ListsTwice x.aliasName)) := by
  have hmade := compile_eq_ok_iff.mp h
  refine ⟨hmade.length_tablesOf_le_one_iff, ?_⟩
  intro x hx
  rw [hmade.attachments, attachments] at hx
  rcases List.mem_map.mp hx with ⟨s, _, rfl⟩
  rw [← hmade.length_tablesOf_le_one_iff, ← RoutePlan.tableFor_agrees_iff hmade.tableNames_nodup]
  apply forall₂_congr
  intro t _
  rw [attachment_routeTable_eq_iff]
  rfl

/-!
## Documents that list a subnet twice
-/

namespace Inputs

/-- The subnet that faces outward is one of those whose outbound traffic is routed. -/
def listedTwice : Inputs :=
  { sample with
    routing := { RoutingDocument.default with outboundAliases := ["agic", "usernode"] } }

end Inputs

namespace Plan

def listedTwiceRoutes : RoutePlan :=
  ⟨.ofNat 0x0A000201, [
    ⟨ingressTable,
      [⟨"udr-usernode-inbound", "10.0.0.0/24", applianceHop, .ofNat 0x0A000201⟩], ["agic"]⟩,
    ⟨egressTable,
      [⟨"udr-internet-outbound", "0.0.0.0/0", applianceHop, .ofNat 0x0A090005⟩],
      ["agic", "usernode"]⟩]⟩

/-- The plan for these documents. -/
def listedTwice : Plan :=
  { sample with
    routing := Inputs.listedTwice.routing
    routes := listedTwiceRoutes
    attachments := [
      ⟨"snet-user", "usernode", Block.ofNetwork 0x0A000000 24, "nsg-dev-shop-usernode",
        "rt-dev-shop-outbound"⟩,
      ⟨"snet-agic", "agic", Block.ofNetwork 0x0A000100 24, "", "rt-dev-shop-firewall"⟩] }

theorem listedTwice_madeFrom : listedTwice.MadeFrom Inputs.listedTwice where
  valid := sample_madeFrom.valid
  settings := sample_madeFrom.settings
  subnetDocument := sample_madeFrom.subnetDocument
  security := rfl
  routing := rfl
  firewall := rfl
  requests := sample_madeFrom.requests
  subnets := sample_madeFrom.subnets
  groups := sample_madeFrom.groups
  routes := by
    rfl
  attachments := by
    rfl
  freeBlocks := rfl

theorem compile_listedTwice : compile Inputs.listedTwice = .ok listedTwice :=
  compile_eq_ok_iff.mpr listedTwice_madeFrom

end Plan

/-- The subnet that is listed once stands in one table, which its attachment names. -/
theorem one_table_of_listed_once :
    let x : Attachment := ⟨"snet-user", "usernode", Block.ofNetwork 0x0A000000 24,
      "nsg-dev-shop-usernode", "rt-dev-shop-outbound"⟩
    compile Inputs.listedTwice = .ok Plan.listedTwice ∧ x ∈ Plan.listedTwice.attachments ∧
    ¬ Plan.listedTwice.routing.ListsTwice x.aliasName ∧
    (Plan.listedTwice.routes.tablesOf x.aliasName).length ≤ 1 ∧ Plan.listedTwice.Agrees x := by
  intro x
  have hx : x ∈ Plan.listedTwice.attachments := List.mem_cons_self
  have honce : ¬ Plan.listedTwice.routing.ListsTwice x.aliasName := by
    unfold RoutingDocument.ListsTwice
    decide
  rcases one_table_unless_listed_twice Plan.compile_listedTwice with ⟨htables, hattached⟩
  exact ⟨Plan.compile_listedTwice, hx, honce, (htables x.aliasName).mpr honce,
    (hattached x hx).mpr honce⟩

/-- The subnet that is listed twice stands in two tables, and its attachment names only one of
them. -/
theorem two_tables_of_listed_twice :
    let x : Attachment := ⟨"snet-agic", "agic", Block.ofNetwork 0x0A000100 24, "",
      "rt-dev-shop-firewall"⟩
    compile Inputs.listedTwice = .ok Plan.listedTwice ∧ x ∈ Plan.listedTwice.attachments ∧
    (Plan.listedTwice.routes.tablesOf x.aliasName).map (·.name) = ["firewall", "outbound"] ∧
    x.routeTable ≠ Plan.listedTwice.settings.resourceName "rt" ++ "-" ++ "outbound" ∧
    ¬ Plan.listedTwice.Agrees x := by
  intro x
  have hother : x.routeTable ≠
      Plan.listedTwice.settings.resourceName "rt" ++ "-" ++ "outbound" := by
    decide
  refine ⟨Plan.compile_listedTwice, List.mem_cons_of_mem _ List.mem_cons_self, ?_, hother, ?_⟩
  · rfl
  · intro hagrees
    have houtbound := hagrees _ (List.mem_cons_of_mem _ List.mem_cons_self)
    exact hother (houtbound.mpr List.mem_cons_self)

end NetworkPlan
