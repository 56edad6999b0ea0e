import NetworkPlan.Validation.Checks

/-!
# The cluster section

Node counts, and the address ranges of pods and services, which must keep clear of each other
and of the virtual network.
-/

namespace NetworkPlan
namespace Validation

/-- The usable addresses that the service range must have: the name service has a fixed place
some way into it. -/
def leastServiceHosts : Nat := 10

/-- The node counts: none negative, and the count between its bounds. -/
def checkNodeCounts (aks : Section) (count least greatest : Option Int) : Checked Unit := do
  Checked.atLeast count (aks.pathTo "userPoolCount") 0
  Checked.atLeast least (aks.pathTo "userPoolMinCount") 0
  Checked.atLeast greatest (aks.pathTo "userPoolMaxCount") 0
  match count, least, greatest with
  | some count, some least, some greatest =>
      if least ≤ count ∧ count ≤ greatest then pure ()
      else
        Checked.report
          (aks.pathTo "userPoolCount" ++ " / " ++ aks.pathTo "userPoolMinCount" ++ " / "
            ++ aks.pathTo "userPoolMaxCount")
          "must satisfy min <= count <= max"
  | _, _, _ => pure ()

/-- The service range: large enough, and apart from pods and the virtual network. -/
def checkServiceRange (aks : Section) (pods : Option Block) (ranges : List Block)
    (service : Block) : Checked Unit := do
  let path := aks.pathTo "serviceCidr"
  if service.usableHosts < leastServiceHosts then
    Checked.report path
      (s!"needs at least {leastServiceHosts} usable addresses to derive the DNS service IP, "
        ++ s!"{service} has {service.usableHosts}")
  match pods with
  | some pods =>
      if pods.overlaps service then
        Checked.report (aks.pathTo "podCidr")
          s!"must not overlap {path} ({pods} and {service})"
  | none => pure ()
  Checked.each
    (fun range => Checked.report path
      s!"must not overlap network.vnetAddressPrefixes: serviceCidr={service}, vnet={range}")
    (ranges.filter (·.overlaps service))

def checkCluster (aks : Section) (ranges : List Block) : Checked Unit := do
  let _ ← aks.nonBlank "userPoolVmSize"
  let count ← aks.int "userPoolCount"
  let least ← aks.int "userPoolMinCount"
  let greatest ← aks.int "userPoolMaxCount"
  let _ ← aks.nonBlank "userPoolLabel"
  checkNodeCounts aks count least greatest
  let pods ← aks.block "podCidr"
  let service ← aks.block "serviceCidr"
  match service with
  | some service => checkServiceRange aks pods ranges service
  | none => pure ()

end Validation
end NetworkPlan
