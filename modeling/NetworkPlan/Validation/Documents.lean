import NetworkPlan.Validation.Network
import NetworkPlan.Validation.Cluster
import NetworkPlan.Validation.Postgres
import NetworkPlan.Validation.Redis
import NetworkPlan.Validation.Cosmos
import NetworkPlan.Validation.Subnets

/-!
# Validation of the documents

The common document and the subnet document are checked in one pass before anything is made of
them. Missing sections are reported first, then what is wrong inside each section.
-/

namespace NetworkPlan
namespace Validation

/-- The common document as an object. -/
def checkSections (root : Section) : Checked Unit := do
  let identity ← root.subsection "common"
  let network ← root.subsection "network"
  let cluster ← root.subsection "aks"
  let postgres ← root.subsection "postgres"
  let redis ← root.subsection "redis"
  let cosmos ← root.subsection "cosno"
  checkIdentity identity
  let ranges ← checkNetwork network
  checkCluster cluster ranges
  checkPostgres postgres
  checkRedis redis
  checkCosmos cosmos
  checkToggles root

def checkCommon (doc : Json) : Checked Unit :=
  let root := Section.root doc
  if root.isObject then checkSections root
  else Checked.report "common parameters" "top level must be an object"

end Validation

/-- Everything that is wrong with the two documents. -/
def validate (common subnets : Json) : List Finding :=
  (do
    Validation.checkCommon common
    Validation.checkSubnets subnets : Checked Unit).findings

/-- The lines of a validation report. -/
def validationLines (common subnets : Json) : List String :=
  (validate common subnets).map Finding.line

end NetworkPlan
