import NetworkPlan.Address.Notation

/-!
# Subnets

A request asks for a block of a given size under a name and an alias; a subnet is a request
that has been given its block. Older documents also refer to subnets by a token.
-/

namespace NetworkPlan

/-- A subnet to be placed. -/
structure SubnetRequest where
  /-- Full resource name. -/
  name : String
  /-- Short identifier used by rules and routes. -/
  aliasName : String
  prefixLength : Nat
  /-- Reference key of the older document format. -/
  legacyToken : Option String := none
deriving DecidableEq

/-- A subnet with the block it was given. -/
structure Subnet where
  name : String
  aliasName : String
  block : Block
deriving DecidableEq

/-- One line naming the subnet and its block. -/
def Subnet.toText (s : Subnet) : String :=
  s!"{s.aliasName} ({s.name}) {s.block}"

end NetworkPlan
