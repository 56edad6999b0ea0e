import NetworkPlan.Plan

/-!
# The summary

One row for each subnet in address order and one for each free block, as quoted fields that line
up in a terminal.
-/

namespace NetworkPlan
namespace Summary

/-- A field in double quotes, filled up with blanks on the left. A field that takes at least
`width` bytes is not filled up; the blanks are counted so that characters make up `width`. -/
def field (value : String) (width : Nat) : String :=
  let quoted := "\"" ++ value ++ "\""
  if width ≤ quoted.utf8ByteSize then quoted
  else String.ofList (List.replicate (width - quoted.length) ' ') ++ quoted

/-- The number of addresses left to machines, or a dash for a block that is too small. -/
def hosts (block : Block) : String :=
  match assignableHosts block.length with
  | .ok n => toString n
  | .error _ => "-"

/-- The names of the columns. -/
def header : String := "j,kind,cidr,az_hosts,broadcast,name,alias,nsg,route_table"

/-- A row from the values of its fields. -/
def row (position : Nat) (kind : String) (block : Block) (name aliasName group table : String) :
    String :=
  ",".intercalate [
    field (toString position) 4,
    field kind 8,
    field block.toText 18,
    field (hosts block) 8,
    field s!"{block.last}_br" 19,
    field name 28,
    field aliasName 14,
    field group 28,
    field table 24]

/-- The row of a subnet. -/
def subnetRow (attachments : List Attachment) (position : Nat) (s : Subnet) : String :=
  match attachments.find? (·.aliasName == s.aliasName) with
  | some a => row position "subnet" s.block s.name s.aliasName a.securityGroup a.routeTable
  | none => row position "subnet" s.block s.name s.aliasName "" ""

/-- The row of a free block. -/
def freeRow (position : Nat) (f : FreeBlock) : String :=
  row position "gap" f.block s!"{f.range}_vnet" "" "" ""

/-- The rows for a list, counted from `position`. -/
def rowsFrom {α : Type} (render : Nat → α → String) (position : Nat) : List α → List String
  | [] => []
  | a :: rest => render position a :: rowsFrom render (position + 1) rest

end Summary

namespace Plan

/-- The subnets in address order. -/
def subnetsByAddress (p : Plan) : List Subnet :=
  p.subnets.mergeSort fun a b => a.block.precedes b.block

/-- The header and the rows, which are counted through from one. -/
def summaryRows (p : Plan) : List String :=
  Summary.header
    :: Summary.rowsFrom (Summary.subnetRow p.attachments) 1 p.subnetsByAddress
    ++ Summary.rowsFrom Summary.freeRow (p.subnets.length + 1) p.freeBlocks

end Plan
end NetworkPlan
