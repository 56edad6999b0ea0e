import NetworkPlan.Subnet.Basic

/-!
# Allocation

Requests are served largest block first. A cursor walks forward through the ranges, which are
taken in the order given; each block starts at the first multiple of its own size at or after
the cursor, and a range that cannot hold the block is left for good. A range is never entered
twice, so the same requests always get the same blocks.
-/

namespace NetworkPlan

/-- The least multiple of `step` that is not below `n`. -/
def alignUp (n step : Nat) : Nat :=
  (n + step - 1) / step * step

/-- The free part of the address space ahead of the allocator: the ranges not yet left, and the
next address to try in the first of them. -/
structure Cursor where
  ranges : List Block
  next : Nat

namespace Cursor

/-- A cursor at the lowest address of the first range. -/
def start : List Block → Cursor
  | [] => ⟨[], 0⟩
  | range :: rest => ⟨range :: rest, range.low⟩

/-- The block for a prefix length at the first aligned place in one of the ranges, and the
cursor just after it. -/
def take (length : Nat) : List Block → Nat → Option (Block × Cursor)
  | [], _ => none
  | range :: rest, next =>
      let low := alignUp next (blockSize length)
      let high := low + blockSize length - 1
      if range.low ≤ low && high ≤ range.high then
        some (Block.ofNetwork low length, ⟨range :: rest, high + 1⟩)
      else
        match rest with
        | [] => none
        | later :: _ => take length rest later.low

/-- Serves one request; lengths above 32 name no block. -/
def place (cursor : Cursor) (request : SubnetRequest) : Option (Subnet × Cursor) :=
  if 32 < request.prefixLength then none
  else
    (take request.prefixLength cursor.ranges cursor.next).map fun (block, cursor) =>
      (⟨request.name, request.aliasName, block⟩, cursor)

/-- Serves requests in the order given; the first that does not fit is the error. -/
def placeAll (cursor : Cursor) : List SubnetRequest → Except SubnetRequest (List Subnet)
  | [] => .ok []
  | request :: rest =>
      match cursor.place request with
      | none => .error request
      | some (subnet, cursor) => (placeAll cursor rest).map (subnet :: ·)

end Cursor

/-- Requests by ascending prefix length; equal lengths keep their order. -/
def bySize (requests : List SubnetRequest) : List SubnetRequest :=
  requests.mergeSort fun a b => a.prefixLength ≤ b.prefixLength

/-- A block for every request, or the first request, largest block first, that does not fit. -/
def allocate (ranges : List Block) (requests : List SubnetRequest) :
    Except SubnetRequest (List Subnet) :=
  (Cursor.start ranges).placeAll (bySize requests)

end NetworkPlan
