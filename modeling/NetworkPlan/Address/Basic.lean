import NetworkPlan.Text.Blank
import NetworkPlan.Text.Splitting
import NetworkPlan.Text.Decimal

/-!
# IPv4 addresses

An address is a number below `2 ^ 32`; its text is the dotted quad. This module also holds the
faults an address or block text can have, and the alignment of an address: the shortest prefix
length for which it is a network address.
-/

namespace NetworkPlan

/-- An IPv4 address. -/
structure Address where
  value : Nat
  value_lt : value < 4294967296 := by omega
deriving DecidableEq

/-- What can be wrong with the text of an address or of a block. -/
inductive NotationError
  /-- There is no slash in the block's text. -/
  | format (text : String)
  /-- The address part is not a dotted quad. -/
  | address (text : String)
  /-- The length part is not a number up to 32. -/
  | prefixLength (text : String)
  /-- The address is not the first one of the block. -/
  | hostBitsSet (text : String)
deriving DecidableEq

/-- The wording of a notation fault. -/
def NotationError.message : NotationError → String
  | format text => s!"invalid CIDR format '{text}', expected x.x.x.x/nn"
  | address text => s!"invalid IPv4 address '{text}'"
  | prefixLength text => s!"invalid prefix length '{text}'"
  | hostBitsSet text => s!"'{text}' has host bits set"

namespace Address

/-- The address with a given number, taken modulo `2 ^ 32`. -/
def ofNat (n : Nat) : Address :=
  ⟨n % 4294967296, Nat.mod_lt _ (by decide)⟩

@[simp] theorem value_ofNat_of_lt {n : Nat} (h : n < 4294967296) : (ofNat n).value = n :=
  Nat.mod_eq_of_lt h

theorem ext {a b : Address} (h : a.value = b.value) : a = b := by
  cases a
  cases b
  simp_all

/-!
## Text
-/

/-- The address with four given octets, most significant first. -/
def ofOctets (a b c d : Nat) : Address :=
  ofNat (((a * 256 + b) * 256 + c) * 256 + d)

/-- The dotted quad of an address. -/
def toText (a : Address) : String :=
  let n := a.value
  s!"{n / 16777216}.{n / 65536 % 256}.{n / 256 % 256}.{n % 256}"

instance : ToString Address := ⟨toText⟩

/-- A decimal octet: at most three digits, no needless leading zero, at most 255. -/
def octet? (cs : List Char) : Option Nat :=
  if cs.length ≤ 3 ∧ (cs.head? = some '0' → cs.length = 1) then
    (Text.numeral? cs).filter (· ≤ 255)
  else none

/-- A dotted quad: four decimal octets with a point between them and nothing else. -/
def ofChars? (cs : List Char) : Option Address :=
  match Text.splitAll '.' cs with
  | [a, b, c, d] => do
      let a ← octet? a
      let b ← octet? b
      let c ← octet? c
      let d ← octet? d
      return ofOctets a b c d
  | _ => none

/-- Reads a bare address; blanks around it do not count, and the fault cites the text as given. -/
def parse (text : String) : Except NotationError Address :=
  match ofChars? (Text.trimChars text.toList) with
  | some a => .ok a
  | none => .error (.address text)

/-!
## Alignment
-/

/-- How many of the lowest `bits` binary digits of `n` are zero before the first one is not. -/
def trailingZeros : Nat → Nat → Nat
  | 0, _ => 0
  | bits + 1, n => if n % 2 = 1 then 0 else 1 + trailingZeros bits (n / 2)

/-- The shortest prefix length for which the address is a network address. -/
def alignment (a : Address) : Nat :=
  32 - trailingZeros 32 a.value

end Address
end NetworkPlan
