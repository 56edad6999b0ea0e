import NetworkPlan.Address.Block

/-!
# Prefix notation

The text of a block is its address, a slash and its prefix length. Reading is lenient about
blanks around the whole text and around the address, and about a plus sign before the length;
it reports the first fault from left to right. The strict reader also refuses host bits.
-/

namespace NetworkPlan
namespace Block

/-- The text of a block: its address as given and its prefix length. -/
def toText (b : Block) : String :=
  s!"{b.address}/{b.length}"

instance : ToString Block := ⟨toText⟩

/-- The number written as a prefix length: decimal digits, perhaps after a plus sign, whose value
fits into one byte. -/
def lengthNumeral? (cs : List Char) : Option Nat :=
  (Text.numeral? (if cs.head? = some '+' then cs.tail else cs)).filter (· < 256)

/-- Reads the length part of a block's text. The fault of a number above 32 cites the number, so
without a sign and leading zeros; that of any other text cites the text as given. -/
def parseLength (cs : List Char) : Except NotationError { n : Nat // n ≤ 32 } :=
  match lengthNumeral? cs with
  | some n => if h : n ≤ 32 then .ok ⟨n, h⟩ else .error (.prefixLength (toString n))
  | none => .error (.prefixLength (String.ofList cs))

/-- Reads a block; host bits are allowed. -/
def parse (text : String) : Except NotationError Block :=
  let cs := Text.trimChars text.toList
  match Text.cutAt? '/' cs with
  | none => .error (.format (String.ofList cs))
  | some (addressPart, lengthPart) => do
      let address ← Address.parse (String.ofList addressPart)
      let length ← parseLength lengthPart
      return ⟨address, length.val, length.property⟩

/-- Reads a block and refuses host bits. -/
def parseNetwork (text : String) : Except NotationError Block :=
  match parse text with
  | .error e => .error e
  | .ok b => if b.IsNetwork then .ok b else .error (.hostBitsSet (Text.trim text))

/-- The text is a bare address, or a block without host bits. -/
def isAddressOrNetwork (text : String) : Bool :=
  if text.toList.contains '/' then (parseNetwork text).isOk
  else (Address.parse text).isOk

end Block
end NetworkPlan
