import NetworkPlan.Entries
import NetworkPlan.Number.Shortest

/-!
# JSON values

Objects keep their members in the order in which the names were first given. A number is an
integer if it was written without point and exponent and fits in 64 bits, with or without sign;
every other number is a double.
-/

namespace NetworkPlan

/-- A JSON number. -/
inductive Number where
  | integer (n : Int)
  | double (x : Binary64)
deriving DecidableEq

/-- The text of a number, as it stands in a document. -/
def Number.toText : Number → String
  | integer n => toString n
  | double x => x.toText

/-- A JSON value. -/
inductive Json where
  | null
  | bool (b : Bool)
  | number (n : Number)
  | string (s : String)
  | array (items : List Json)
  | object (members : List (String × Json))

namespace Json

instance : Inhabited Json := ⟨null⟩

/-- A natural number as a value. -/
def ofNat (n : Nat) : Json :=
  number (.integer n)

/-- The value of an object's member. -/
def get? (key : String) : Json → Option Json
  | object members => Entries.get? key members
  | _ => none

/-- An array of texts. -/
def strings (texts : List String) : Json :=
  array (texts.map string)

mutual

/-- Every object in the value has distinct member names. -/
def WellFormed : Json → Prop
  | array items => WellFormedItems items
  | object members => (Entries.keys members).Nodup ∧ WellFormedMembers members
  | _ => True

def WellFormedItems : List Json → Prop
  | [] => True
  | item :: rest => WellFormed item ∧ WellFormedItems rest

def WellFormedMembers : List (String × Json) → Prop
  | [] => True
  | (_, value) :: rest => WellFormed value ∧ WellFormedMembers rest

end

end Json
end NetworkPlan
