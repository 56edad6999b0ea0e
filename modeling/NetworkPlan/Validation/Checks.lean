import NetworkPlan.Validation.Finding

/-!
# Field checks

One check for each kind of member. A check that gives no value where one is due reports why.
-/

namespace NetworkPlan
namespace Section

/-- A section that must be there. Otherwise that is reported and it counts as empty, so its own
members are reported too. -/
def subsection (parent : Section) (key : String) : Checked Section :=
  let path := parent.pathTo key
  match parent.get? key with
  | some (.object members) => pure ⟨path, some members⟩
  | _ => do
      Checked.report path "must be an object"
      return ⟨path, none⟩

/-- An element of an array that must be an object. -/
def element (path : String) (index : Nat) (value : Json) : Checked Section :=
  let path := s!"{path}[{index}]"
  match value with
  | .object members => pure ⟨path, some members⟩
  | _ => do
      Checked.report path "must be an object"
      return ⟨path, none⟩

/-- A section that must be there only if `required` is set. -/
def optionalSection (parent : Section) (key : String) (required : Bool) (reason : String) :
    Checked (Option Section) :=
  let path := parent.pathTo key
  match parent.get? key with
  | some (.object members) => pure (some ⟨path, some members⟩)
  | _ => if required then Checked.missing path s!"must be an object ({reason})" else pure none

/-- True or false and nothing that merely looks like it. -/
def bool (s : Section) (key : String) : Checked (Option Bool) :=
  match s.get? key with
  | some (.bool b) => pure (some b)
  | _ => Checked.missing (s.pathTo key) "must be true or false"

/-- A text that is not blank, trimmed. -/
def nonBlank (s : Section) (key : String) : Checked (Option String) :=
  let failure := Checked.missing (s.pathTo key) "must be a non-empty string"
  match s.get? key with
  | some (.string text) =>
      match Text.nonBlank? text with
      | some trimmed => pure (some trimmed)
      | none => failure
  | _ => failure

/-- Any text. -/
def string (s : Section) (key hint : String) : Checked (Option String) :=
  match s.get? key with
  | some (.string text) => pure (some text)
  | _ => Checked.missing (s.pathTo key) s!"must be a string{hint}"

/-- The least integer above the signed 64-bit range. -/
def integerBound : Int := 9223372036854775808

/-- An integer in the signed 64-bit range. -/
def int (s : Section) (key : String) : Checked (Option Int) :=
  match s.get? key with
  | some (.number (.integer n)) =>
      if n < integerBound then pure (some n)
      else Checked.missing (s.pathTo key) "integer out of range"
  | _ => Checked.missing (s.pathTo key) "must be an integer"

/-- The text of a block without host bits. -/
def blockValue (value : Option Json) (path : String) : Checked (Option Block) :=
  let failure := Checked.missing path "must be a CIDR in x.x.x.x/nn form"
  match value with
  | some (.string text) =>
      if (Text.nonBlank? text).isNone then failure
      else
        match Block.parseNetwork text with
        | .ok block => pure (some block)
        | .error e =>
            Checked.missing path
              s!"is not a valid CIDR ({e.message}), value={Text.quoted text}"
  | _ => failure

def block (s : Section) (key : String) : Checked (Option Block) :=
  blockValue (s.get? key) (s.pathTo key)

/-- An address, unless the value is absent or an empty text. -/
def optionalAddressValue (value : Option Json) (path : String) : Checked Unit :=
  match value with
  | none => pure ()
  | some (.string text) =>
      if text = "" || (Address.parse text).isOk then pure ()
      else Checked.report path s!"is not a valid IP address, value={Text.quoted text}"
  | some _ => Checked.report path "must be an IPv4 address string or empty string"

def optionalAddress (s : Section) (key : String) : Checked Unit :=
  optionalAddressValue (s.get? key) (s.pathTo key)

/-- An address or a block without host bits, unless the value is absent or an empty text. -/
def optionalAddressOrBlock (s : Section) (key : String) : Checked Unit :=
  match s.get? key with
  | none => pure ()
  | some (.string text) =>
      if text = "" || Block.isAddressOrNetwork text then pure ()
      else
        Checked.report (s.pathTo key)
          s!"is not a valid IP address or CIDR, value={Text.quoted text}"
  | some _ =>
      Checked.report (s.pathTo key) "must be an IPv4 address/CIDR string or empty string"

def array (s : Section) (key hint : String) : Checked (Option (List Json)) :=
  match s.get? key with
  | some (.array items) => pure (some items)
  | _ => Checked.missing (s.pathTo key) s!"must be an array{hint}"

end Section

namespace Checked

/-- A value, if there is one, must be among the allowed ones. -/
def oneOf (value : Option String) (path : String) (allowed : List String) : Checked Unit :=
  match value with
  | some v =>
      if allowed.contains v then pure ()
      else report path ("must be one of " ++ " / ".intercalate allowed)
  | none => pure ()

/-- A value, if there is one, must lie between two bounds. -/
def inRange (value : Option Int) (path : String) (least greatest : Int) : Checked Unit :=
  match value with
  | some v =>
      if least ≤ v ∧ v ≤ greatest then pure ()
      else report path s!"must be between {least} and {greatest}"
  | none => pure ()

/-- A value, if there is one, must not be below a bound. -/
def atLeast (value : Option Int) (path : String) (least : Int) : Checked Unit :=
  match value with
  | some v => if least ≤ v then pure () else report path s!"must be an integer >= {least}"
  | none => pure ()

/-- Runs a check on the items of an array at a path, counted from `index`. -/
def eachItem (check : Option Json → String → Checked Unit) (path : String) (index : Nat) :
    List Json → Checked Unit
  | [] => pure ()
  | value :: rest => do
      check (some value) s!"{path}[{index}]"
      eachItem check path (index + 1) rest

end Checked

namespace Validation

/-- Why a maintenance window may have to be there. -/
def windowReason : String := "required when enableCustomMaintenanceWindow is true"

end Validation
end NetworkPlan
