import NetworkPlan.Json.Path
import NetworkPlan.Address.Notation
import NetworkPlan.Text.Quoted

/-!
# Decoding failures

Why a document does not have the shape that is asked of it, and where.
-/

namespace NetworkPlan

/-- What stands in a document in place of something else. -/
inductive Found where
  | null
  | bool (b : Bool)
  | number (n : Number)
  | string (s : String)
  | sequence
  | map
deriving DecidableEq

/-- How a message names what stands in a document. -/
def Found.toText : Found → String
  | null => "null"
  | bool b => if b then "boolean `true`" else "boolean `false`"
  | number (.integer n) => s!"integer `{n}`"
  | number (.double x) => s!"floating point `{x}`"
  | string s => "string " ++ Text.quoted s
  | sequence => "sequence"
  | map => "map"

/-- Why a value cannot be decoded. -/
inductive Cause where
  | notJson (e : SyntaxError)
  | wrongType (found : Found) (expected : String)
  | wrongValue (found : Found) (expected : String)
  | wrongLength (length : Nat) (expected : String)
  | missing (member : String)
  | duplicate (member : String)
  | unknownMember (member : String) (known : List String)
  | unknownVariant (variant : String) (known : List String)
  | noAlternative (type : String)
  | badBlock (e : NotationError)
deriving DecidableEq

/-- How a message lists the names to choose from. -/
def nameChoice : List String → String
  | [a] => s!"`{a}`"
  | [a, b] => s!"`{a}` or `{b}`"
  | names => "one of " ++ ", ".intercalate (names.map fun name => s!"`{name}`")

/-- The wording of a cause. -/
def Cause.message : Cause → String
  | notJson e => e.message
  | wrongType found expected => s!"invalid type: {found.toText}, expected {expected}"
  | wrongValue found expected => s!"invalid value: {found.toText}, expected {expected}"
  | wrongLength length expected => s!"invalid length {length}, expected {expected}"
  | missing member => s!"missing field `{member}`"
  | duplicate member => s!"duplicate field `{member}`"
  | unknownMember member known => s!"unknown field `{member}`, expected {nameChoice known}"
  | unknownVariant variant known => s!"unknown variant `{variant}`, expected {nameChoice known}"
  | noAlternative type => s!"data did not match any variant of untagged enum {type}"
  | badBlock e => e.message

/-- A cause and the place of the value it is about. -/
structure Failure where
  path : Path
  cause : Cause
deriving DecidableEq

namespace Failure

/-- A failure at the value itself. -/
def here (cause : Cause) : Failure := ⟨[], cause⟩

/-- The same failure as seen from the start of a way that leads to the value. -/
def under (way : Path) (f : Failure) : Failure :=
  { f with path := way ++ f.path }

/-- The failure of a value that is not JSON. -/
def ofSyntax (e : PlacedSyntaxError) : Failure := ⟨e.path, .notJson e.error⟩

/-- The place and the cause. -/
def message (f : Failure) : String :=
  s!"path={f.path.toText} error={f.cause.message}"

end Failure
end NetworkPlan
