import NetworkPlan.Validation.Checks

/-!
# The subnet document

Every definition needs a name and a size. Names, aliases and tokens must differ between
definitions, where the alias of a definition is its alias, else its token, else its name, all
compared without surrounding blanks.
-/

namespace NetworkPlan
namespace Validation

/-- The largest subnet is a /8. -/
def leastPrefixLength : Int := 8

/-- The smallest subnet is a /29. -/
def greatestPrefixLength : Int := 29

/-- The names a token may be given under. -/
def tokenKeys : List String := ["nsg-rule", "legacyToken"]

/-- The last position at which each name, alias and token was seen. -/
structure SeenNames where
  names : Entries Nat
  aliases : Entries Nat
  tokens : Entries Nat

/-- An identifier that may be left out. -/
def checkIdentifier (entry : Section) (key : String) : Checked (Option String) :=
  let failure := Checked.missing (entry.pathTo key) "must be a non-empty string when set"
  match entry.get? key with
  | none => pure none
  | some (.string text) =>
      match Text.nonBlank? text with
      | some trimmed => pure (some trimmed)
      | none => failure
  | some _ => failure

/-- Reports a value that was seen before, and notes it at this position. -/
def checkNew (seen : Entries Nat) (path kind : String) (index : Nat) (value : Option String) :
    Checked (Entries Nat) :=
  match value with
  | none => pure seen
  | some value => do
      match seen.get? value with
      | some first =>
          Checked.report path
            s!"duplicate {kind} '{value}' (also subnetDefinitions[{first}])"
      | none => pure ()
      return seen.put value index

/-- One definition. -/
def checkDefinition (seen : SeenNames) (entry : Section) (index : Nat) : Checked SeenNames := do
  let name ← entry.nonBlank "name"
  let prefixLength ← entry.int "prefixLength"
  Checked.inRange prefixLength (entry.pathTo "prefixLength") leastPrefixLength greatestPrefixLength
  let aliasName ← checkIdentifier entry "alias"
  let rule ← checkIdentifier entry "nsg-rule"
  let legacy ← checkIdentifier entry "legacyToken"
  let token := rule.or legacy
  let tokenKey := if rule.isSome then "nsg-rule" else "legacyToken"
  let names ← checkNew seen.names (entry.pathTo "name") "name" index name
  let aliases ←
    checkNew seen.aliases (entry.pathTo "alias") "alias" index ((aliasName.or token).or name)
  let tokens ← checkNew seen.tokens (entry.pathTo tokenKey) "legacy token" index token
  return ⟨names, aliases, tokens⟩

/-- Definitions counted from `index`. What is not an object has no names. -/
def checkDefinitions (seen : SeenNames) (index : Nat) : List Json → Checked Unit
  | [] => pure ()
  | value :: rest => do
      let entry ← Section.element "subnetDefinitions" index value
      let seen ← if entry.isObject then checkDefinition seen entry index else pure seen
      checkDefinitions seen (index + 1) rest

def checkSubnets (doc : Json) : Checked Unit := do
  let root := Section.root doc
  if root.isObject then
    let items ← root.array "subnetDefinitions" " of subnet definitions"
    match items with
    | none => pure ()
    | some [] => Checked.report "subnetDefinitions" "needs at least one definition"
    | some items => checkDefinitions ⟨[], [], []⟩ 0 items
  else Checked.report "subnetDefinitions" "document must be an object"

end Validation
end NetworkPlan
