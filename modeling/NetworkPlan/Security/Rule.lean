import NetworkPlan.Subnet.Directory
import NetworkPlan.Text.Capital

/-!
# Security rules

A rule in full: addresses on both sides, ports, protocol, access, priority and direction. What a
description leaves out has a default; a side that is left out is the owning subnet or every
address, depending on the direction.
-/

namespace NetworkPlan

/-- A rule in full. -/
structure Rule where
  name : String
  source : OneOrMany
  sourcePortRange : String
  destination : OneOrMany
  destinationPorts : OneOrMany
  protocol : String
  access : String
  priority : Nat
  direction : Direction
deriving DecidableEq

def defaultPriority : Nat := 100

def defaultAccess : String := "Allow"

/-- The ending of aliases that were taken over from tokens. -/
def tokenEnding : List Char := "-nsg".toList

/-- How a generated rule name shows one side: `Any`, or the text without the ending of a token
and with its first character in upper case. -/
def displayName (text : String) : String :=
  if text = anyToken then "Any"
  else
    let cs := text.toList
    let stem := if tokenEnding.isSuffixOf cs then cs.take (cs.length - tokenEnding.length) else cs
    String.ofList (Text.capitalise stem)

/-- One side of a rule: its addresses and how a generated name shows it. -/
structure RuleSide where
  addresses : OneOrMany
  display : String
deriving DecidableEq

namespace RuleDescription

/-- The direction, inbound unless it is said. -/
def effectiveDirection (r : RuleDescription) : Direction :=
  r.direction.getD .inbound

/-- The selector that applies. Outbound traffic without a source leaves the owning subnet, and
a selector does not change that. -/
def effectiveSelector (r : RuleDescription) : Option String :=
  match r.sourceSelector, r.source, r.effectiveDirection with
  | some _, none, .outbound => none
  | selector, _, _ => selector

/-- The references on the source side, if no selector applies. -/
def effectiveSource (r : RuleDescription) (owner : String) : OneOrMany :=
  match r.source, r.effectiveDirection with
  | some side, _ => side
  | none, .outbound => .one owner
  | none, .inbound => .one anyToken

/-- The references on the destination side. -/
def effectiveDestination (r : RuleDescription) (owner : String) : OneOrMany :=
  match r.destination, r.effectiveDirection with
  | some side, _ => side
  | none, .inbound => .one owner
  | none, .outbound => .one anyToken

def effectiveAccess (r : RuleDescription) : String :=
  r.access.getD defaultAccess

/-- The given name, unless it is blank; else access and direction with the far side. -/
def effectiveName (r : RuleDescription) (source destination : String) : String :=
  let generated :=
    match r.effectiveDirection with
    | .inbound => r.effectiveAccess ++ "From" ++ source
    | .outbound => r.effectiveAccess ++ "To" ++ destination
  match r.name with
  | some name => if (Text.nonBlank? name).isSome then name else generated
  | none => generated

/-- The list of port ranges, if there is one, else the single one. -/
def effectivePorts (r : RuleDescription) : OneOrMany :=
  match r.destinationPortRanges with
  | some ranges => .many ranges
  | none => .one (r.destinationPortRange.getD anyToken)

end RuleDescription

namespace Directory

/-- The address of one reference and how it is displayed; `none` if it means nothing. -/
def resolveToken (d : Directory) (owner token : String) : Option (String × String) :=
  let reference := d.resolve token owner
  reference.address?.map fun address =>
    match reference with
    | .subnet aliasName _ => (address, displayName aliasName)
    | _ => (address, displayName (Text.trim token))

/-- The addresses and displays of references; the first that means nothing is the error. -/
def resolveTokens (d : Directory) (owner : String) :
    List String → Except String (List (String × String))
  | [] => .ok []
  | token :: rest =>
      match d.resolveToken owner token with
      | none => .error token
      | some resolved => (d.resolveTokens owner rest).map (resolved :: ·)

/-- One side of a rule. -/
def resolveSide (d : Directory) (rule : Option String) (owner side : String)
    (references : OneOrMany) : Except ResolutionError RuleSide :=
  match references with
  | .one token =>
      match d.resolveToken owner token with
      | none => .error (.unresolved rule owner side token)
      | some (address, display) => .ok ⟨.one address, display⟩
  | .many [] => .error (.emptySide rule owner side)
  | .many tokens =>
      match d.resolveTokens owner tokens with
      | .error token => .error (.unresolved rule owner side token)
      | .ok resolved =>
          .ok ⟨.many (resolved.map Prod.fst), String.join (resolved.map Prod.snd)⟩

/-- The source side of a rule. -/
def resolveSource (d : Directory) (r : RuleDescription) (owner : String) :
    Except ResolutionError RuleSide :=
  match r.effectiveSelector with
  | some selector => do
      let address ← d.resolveSelector selector
      return ⟨.one address, displayName selector⟩
  | none => d.resolveSide r.name owner "source" (r.effectiveSource owner)

/-- The rule that a description stands for in the subnet `owner`. -/
def expandRule (d : Directory) (r : RuleDescription) (owner : String) :
    Except ResolutionError Rule := do
  let source ← d.resolveSource r owner
  let destination ← d.resolveSide r.name owner "destination" (r.effectiveDestination owner)
  return {
    name := r.effectiveName source.display destination.display
    source := source.addresses
    sourcePortRange := r.sourcePortRange.getD anyToken
    destination := destination.addresses
    destinationPorts := r.effectivePorts
    protocol := r.protocol.getD anyToken
    access := r.effectiveAccess
    priority := r.priority.getD defaultPriority
    direction := r.effectiveDirection }

end Directory
end NetworkPlan
