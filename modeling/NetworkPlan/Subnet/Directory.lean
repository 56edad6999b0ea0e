import NetworkPlan.Error

/-!
# The subnet directory

Documents refer to a subnet by alias, by full name, or by the token of the older format. The
directory finds the subnet meant, and turns what stands on a side of a rule into an address:
addresses, blocks and service tags stand for themselves, and a subnet for its block. Of several
requests with one name, alias or token the last counts, as does the last of several subnets
with one alias.
-/

namespace NetworkPlan

/-- Everything a reference can mean. -/
structure Directory where
  requests : List SubnetRequest
  subnets : List Subnet
  serviceTags : List String
  selectors : Entries Selector

/-- What a reference turned out to mean. -/
inductive Reference where
  /-- Any address. -/
  | any
  /-- An address, a block or a service tag, as written. -/
  | literal (text : String)
  /-- A subnet that has its block. -/
  | subnet (aliasName : String) (block : Block)
  | unresolved (text : String)
deriving DecidableEq

/-- The reference to every address. -/
def anyToken : String := "*"

/-- The reference to the subnet that a rule belongs to. -/
def selfToken : String := "@self"

/-- The value of a reference in an address field. -/
def Reference.address? : Reference → Option String
  | any => some anyToken
  | literal text => some text
  | subnet _ block => some block.toText
  | unresolved _ => none

/-- The last element of a list with a value, and that value. -/
def lastSome? {α β : Type} (f : α → Option β) (xs : List α) : Option β :=
  xs.reverse.findSome? f

/-- The token in a reference of the form `@ref:` or `@nsg-rule:` and the token, which is not
empty and has no line break. -/
def tokenReference? (text : String) : Option String :=
  let tokenAfter (start : List Char) : Option String :=
    if start.isPrefixOf text.toList then
      let token := text.toList.drop start.length
      if token.isEmpty || token.contains '\n' then none else some (String.ofList token)
    else none
  (tokenAfter "@ref:".toList).or (tokenAfter "@nsg-rule:".toList)

namespace Directory

/-- A directory without service tags and selectors. -/
def ofSubnets (requests : List SubnetRequest) (subnets : List Subnet) : Directory :=
  ⟨requests, subnets, [], []⟩

/-- The directory with more service tags. -/
def addServiceTags (d : Directory) (tags : List String) : Directory :=
  { d with serviceTags := d.serviceTags ++ tags }

/-- The directory with one more selector, which replaces an earlier one of that name. -/
def addSelector (d : Directory) (name : String) (selector : Selector) : Directory :=
  { d with selectors := d.selectors.put name selector }

/-!
## Names, aliases and tokens
-/

def aliasForName (d : Directory) (name : String) : Option String :=
  lastSome? (fun r => if r.name = name then some r.aliasName else none) d.requests

def nameForAlias (d : Directory) (aliasName : String) : Option String :=
  lastSome? (fun r => if r.aliasName = aliasName then some r.name else none) d.requests

def tokenForAlias (d : Directory) (aliasName : String) : Option String :=
  lastSome? (fun r => if r.aliasName = aliasName then r.legacyToken else none) d.requests

def aliasForToken (d : Directory) (token : String) : Option String :=
  lastSome? (fun r => if r.legacyToken = some token then some r.aliasName else none) d.requests

/-- The block of the subnet with an alias. -/
def blockOf (d : Directory) (aliasName : String) : Option Block :=
  lastSome? (fun s => if s.aliasName = aliasName then some s.block else none) d.subnets

def isAllocated (d : Directory) (aliasName : String) : Bool :=
  (d.blockOf aliasName).isSome

/-- The alias of the subnet with a given alias or else full name, if it has its block. -/
def lookup (d : Directory) (reference : String) : Option String :=
  if d.isAllocated reference then some reference
  else (d.aliasForName reference).filter d.isAllocated

/-!
## References
-/

/-- The subnet with an alias as the meaning of a reference. -/
def subnetOr (d : Directory) (aliasName : Option String) (text : String) : Reference :=
  match aliasName with
  | none => .unresolved text
  | some aliasName =>
      match d.blockOf aliasName with
      | some block => .subnet aliasName block
      | none => .unresolved text

/-- The meaning of a reference in a rule that belongs to `owner`. What stands for itself comes
first, so no subnet can hide an address or a service tag. -/
def resolve (d : Directory) (text owner : String) : Reference :=
  let text := Text.trim text
  if text = anyToken then .any
  else if Block.isAddressOrNetwork text || d.serviceTags.contains text then .literal text
  else if text = selfToken then d.subnetOr (some owner) text
  else
    match tokenReference? text with
    | some token => d.subnetOr (d.aliasForToken token) text
    | none => d.subnetOr (d.lookup text) text

/-- The address of a selector: the outside one if it is given, else the block of its subnet. -/
def resolveSelector (d : Directory) (name : String) : Except ResolutionError String :=
  match d.selectors.get? name with
  | none => .error (.unknownSelector name)
  | some selector =>
      match selector.overrideIp.bind Text.nonBlank? with
      | some address => .ok address
      | none =>
          match d.blockOf selector.fallbackSubnet with
          | some block => .ok block.toText
          | none => .error (.idleSelector name selector.fallbackSubnet)

end Directory

/-- The selector that is always there: the bastion outside the network, or else the local one. -/
def bastionSelector : String := "maintBastion"

/-- The directory for settings and a security document. A declared selector hides the one that
is always there. -/
def Directory.build (settings : Settings) (doc : SecurityDocument) (requests : List SubnetRequest)
    (subnets : List Subnet) : Directory :=
  let base := ((Directory.ofSubnets requests subnets).addServiceTags doc.serviceTags).addSelector
    bastionSelector ⟨settings.sharedBastionIp?, bastionAlias⟩
  doc.selectors.foldl (fun d (name, selector) => d.addSelector name selector) base

end NetworkPlan
