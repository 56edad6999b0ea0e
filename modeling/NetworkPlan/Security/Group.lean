import NetworkPlan.Security.Rule

/-!
# Security groups

Every subnet outside the excluded ones gets one security group. Templates fill it: each is aimed
at a subnet, and the rules of all templates aimed at one subnet follow each other in document
order.
-/

namespace NetworkPlan

/-- The rules of one subnet. -/
structure SecurityGroup where
  aliasName : String
  rules : List Rule
deriving DecidableEq

/-- The subnet that a template means as written: an alias or name, or the alias behind a token. -/
def Directory.targetText (d : Directory) : TemplateTarget → String
  | .aliasName aliasName => aliasName
  | .token token => (d.aliasForToken token).getD token

/-- The alias of the subnet a template is aimed at; `none` if that subnet is excluded. -/
def Directory.aim (d : Directory) (doc : SecurityDocument) (t : RuleTemplate) :
    Except PlanError (Option String) :=
  match t.target with
  | .error e => .error (.document (.badTarget e))
  | .ok target =>
      let text := d.targetText target
      if doc.isExcluded text then .ok none
      else
        match d.lookup text with
        | some aliasName => .ok (some aliasName)
        | none => .error (.resolution (.unknownTarget text))

/-- Templates with the subnets they are aimed at, without those for excluded subnets. -/
def Directory.aimAll (d : Directory) (doc : SecurityDocument) :
    List RuleTemplate → Except PlanError (List (String × RuleTemplate))
  | [] => .ok []
  | t :: rest => do
      let alias? ← d.aim doc t
      let aimed ← d.aimAll doc rest
      match alias? with
      | some aliasName => return (aliasName, t) :: aimed
      | none => return aimed

/-- The descriptions of the rules for one subnet. -/
def rulesFor (aimed : List (String × RuleTemplate)) (aliasName : String) : List RuleDescription :=
  (aimed.filter (·.1 == aliasName)).flatMap (·.2.rules)

/-- The rules that descriptions stand for; the first that does not resolve is the error. -/
def Directory.expandRules (d : Directory) (owner : String) :
    List RuleDescription → Except ResolutionError (List Rule)
  | [] => .ok []
  | r :: rest => do
      let rule ← d.expandRule r owner
      let rules ← d.expandRules owner rest
      return rule :: rules

/-- One group for every subnet that is not excluded, in the order of the subnets. -/
def Directory.expandGroups (d : Directory) (doc : SecurityDocument)
    (aimed : List (String × RuleTemplate)) :
    List Subnet → Except ResolutionError (List SecurityGroup)
  | [] => .ok []
  | s :: rest =>
      if doc.isExcluded s.aliasName then d.expandGroups doc aimed rest
      else do
        let rules ← d.expandRules s.aliasName (rulesFor aimed s.aliasName)
        let groups ← d.expandGroups doc aimed rest
        return ⟨s.aliasName, rules⟩ :: groups

/-- The security groups of the subnets. Every template must have a target before any rule is
looked at. -/
def Directory.securityGroups (d : Directory) (doc : SecurityDocument) (subnets : List Subnet) :
    Except PlanError (List SecurityGroup) := do
  let aimed ← d.aimAll doc doc.templates
  (d.expandGroups doc aimed subnets).mapError .resolution

end NetworkPlan
