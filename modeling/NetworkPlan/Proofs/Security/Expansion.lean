import NetworkPlan.Proofs.Outcome
import NetworkPlan.Security.Group

/-!
# What templates mean

A template denotes a text, and that text finds a subnet.  The groups collect the templates under
the subnet that was found; here it is said without the collection what every group must hold, and
when there are groups at all.
-/

namespace NetworkPlan

theorem SecurityDocument.isExcluded_iff {doc : SecurityDocument} {aliasName : String} :
    doc.isExcluded aliasName = true ↔ aliasName ∈ doc.excludedAliases :=
  List.contains_iff_mem

namespace Directory

variable {d : Directory} {doc : SecurityDocument}

/-!
## The subnet that a template means
-/

/-- The text that a template denotes: its subnet as written, or the alias behind its token, or the
token itself if no alias is behind it.  A template with both forms, or with none, denotes nothing. -/
def denotedText? (d : Directory) (t : RuleTemplate) : Option String :=
  match t.targetSubnet, t.legacyTarget with
  | some text, none => some text
  | none, some token => some ((d.aliasForToken token).getD token)
  | some _, some _ => none
  | none, none => none

/-- The template denotes a text that is not excluded and finds the subnet with the alias. -/
def isMeantFor (d : Directory) (doc : SecurityDocument) (aliasName : String)
    (t : RuleTemplate) : Bool :=
  match d.denotedText? t with
  | some text => decide (text ∉ doc.excludedAliases) && d.lookup text == some aliasName
  | none => false

/-- The rules described for a subnet: those of all templates meant for it, in document order. -/
def meantRules (d : Directory) (doc : SecurityDocument) (aliasName : String) :
    List RuleDescription :=
  (doc.templates.filter (d.isMeantFor doc aliasName)).flatMap (·.rules)

theorem denotedText?_isSome_iff {t : RuleTemplate} :
    (d.denotedText? t).isSome ↔ t.targetSubnet.isSome ≠ t.legacyTarget.isSome := by
  unfold denotedText?
  cases t.targetSubnet <;> cases t.legacyTarget <;> simp

theorem isMeantFor_iff {aliasName : String} {t : RuleTemplate} :
    d.isMeantFor doc aliasName t = true ↔
      exists text, d.denotedText? t = some text ∧ text ∉ doc.excludedAliases ∧
        d.lookup text = some aliasName := by
  unfold isMeantFor
  cases d.denotedText? t <;> simp

theorem mem_meantRules_iff {aliasName : String} {r : RuleDescription} :
    r ∈ d.meantRules doc aliasName ↔
      exists t, t ∈ doc.templates ∧ d.isMeantFor doc aliasName t = true ∧ r ∈ t.rules := by
  simp only [meantRules, List.mem_flatMap, List.mem_filter, and_assoc]

/-!
## Aiming
-/

theorem denotedText?_eq (d : Directory) (t : RuleTemplate) :
    d.denotedText? t = t.target.toOption.map d.targetText := by
  unfold denotedText? RuleTemplate.target
  cases t.targetSubnet <;> cases t.legacyTarget <;> rfl

theorem aim_eq_ok_iff {t : RuleTemplate} {alias? : Option String} :
    d.aim doc t = .ok alias? ↔
      exists text, d.denotedText? t = some text ∧
        ((text ∈ doc.excludedAliases ∧ alias? = none) ∨
          (text ∉ doc.excludedAliases ∧ (d.lookup text).isSome ∧ alias? = d.lookup text)) := by
  rw [denotedText?_eq]
  unfold aim
  cases t.target with
  | error e =>
      simp [Except.toOption]
  | ok target =>
      simp only [Except.toOption, Option.map_some, Option.some.injEq, exists_eq_left']
      by_cases hexcluded : d.targetText target ∈ doc.excludedAliases
      · rw [if_pos (SecurityDocument.isExcluded_iff.mpr hexcluded), Except.ok.injEq]
        simp only [hexcluded, not_true, false_and, or_false, true_and]
        exact eq_comm
      · rw [if_neg (fun h => hexcluded (SecurityDocument.isExcluded_iff.mp h))]
        cases d.lookup (d.targetText target) with
        | none =>
            simp [hexcluded]
        | some aliasName =>
            simp only [hexcluded, not_false_eq_true, true_and, false_and, false_or,
              Option.isSome_some, Except.ok.injEq]
            exact eq_comm

theorem exists_aim_eq_ok_iff {t : RuleTemplate} :
    (exists alias?, d.aim doc t = .ok alias?) ↔
      t.targetSubnet.isSome ≠ t.legacyTarget.isSome ∧
        forall text, d.denotedText? t = some text -> text ∉ doc.excludedAliases ->
          (d.lookup text).isSome := by
  rw [← denotedText?_isSome_iff]
  simp only [aim_eq_ok_iff]
  cases d.denotedText? t with
  | none =>
      simp
  | some text =>
      by_cases hexcluded : text ∈ doc.excludedAliases <;> simp [hexcluded]

theorem isMeantFor_of_aim {t : RuleTemplate} {alias? : Option String}
    (h : d.aim doc t = .ok alias?) (aliasName : String) :
    d.isMeantFor doc aliasName t = true ↔ alias? = some aliasName := by
  rcases aim_eq_ok_iff.mp h with ⟨text, htext, ⟨hexcluded, rfl⟩ | ⟨hincluded, _, rfl⟩⟩
  · simp [isMeantFor_iff, htext, hexcluded]
  · simp [isMeantFor_iff, htext, hincluded]

/-- The step lemma of the collection: a template goes under the alias it is aimed at. -/
theorem aimAll_cons_eq_ok_iff {t : RuleTemplate} {rest : List RuleTemplate}
    {aimed : List (String × RuleTemplate)} :
    d.aimAll doc (t :: rest) = .ok aimed ↔
      exists alias? others, d.aim doc t = .ok alias? ∧ d.aimAll doc rest = .ok others ∧
        (alias?.map (·, t)).toList ++ others = aimed := by
  rw [aimAll, bind_eq_ok]
  simp only [bind_eq_ok, exists_and_left]
  refine exists_congr fun alias? => and_congr_right fun _ => exists_congr fun others =>
    and_congr_right fun _ => ?_
  cases alias? <;> simp [pure_eq_ok]

theorem exists_aimAll_eq_ok_iff {templates : List RuleTemplate} :
    (exists aimed, d.aimAll doc templates = .ok aimed) ↔
      forall t, t ∈ templates -> exists alias?, d.aim doc t = .ok alias? := by
  induction templates with
  | nil =>
      simp [aimAll]
  | cons t rest ih =>
      rw [List.forall_mem_cons, ← ih]
      simp only [aimAll_cons_eq_ok_iff]
      constructor
      · intro h
        rcases h with ⟨_, alias?, others, haim, hrest, _⟩
        exact ⟨⟨alias?, haim⟩, ⟨others, hrest⟩⟩
      · intro h
        rcases h with ⟨⟨alias?, haim⟩, ⟨others, hrest⟩⟩
        exact ⟨_, alias?, others, haim, hrest, rfl⟩

/-- The run lemma of the collection: what stands under an alias are the templates meant for it. -/
theorem rulesFor_of_aimAll {templates : List RuleTemplate} {aimed : List (String × RuleTemplate)}
    (h : d.aimAll doc templates = .ok aimed) (aliasName : String) :
    rulesFor aimed aliasName =
      (templates.filter (d.isMeantFor doc aliasName)).flatMap (·.rules) := by
  induction templates generalizing aimed with
  | nil =>
      cases h
      rfl
  | cons t rest ih =>
      rcases aimAll_cons_eq_ok_iff.mp h with ⟨alias?, others, haim, hrest, rfl⟩
      have hmeant := isMeantFor_of_aim haim aliasName
      have hothers := ih hrest
      unfold rulesFor at hothers ⊢
      -- Both sides take the rules of `t`, or neither does.
      by_cases halias : alias? = some aliasName
      · rw [List.filter_cons_of_pos (hmeant.mpr halias), List.flatMap_cons, ← hothers, halias]
        simp
      · rw [List.filter_cons_of_neg (fun h => halias (hmeant.mp h)), ← hothers,
          List.filter_append]
        cases alias? with
        | none =>
            rfl
        | some other =>
            have hne : other ≠ aliasName := fun heq => halias (congrArg some heq)
            simp [hne]

/-!
## Rules and groups
-/

theorem expandRules_eq_ok_iff {owner : String} {descriptions : List RuleDescription}
    {rules : List Rule} :
    d.expandRules owner descriptions = .ok rules ↔
      List.Forall₂ (fun r rule => d.expandRule r owner = .ok rule) descriptions rules := by
  induction descriptions generalizing rules with
  | nil =>
      simp [expandRules, eq_comm]
  | cons r rest ih =>
      rw [expandRules, bind_eq_ok, List.forall₂_cons_left_iff]
      simp only [bind_eq_ok, pure_eq_ok, ih]
      constructor
      · intro h
        rcases h with ⟨rule, hrule, others, hothers, rfl⟩
        exact ⟨rule, others, hrule, hothers, rfl⟩
      · intro h
        rcases h with ⟨rule, others, hrule, hothers, rfl⟩
        exact ⟨rule, hrule, others, hothers, rfl⟩

theorem expandGroups_eq_ok_iff {aimed : List (String × RuleTemplate)} {subnets : List Subnet}
    {groups : List SecurityGroup} :
    d.expandGroups doc aimed subnets = .ok groups ↔
      List.Forall₂
        (fun s g => g.aliasName = s.aliasName ∧
          d.expandRules s.aliasName (rulesFor aimed s.aliasName) = .ok g.rules)
        (subnets.filter fun s => s.aliasName ∉ doc.excludedAliases) groups := by
  induction subnets generalizing groups with
  | nil =>
      simp [expandGroups, eq_comm]
  | cons s rest ih =>
      rw [expandGroups]
      by_cases hexcluded : s.aliasName ∈ doc.excludedAliases
      · rw [if_pos (SecurityDocument.isExcluded_iff.mpr hexcluded),
          List.filter_cons_of_neg (by simpa using hexcluded)]
        exact ih
      · rw [if_neg (fun h => hexcluded (SecurityDocument.isExcluded_iff.mp h)),
          List.filter_cons_of_pos (by simpa using hexcluded), bind_eq_ok,
          List.forall₂_cons_left_iff]
        simp only [bind_eq_ok, pure_eq_ok, ih]
        constructor
        · intro h
          rcases h with ⟨rules, hrules, others, hothers, rfl⟩
          exact ⟨⟨s.aliasName, rules⟩, others, ⟨rfl, hrules⟩, hothers, rfl⟩
        · intro h
          rcases h with ⟨⟨_, rules⟩, others, ⟨rfl, hrules⟩, hothers, rfl⟩
          exact ⟨rules, hrules, others, hothers, rfl⟩

end Directory

/-- The group is named after the subnet and holds, for each description meant for the subnet, the
rule that it stands for there, in the same order. -/
structure SecurityGroup.Expands (d : Directory) (doc : SecurityDocument) (s : Subnet)
    (g : SecurityGroup) : Prop where
  alias_eq : g.aliasName = s.aliasName
  rules : List.Forall₂ (fun r rule => d.expandRule r s.aliasName = .ok rule)
    (d.meantRules doc s.aliasName) g.rules

/-- What it takes for a document to give groups for subnets. -/
structure SecurityDocument.Expandable (doc : SecurityDocument) (d : Directory)
    (subnets : List Subnet) : Prop where
  target : forall t, t ∈ doc.templates -> t.targetSubnet.isSome ≠ t.legacyTarget.isSome
  found : forall t text, t ∈ doc.templates -> d.denotedText? t = some text ->
    text ∉ doc.excludedAliases -> (d.lookup text).isSome
  rules : forall t s r, t ∈ doc.templates -> s ∈ subnets -> s.aliasName ∉ doc.excludedAliases ->
    d.isMeantFor doc s.aliasName t = true -> r ∈ t.rules ->
    exists rule, d.expandRule r s.aliasName = .ok rule

namespace Directory

variable {d : Directory} {doc : SecurityDocument} {subnets : List Subnet}

theorem exists_aimAll_templates_iff :
    (exists aimed, d.aimAll doc doc.templates = .ok aimed) ↔
      (forall t, t ∈ doc.templates -> t.targetSubnet.isSome ≠ t.legacyTarget.isSome) ∧
        forall t text, t ∈ doc.templates -> d.denotedText? t = some text ->
          text ∉ doc.excludedAliases -> (d.lookup text).isSome := by
  simp only [exists_aimAll_eq_ok_iff, exists_aim_eq_ok_iff, forall_and]
  refine and_congr_right fun _ => ?_
  constructor
  · intro h t text ht
    exact h t ht text
  · intro h t ht text
    exact h t text ht

theorem securityGroups_eq_ok_iff {groups : List SecurityGroup} :
    d.securityGroups doc subnets = .ok groups ↔
      (exists aimed, d.aimAll doc doc.templates = .ok aimed) ∧
        List.Forall₂ (SecurityGroup.Expands d doc)
          (subnets.filter fun s => s.aliasName ∉ doc.excludedAliases) groups := by
  rw [securityGroups, bind_eq_ok, ← exists_and_right]
  refine exists_congr fun aimed => and_congr_right fun haimed => ?_
  rw [mapError_eq_ok, expandGroups_eq_ok_iff]
  have hexpands : forall (s : Subnet) (g : SecurityGroup), (g.aliasName = s.aliasName ∧
      d.expandRules s.aliasName (rulesFor aimed s.aliasName) = .ok g.rules) ↔
      SecurityGroup.Expands d doc s g := by
    intro s g
    rw [rulesFor_of_aimAll haimed, expandRules_eq_ok_iff]
    exact ⟨fun h => ⟨h.left, h.right⟩, fun h => ⟨h.alias_eq, h.rules⟩⟩
  simp only [hexpands]

theorem exists_expands_iff {s : Subnet} :
    (exists g, SecurityGroup.Expands d doc s g) ↔
      forall r, r ∈ d.meantRules doc s.aliasName ->
        exists rule, d.expandRule r s.aliasName = .ok rule := by
  rw [← exists_forall₂_iff]
  constructor
  · intro h
    rcases h with ⟨g, hg⟩
    exact ⟨g.rules, hg.rules⟩
  · intro h
    rcases h with ⟨rules, hrules⟩
    exact ⟨⟨s.aliasName, rules⟩, ⟨rfl, hrules⟩⟩

/-- There are groups exactly if every template has one target, every text that is denoted and not
excluded finds a subnet, and every rule meant for a subnet that gets a group can be expanded there.
Then there is one group for each of these subnets, in their order, with exactly the rules meant for
it. -/
theorem securityGroups_meaning (d : Directory) (doc : SecurityDocument) (subnets : List Subnet) :
    ((exists groups, d.securityGroups doc subnets = .ok groups) ↔ doc.Expandable d subnets) ∧
    forall groups, d.securityGroups doc subnets = .ok groups ->
      List.Forall₂ (SecurityGroup.Expands d doc)
        (subnets.filter fun s => s.aliasName ∉ doc.excludedAliases) groups := by
  have hgroups : (exists groups, List.Forall₂ (SecurityGroup.Expands d doc)
      (subnets.filter fun s => s.aliasName ∉ doc.excludedAliases) groups) ↔
      forall t s r, t ∈ doc.templates -> s ∈ subnets -> s.aliasName ∉ doc.excludedAliases ->
        d.isMeantFor doc s.aliasName t = true -> r ∈ t.rules ->
        exists rule, d.expandRule r s.aliasName = .ok rule := by
    simp only [exists_forall₂_iff, exists_expands_iff, mem_meantRules_iff, List.mem_filter,
      decide_eq_true_eq]
    constructor
    · intro h t s r ht hs hincluded hmeant hr
      exact h s ⟨hs, hincluded⟩ r ⟨t, ht, hmeant, hr⟩
    · intro h s hs r hr
      rcases hr with ⟨t, ht, hmeant, hr⟩
      exact h t s r ht hs.left hs.right hmeant hr
  constructor
  · simp only [securityGroups_eq_ok_iff, exists_and_left, exists_aimAll_templates_iff, hgroups]
    constructor
    · intro h
      exact ⟨h.left.left, h.left.right, h.right⟩
    · intro h
      exact ⟨⟨h.target, h.found⟩, h.rules⟩
  · intro groups h
    exact (securityGroups_eq_ok_iff.mp h).right

end Directory
end NetworkPlan
