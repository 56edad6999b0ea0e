import NetworkPlan.Proofs.Outcome
import NetworkPlan.Security.Group

/-!
# Failures of the security groups

What goes wrong in security groups is always about a template or a rule: nothing that belongs to
allocation or to routes is reported from here.
-/

namespace NetworkPlan

/-- The error is about what a template or a rule refers to. -/
def ResolutionError.AboutRules : ResolutionError -> Prop
  | unknownSelector _ => True
  | idleSelector _ _ => True
  | unknownTarget _ => True
  | emptySide _ _ _ => True
  | unresolved _ _ _ _ => True
  | _ => False

/-- The error is about a template's target, or about what a template or a rule refers to. -/
def PlanError.AboutGroups : PlanError -> Prop
  | document (.badTarget _) => True
  | resolution e => e.AboutRules
  | _ => False

namespace Directory

variable {d : Directory} {owner : String} {e : ResolutionError}

/-!
## Rules
-/

theorem resolveSelector_eq_error {name : String} (h : d.resolveSelector name = .error e) :
    e.AboutRules := by
  unfold resolveSelector at h
  split at h
  · cases h
    trivial
  · split at h
    · cases h
    · split at h
      · cases h
      · cases h
        trivial

theorem resolveSide_eq_error {rule : Option String} {side : String} {references : OneOrMany}
    (h : d.resolveSide rule owner side references = .error e) : e.AboutRules := by
  unfold resolveSide at h
  split at h
  · split at h
    · cases h
      trivial
    · cases h
  · cases h
    trivial
  · split at h
    · cases h
      trivial
    · cases h

theorem resolveSource_eq_error {r : RuleDescription} (h : d.resolveSource r owner = .error e) :
    e.AboutRules := by
  unfold resolveSource at h
  split at h
  · rcases bind_eq_error.mp h with hselector | ⟨_, _, hpure⟩
    · exact resolveSelector_eq_error hselector
    · exact absurd hpure pure_ne_error
  · exact resolveSide_eq_error h

theorem expandRule_eq_error {r : RuleDescription} (h : d.expandRule r owner = .error e) :
    e.AboutRules := by
  rcases bind_eq_error.mp h with hsource | ⟨_, _, h⟩
  · exact resolveSource_eq_error hsource
  · rcases bind_eq_error.mp h with hdestination | ⟨_, _, hpure⟩
    · exact resolveSide_eq_error hdestination
    · exact absurd hpure pure_ne_error

theorem expandRules_eq_error {rules : List RuleDescription}
    (h : d.expandRules owner rules = .error e) : e.AboutRules := by
  induction rules with
  | nil =>
      cases h
  | cons rule rest ih =>
      rcases bind_eq_error.mp h with hrule | ⟨_, _, h⟩
      · exact expandRule_eq_error hrule
      · rcases bind_eq_error.mp h with hrest | ⟨_, _, hpure⟩
        · exact ih hrest
        · exact absurd hpure pure_ne_error

/-!
## Groups
-/

theorem expandGroups_eq_error {doc : SecurityDocument} {aimed : List (String × RuleTemplate)}
    {subnets : List Subnet} (h : d.expandGroups doc aimed subnets = .error e) :
    e.AboutRules := by
  induction subnets with
  | nil =>
      cases h
  | cons subnet rest ih =>
      rw [expandGroups] at h
      split at h
      · exact ih h
      · rcases bind_eq_error.mp h with hrules | ⟨_, _, h⟩
        · exact expandRules_eq_error hrules
        · rcases bind_eq_error.mp h with hrest | ⟨_, _, hpure⟩
          · exact ih hrest
          · exact absurd hpure pure_ne_error

theorem aim_eq_error {doc : SecurityDocument} {t : RuleTemplate} {e : PlanError}
    (h : d.aim doc t = .error e) : e.AboutGroups := by
  unfold aim at h
  split at h
  · cases h
    trivial
  · simp only at h
    split at h
    · cases h
    · split at h
      · cases h
      · cases h
        trivial

theorem aimAll_eq_error {doc : SecurityDocument} {templates : List RuleTemplate} {e : PlanError}
    (h : d.aimAll doc templates = .error e) : e.AboutGroups := by
  induction templates with
  | nil =>
      cases h
  | cons t rest ih =>
      rcases bind_eq_error.mp h with haim | ⟨_, _, h⟩
      · exact aim_eq_error haim
      · rcases bind_eq_error.mp h with hrest | ⟨_, _, h⟩
        · exact ih hrest
        · split at h <;> exact absurd h pure_ne_error

/-- An error in the security groups is about templates and rules. -/
theorem securityGroups_eq_error {doc : SecurityDocument} {subnets : List Subnet} {e : PlanError}
    (h : d.securityGroups doc subnets = .error e) : e.AboutGroups := by
  rcases bind_eq_error.mp h with haim | ⟨_, _, h⟩
  · exact aimAll_eq_error haim
  · rcases mapError_eq_error.mp h with ⟨e', hgroups, rfl⟩
    exact expandGroups_eq_error hgroups

end Directory
end NetworkPlan
