import NetworkPlan.Proofs.Security.Expansion
import NetworkPlan.Proofs.Subnet.References

/-!
# Replacing references of the older format

A security document may be brought up to date piece by piece: templates may name their subnet and
not its token, and rules may name subnets by alias and not by mark.  Each replacement keeps what the
reference means and how it is displayed, so none of them changes the security groups.
-/

namespace NetworkPlan

/-!
## Replacements
-/

/-- A reference in a rule stays, or becomes the plain alias of the subnet that it means: the one
behind its token, or the one that the rule's template finds, if it finds one. -/
inductive Directory.RenewsToken (d : Directory) (found? : Option String) :
    String -> String -> Prop
  | same (text : String) : RenewsToken d found? text text
  | token {text mark token aliasName : String} (hmark : mark ∈ tokenMarks)
      (htext : Text.trim text = mark ++ token) (htoken : token ≠ "")
      (hline : '\n' ∉ token.toList) (halias : d.aliasForToken token = some aliasName)
      (hallocated : d.isAllocated aliasName = true) (hplain : d.PlainAlias aliasName) :
      RenewsToken d found? text aliasName
  | self {text aliasName : String} (htext : Text.trim text = selfToken)
      (hfound : found? = some aliasName) (hplain : d.PlainAlias aliasName) :
      RenewsToken d found? text aliasName

/-- One value for one, or as many for many, that match in order. -/
inductive OneOrMany.Pointwise (R : String -> String -> Prop) : OneOrMany -> OneOrMany -> Prop
  | one {a b : String} (h : R a b) : Pointwise R (one a) (one b)
  | many {as bs : List String} (h : List.Forall₂ R as bs) : Pointwise R (many as) (many bs)

/-- The references on the sides of a rule may be replaced; whether there are any, and everything
else, stays. -/
inductive RuleDescription.Renews (R : String -> String -> Prop) (r : RuleDescription) :
    RuleDescription -> Prop
  | sides {source destination : Option OneOrMany}
      (hsource : Option.Rel (OneOrMany.Pointwise R) r.source source)
      (hdestination : Option.Rel (OneOrMany.Pointwise R) r.destination destination) :
      Renews R r { r with source := source, destination := destination }

/-- The alias behind a template's token may become its subnet. -/
inductive Directory.RenewsTarget (d : Directory) : RuleTemplate -> RuleTemplate -> Prop
  | same (target? token? : Option String) (rules rules' : List RuleDescription) :
      RenewsTarget d ⟨target?, token?, rules⟩ ⟨target?, token?, rules'⟩
  | token {token aliasName : String} (halias : d.aliasForToken token = some aliasName)
      (rules rules' : List RuleDescription) :
      RenewsTarget d ⟨none, some token, rules⟩ ⟨some aliasName, none, rules'⟩

/-- A template with its target and the references in its rules replaced. -/
structure RuleTemplate.Renews (d : Directory) (t t' : RuleTemplate) : Prop where
  target : d.RenewsTarget t t'
  rules : List.Forall₂
    (RuleDescription.Renews (d.RenewsToken ((d.denotedText? t).bind d.lookup))) t.rules t'.rules

/-- A document with its templates replaced. -/
inductive SecurityDocument.Renews (d : Directory) (doc : SecurityDocument) :
    SecurityDocument -> Prop
  | templates {templates : List RuleTemplate}
      (h : List.Forall₂ (RuleTemplate.Renews d) doc.templates templates) :
      Renews d doc { doc with templates := templates }

namespace Directory

variable {d : Directory} {owner : String}

/-!
## References
-/

theorem resolveToken_of_resolve {text aliasName : String} {block : Block}
    (h : d.resolve text owner = .subnet aliasName block) :
    d.resolveToken owner text = some (block.toText, displayName aliasName) := by
  unfold resolveToken
  simp only [h]
  rfl

/-- The step lemma for a reference: a replaced one means the same, and what is replaced means
something. -/
theorem RenewsToken.resolveToken_eq (htags : d.TagsUnmarked) {text text' : String}
    (h : d.RenewsToken (some owner) text text') (howner : d.isAllocated owner = true) :
    d.resolveToken owner text' = d.resolveToken owner text ∧
      (text' = text ∨ (d.resolveToken owner text).isSome) := by
  cases h with
  | same =>
      exact ⟨rfl, Or.inl rfl⟩
  | token hmark htext htoken hline halias hallocated hplain =>
      rcases isAllocated_iff_blockOf.mp hallocated with ⟨block, hblock⟩
      have hold := resolveToken_of_resolve
        (resolve_tokenMark htags hmark htext htoken hline halias hblock owner)
      rw [hold, resolveToken_of_resolve (hplain.resolve hblock owner)]
      exact ⟨rfl, Or.inr rfl⟩
  | self htext hfound hplain =>
      cases hfound
      rcases isAllocated_iff_blockOf.mp howner with ⟨block, hblock⟩
      have hold := resolveToken_of_resolve (resolve_self htags htext hblock)
      rw [hold, resolveToken_of_resolve (hplain.resolve hblock owner)]
      exact ⟨rfl, Or.inr rfl⟩

/-- The run lemma for references. -/
theorem resolveTokens_renewed (htags : d.TagsUnmarked) (howner : d.isAllocated owner = true)
    {tokens tokens' : List String}
    (h : List.Forall₂ (d.RenewsToken (some owner)) tokens tokens') :
    d.resolveTokens owner tokens' = d.resolveTokens owner tokens := by
  induction h with
  | nil =>
      rfl
  | cons hfirst _hrest ih =>
      rcases hfirst.resolveToken_eq htags howner with ⟨heq, hsame⟩
      unfold resolveTokens
      rw [heq, ih]
      rcases hsame with rfl | hsome
      · rfl
      · rcases Option.isSome_iff_exists.mp hsome with ⟨resolved, hresolved⟩
        rw [hresolved]

theorem resolveSide_renewed (htags : d.TagsUnmarked) (howner : d.isAllocated owner = true)
    {references references' : OneOrMany}
    (h : OneOrMany.Pointwise (d.RenewsToken (some owner)) references references')
    (rule : Option String) (side : String) :
    d.resolveSide rule owner side references' = d.resolveSide rule owner side references := by
  cases h with
  | one hone =>
      rcases hone.resolveToken_eq htags howner with ⟨heq, hsame⟩
      unfold resolveSide
      simp only
      rw [heq]
      rcases hsame with rfl | hsome
      · rfl
      · rcases Option.isSome_iff_exists.mp hsome with ⟨resolved, hresolved⟩
        rw [hresolved]
  | many hmany =>
      have hall := resolveTokens_renewed htags howner hmany
      cases hmany with
      | nil =>
          rfl
      | cons _ _ =>
          unfold resolveSide
          simp only
          rw [hall]

/-!
## Rules
-/

section Rules

variable {R : String -> String -> Prop} {r r' : RuleDescription}

theorem pointwise_refl (hrefl : forall text, R text text) (side : OneOrMany) :
    OneOrMany.Pointwise R side side := by
  cases side with
  | one text =>
      exact OneOrMany.Pointwise.one (hrefl text)
  | many texts =>
      exact OneOrMany.Pointwise.many (List.forall₂_same.mpr fun text _ => hrefl text)

theorem effectiveSelector_renewed (h : r.Renews R r') :
    r'.effectiveSelector = r.effectiveSelector := by
  rcases r with ⟨_, direction, source, _, selector, _, _, _, _, _, _⟩
  cases h with
  | sides hsource _ =>
      cases hsource with
      | none =>
          rfl
      | some _ =>
          cases selector <;> rfl

theorem effectiveSource_renewed (hrefl : forall text, R text text) (h : r.Renews R r')
    (owner : String) :
    OneOrMany.Pointwise R (r.effectiveSource owner) (r'.effectiveSource owner) := by
  rcases r with ⟨_, direction, source, _, _, _, _, _, _, _, _⟩
  cases h with
  | sides hsource _ =>
      cases hsource with
      | none =>
          exact pointwise_refl hrefl _
      | some hside =>
          exact hside

theorem effectiveDestination_renewed (hrefl : forall text, R text text) (h : r.Renews R r')
    (owner : String) :
    OneOrMany.Pointwise R (r.effectiveDestination owner) (r'.effectiveDestination owner) := by
  rcases r with ⟨_, direction, _, destination, _, _, _, _, _, _, _⟩
  cases h with
  | sides _ hdestination =>
      cases hdestination with
      | none =>
          exact pointwise_refl hrefl _
      | some hside =>
          exact hside

end Rules

theorem expandRule_renewed (htags : d.TagsUnmarked) (howner : d.isAllocated owner = true)
    {r r' : RuleDescription} (h : r.Renews (d.RenewsToken (some owner)) r') :
    d.expandRule r' owner = d.expandRule r owner := by
  have hselector := effectiveSelector_renewed h
  have hsource := effectiveSource_renewed RenewsToken.same h owner
  have hdestination := effectiveDestination_renewed RenewsToken.same h owner
  have hsource' : d.resolveSource r' owner = d.resolveSource r owner := by
    unfold resolveSource
    rw [hselector]
    cases h
    cases r.effectiveSelector with
    | none =>
        exact resolveSide_renewed htags howner hsource _ _
    | some selector =>
        rfl
  unfold expandRule
  rw [hsource', resolveSide_renewed htags howner hdestination]
  cases h
  rfl

theorem expandRules_renewed (htags : d.TagsUnmarked) (howner : d.isAllocated owner = true)
    {rules rules' : List RuleDescription}
    (h : List.Forall₂ (RuleDescription.Renews (d.RenewsToken (some owner))) rules rules') :
    d.expandRules owner rules' = d.expandRules owner rules := by
  induction h with
  | nil =>
      rfl
  | cons hfirst _hrest ih =>
      unfold expandRules
      rw [expandRule_renewed htags howner hfirst, ih]

/-!
## Templates
-/

variable {doc : SecurityDocument}

theorem RenewsTarget.denotedText?_eq {t t' : RuleTemplate} (h : d.RenewsTarget t t') :
    d.denotedText? t' = d.denotedText? t := by
  cases h with
  | same target? token? _ _ =>
      rfl
  | token halias _ _ =>
      simp only [denotedText?, halias, Option.getD_some]

theorem RenewsTarget.aim_eq {t t' : RuleTemplate} (h : d.RenewsTarget t t') :
    d.aim doc t' = d.aim doc t := by
  cases h with
  | same target? token? _ _ =>
      rfl
  | token halias _ _ =>
      unfold aim RuleTemplate.target
      simp only [targetText, halias, Option.getD_some]
      rfl

/-- The run lemma of the collection: the same templates find the same subnets, or the same one of
them fails. -/
theorem aimAll_renewed {templates templates' : List RuleTemplate}
    (h : List.Forall₂ (RuleTemplate.Renews d) templates templates') :
    (d.aimAll doc templates').map (List.map Prod.fst) =
      (d.aimAll doc templates).map (List.map Prod.fst) := by
  induction h with
  | nil =>
      rfl
  | @cons t t' rest rest' hfirst _hrest ih =>
      unfold aimAll
      rw [hfirst.target.aim_eq]
      cases d.aim doc t with
      | error e =>
          rfl
      | ok alias? =>
          cases hrest : d.aimAll doc rest with
          | error e =>
              rw [hrest] at ih
              rw [map_eq_error.mp ih]
              rfl
          | ok aimed =>
              rw [hrest] at ih
              rcases map_eq_ok.mp ih with ⟨aimed', hrest', haliases⟩
              rw [hrest']
              cases alias? with
              | none =>
                  exact congrArg Except.ok haliases
              | some aliasName =>
                  exact congrArg (fun names => Except.ok (aliasName :: names)) haliases

/-- The rules meant for a subnet are replaced one by one. -/
theorem meantRules_renewed {templates templates' : List RuleTemplate}
    (h : List.Forall₂ (RuleTemplate.Renews d) templates templates') (aliasName : String) :
    List.Forall₂ (RuleDescription.Renews (d.RenewsToken (some aliasName)))
      ((templates.filter (d.isMeantFor doc aliasName)).flatMap (·.rules))
      ((templates'.filter (d.isMeantFor doc aliasName)).flatMap (·.rules)) := by
  induction h with
  | nil =>
      exact List.Forall₂.nil
  | @cons t t' rest rest' hfirst _hrest ih =>
      have hsame : d.isMeantFor doc aliasName t' = d.isMeantFor doc aliasName t := by
        unfold isMeantFor
        rw [hfirst.target.denotedText?_eq]
      by_cases hmeant : d.isMeantFor doc aliasName t = true
      · rw [List.filter_cons_of_pos hmeant, List.filter_cons_of_pos (hsame.trans hmeant),
          List.flatMap_cons, List.flatMap_cons]
        rcases isMeantFor_iff.mp hmeant with ⟨text, htext, _, hlookup⟩
        have hrules := hfirst.rules
        rw [htext, Option.bind_some, hlookup] at hrules
        exact List.rel_append hrules ih
      · rw [List.filter_cons_of_neg hmeant, List.filter_cons_of_neg (by rwa [hsame])]
        exact ih

/-- Only a subnet that has its block has rules meant for it. -/
theorem isAllocated_of_isMeantFor {t : RuleTemplate} {aliasName : String}
    (h : d.isMeantFor doc aliasName t = true) : d.isAllocated aliasName = true := by
  rcases isMeantFor_iff.mp h with ⟨_, _, _, hlookup⟩
  exact (lookup_eq_some_iff.mp hlookup).left

/-!
## Groups
-/

theorem expandRules_rulesFor_renewed (htags : d.TagsUnmarked)
    {templates templates' : List RuleTemplate} {aimed aimed' : List (String × RuleTemplate)}
    (h : List.Forall₂ (RuleTemplate.Renews d) templates templates')
    (haimed : d.aimAll doc templates = .ok aimed)
    (haimed' : d.aimAll doc templates' = .ok aimed') (aliasName : String) :
    d.expandRules aliasName (rulesFor aimed' aliasName) =
      d.expandRules aliasName (rulesFor aimed aliasName) := by
  rw [rulesFor_of_aimAll haimed, rulesFor_of_aimAll haimed']
  have hrules := @meantRules_renewed d doc templates templates' h aliasName
  by_cases hallocated : d.isAllocated aliasName = true
  · exact expandRules_renewed htags hallocated hrules
  · have hnone : forall ts : List RuleTemplate, ts.filter (d.isMeantFor doc aliasName) = [] := by
      intro ts
      apply List.filter_eq_nil_iff.mpr
      intro t _ hmeant
      exact hallocated (isAllocated_of_isMeantFor hmeant)
    rw [hnone, hnone]

theorem expandGroups_renewed {aimed aimed' : List (String × RuleTemplate)}
    (h : forall aliasName, d.expandRules aliasName (rulesFor aimed' aliasName) =
      d.expandRules aliasName (rulesFor aimed aliasName)) (subnets : List Subnet) :
    d.expandGroups doc aimed' subnets = d.expandGroups doc aimed subnets := by
  induction subnets with
  | nil =>
      rfl
  | cons s rest ih =>
      unfold expandGroups
      rw [h, ih]

theorem expandGroups_templates (templates : List RuleTemplate)
    (aimed : List (String × RuleTemplate)) (subnets : List Subnet) :
    d.expandGroups { doc with templates := templates } aimed subnets =
      d.expandGroups doc aimed subnets := by
  induction subnets with
  | nil =>
      rfl
  | cons s rest ih =>
      unfold expandGroups
      rw [ih]
      rfl

theorem aimAll_templates (templates rest : List RuleTemplate) :
    d.aimAll { doc with templates := templates } rest = d.aimAll doc rest := by
  induction rest with
  | nil =>
      rfl
  | cons t rest ih =>
      unfold aimAll
      rw [ih]
      rfl

/-- Replacing references of the older format changes nothing in the groups: they are the same with
all their rules and names, or the same reference fails. -/
theorem securityGroups_renewed (d : Directory) {doc doc' : SecurityDocument}
    (htags : d.TagsUnmarked) (h : doc.Renews d doc') (subnets : List Subnet) :
    d.securityGroups doc' subnets = d.securityGroups doc subnets := by
  cases h with
  | @templates templates h =>
      have haliases := @aimAll_renewed d doc doc.templates templates h
      unfold securityGroups
      simp only
      rw [aimAll_templates]
      cases haimed : d.aimAll doc doc.templates with
      | error e =>
          rw [haimed] at haliases
          rw [map_eq_error.mp haliases]
          rfl
      | ok aimed =>
          rw [haimed] at haliases
          rcases map_eq_ok.mp haliases with ⟨aimed', haimed', _⟩
          rw [haimed']
          show Except.mapError _ (d.expandGroups _ aimed' subnets) =
            Except.mapError _ (d.expandGroups doc aimed subnets)
          rw [expandGroups_templates,
            expandGroups_renewed (expandRules_rulesFor_renewed htags h haimed haimed')]

/-- A template with every kind of old reference, for one side and for a list, and the same template
brought up to date: its two rules and their generated names stay. -/
theorem securityGroups_renewed_template :
    let subnets : List Subnet := [⟨"snet-web", "web", ⟨.ofOctets 10 0 0 0, 24, by decide⟩⟩,
      ⟨"snet-db", "db", ⟨.ofOctets 10 0 1 0, 24, by decide⟩⟩]
    let d : Directory :=
      ⟨[⟨"snet-web", "web", 24, none⟩, ⟨"snet-db", "db", 24, some "db-nsg"⟩], subnets,
        ["Internet"], []⟩
    let inbound : RuleDescription := { RuleDescription.empty with
      source := some (.many [" @ref:db-nsg", "Internet", "web"])
      destination := some (.one "@self") }
    let outbound : RuleDescription := { RuleDescription.empty with
      direction := some .outbound
      destination := some (.one "@nsg-rule:db-nsg") }
    let doc : SecurityDocument := { SecurityDocument.default with
      templates := [⟨none, some "db-nsg", [inbound, outbound]⟩] }
    let renewed : SecurityDocument := { doc with
      templates := [⟨some "db", none, [
        { inbound with
          source := some (.many ["db", "Internet", "web"])
          destination := some (.one "db") },
        { outbound with destination := some (.one "db") }]⟩] }
    d.TagsUnmarked ∧ doc.Renews d renewed ∧
      d.securityGroups renewed subnets = d.securityGroups doc subnets ∧
      d.securityGroups doc subnets = .ok [⟨"web", []⟩, ⟨"db", [
        ⟨"AllowFromDbInternetWeb", .many ["10.0.1.0/24", "Internet", "10.0.0.0/24"], "*",
          .one "10.0.1.0/24", .one "*", "*", "Allow", 100, .inbound⟩,
        ⟨"AllowToDb", .one "10.0.1.0/24", "*", .one "10.0.1.0/24", .one "*", "*", "Allow", 100,
          .outbound⟩]⟩] := by
  intro subnets d inbound outbound doc renewed
  have htags : d.TagsUnmarked := by
    show forall tag, tag ∈ ["Internet"] -> ¬ Marked tag
    decide
  have hplain : d.PlainAlias "db" := by
    constructor <;> decide
  have htoken : forall mark text, mark ∈ tokenMarks -> Text.trim text = mark ++ "db-nsg" ->
      d.RenewsToken (some "db") text "db" := by
    intro mark text hmark htext
    exact RenewsToken.token hmark htext (by decide) (by decide) (by decide) (by decide) hplain
  have hinbound : inbound.Renews (d.RenewsToken (some "db")) { inbound with
      source := some (.many ["db", "Internet", "web"])
      destination := some (.one "db") } := by
    apply RuleDescription.Renews.sides
    · apply Option.Rel.some
      apply OneOrMany.Pointwise.many
      exact .cons (htoken "@ref:" _ (by decide) (by decide))
        (.cons (RenewsToken.same _) (.cons (RenewsToken.same _) .nil))
    · apply Option.Rel.some
      exact OneOrMany.Pointwise.one (RenewsToken.self (by decide) rfl hplain)
  have houtbound : outbound.Renews (d.RenewsToken (some "db"))
      { outbound with destination := some (.one "db") } := by
    apply RuleDescription.Renews.sides
    · exact Option.Rel.none
    · apply Option.Rel.some
      exact OneOrMany.Pointwise.one (htoken "@nsg-rule:" _ (by decide) (by decide))
  have hrenews : doc.Renews d renewed := by
    apply SecurityDocument.Renews.templates
    apply List.Forall₂.cons
    · constructor
      · exact RenewsTarget.token (by decide) _ _
      · exact .cons hinbound (.cons houtbound .nil)
    · exact .nil
  refine ⟨htags, hrenews, securityGroups_renewed d htags hrenews subnets, ?_⟩
  rfl

end Directory
end NetworkPlan
