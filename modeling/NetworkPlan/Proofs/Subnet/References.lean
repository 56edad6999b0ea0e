import NetworkPlan.Proofs.Address.Notation
import NetworkPlan.Proofs.Subnet.Directory

/-!
# Old and new references to a subnet

The older document format marks its references with an `@`: the owning subnet itself, and the subnet
behind a token.  The alias of the subnet means the same, unless something else comes before subnets
when it is resolved: blanks, every address, an address, a block, a service tag or another mark.
-/

namespace NetworkPlan

/-- The text is marked as a reference of the older format. -/
def Marked (text : String) : Prop :=
  text.toList.head? = some '@'

instance (text : String) : Decidable (Marked text) :=
  inferInstanceAs (Decidable (text.toList.head? = some '@'))

/-- The two ways to refer to a token. -/
def tokenMarks : List String := ["@ref:", "@nsg-rule:"]

theorem marked_selfToken : Marked selfToken := by
  decide

theorem marked_of_tokenMark {mark : String} (hmark : mark ∈ tokenMarks) (token : String) :
    Marked (mark ++ token) := by
  simp only [tokenMarks, List.mem_cons, List.not_mem_nil, or_false] at hmark
  rcases hmark with rfl | rfl <;> simp [Marked]

/-!
## Tokens
-/

theorem tokenReference?_of_not_marked {text : String} (h : ¬ Marked text) :
    tokenReference? text = none := by
  unfold Marked at h
  unfold tokenReference?
  cases hcs : text.toList with
  | nil =>
      simp
  | cons c cs =>
      have hc : '@' ≠ c := by
        intro heq
        rw [hcs, heq] at h
        exact h rfl
      simp [hc]

theorem tokenReference?_tokenMark {mark : String} (hmark : mark ∈ tokenMarks) {token : String}
    (htoken : token ≠ "") (hline : '\n' ∉ token.toList) :
    tokenReference? (mark ++ token) = some token := by
  simp only [tokenMarks, List.mem_cons, List.not_mem_nil, or_false] at hmark
  have hne : token.toList ≠ [] := by
    intro h
    exact htoken (String.toList_eq_nil_iff.mp h)
  rcases hmark with rfl | rfl <;> simp [tokenReference?, hne, hline]

namespace Directory

variable {d : Directory}

/-!
## What comes before subnets
-/

/-- The subnet that a text means which does not stand for itself: the owner, the subnet behind a
token, or the subnet with an alias or a name. -/
def subnetMeant (d : Directory) (text owner : String) : Reference :=
  if text = selfToken then d.subnetOr (some owner) text
  else
    match tokenReference? text with
    | some token => d.subnetOr (d.aliasForToken token) text
    | none => d.subnetOr (d.lookup text) text

theorem resolve_eq_subnetMeant {text : String} (hany : Text.trim text ≠ anyToken)
    (haddress : Block.isAddressOrNetwork (Text.trim text) = false)
    (htag : Text.trim text ∉ d.serviceTags) (owner : String) :
    d.resolve text owner = d.subnetMeant (Text.trim text) owner := by
  have hliteral : ¬ (Block.isAddressOrNetwork (Text.trim text) ||
      d.serviceTags.contains (Text.trim text)) = true := by
    rw [haddress, Bool.false_or, List.contains_iff_mem]
    exact htag
  rw [resolve, if_neg hany, if_neg hliteral]
  rfl

theorem subnetOr_of_blockOf {aliasName : String} {block : Block}
    (h : d.blockOf aliasName = some block) (text : String) :
    d.subnetOr (some aliasName) text = .subnet aliasName block := by
  simp only [subnetOr, h]

theorem subnetOr_eq_subnet_iff {aliasName : Option String} {text found : String} {block : Block} :
    d.subnetOr aliasName text = .subnet found block ↔
      aliasName = some found ∧ d.blockOf found = some block := by
  constructor
  · intro h
    unfold subnetOr at h
    split at h
    next => cases h
    next =>
      split at h
      next hblock =>
        cases h
        exact ⟨rfl, hblock⟩
      next => cases h
  · intro h
    rcases h with ⟨rfl, hblock⟩
    exact subnetOr_of_blockOf hblock text

/-- A text that is looked up among the subnets: without the blanks around it, it does not stand for
itself, for the owner or for a token. -/
structure LookedUp (d : Directory) (text : String) : Prop where
  ne_any : Text.trim text ≠ anyToken
  ne_self : Text.trim text ≠ selfToken
  not_token : tokenReference? (Text.trim text) = none
  not_address : Block.isAddressOrNetwork (Text.trim text) = false
  not_tag : Text.trim text ∉ d.serviceTags

theorem LookedUp.resolve_eq {text : String} (h : d.LookedUp text) (owner : String) :
    d.resolve text owner = d.subnetOr (d.lookup (Text.trim text)) (Text.trim text) := by
  rw [resolve_eq_subnetMeant h.ne_any h.not_address h.not_tag, subnetMeant, if_neg h.ne_self,
    h.not_token]

/-- No service tag is marked, so that a marked reference does not stand for itself. -/
def TagsUnmarked (d : Directory) : Prop :=
  forall tag, tag ∈ d.serviceTags -> ¬ Marked tag

theorem resolve_of_marked (htags : d.TagsUnmarked) {text : String}
    (h : Marked (Text.trim text)) (owner : String) :
    d.resolve text owner = d.subnetMeant (Text.trim text) owner := by
  apply resolve_eq_subnetMeant
  · intro hany
    rw [hany] at h
    exact absurd h (by decide)
  · exact Block.isAddressOrNetwork_of_head? (Text.trim_trim text) h (by decide) (by decide)
      (by decide)
  · intro htag
    exact htags _ htag h

/-!
## Both kinds of references
-/

theorem resolve_self (htags : d.TagsUnmarked) {text owner : String} {block : Block}
    (htext : Text.trim text = selfToken) (hblock : d.blockOf owner = some block) :
    d.resolve text owner = .subnet owner block := by
  have hmarked : Marked (Text.trim text) := by
    rw [htext]
    exact marked_selfToken
  rw [resolve_of_marked htags hmarked, subnetMeant, if_pos htext]
  exact subnetOr_of_blockOf hblock _

theorem resolve_tokenMark (htags : d.TagsUnmarked) {text mark token aliasName : String}
    {block : Block} (hmark : mark ∈ tokenMarks) (htext : Text.trim text = mark ++ token)
    (htoken : token ≠ "") (hline : '\n' ∉ token.toList)
    (halias : d.aliasForToken token = some aliasName) (hblock : d.blockOf aliasName = some block)
    (owner : String) : d.resolve text owner = .subnet aliasName block := by
  have hreference := tokenReference?_tokenMark hmark htoken hline
  have hself : mark ++ token ≠ selfToken := by
    intro h
    rw [h] at hreference
    cases hreference
  have hmarked : Marked (Text.trim text) := by
    rw [htext]
    exact marked_of_tokenMark hmark token
  rw [resolve_of_marked htags hmarked, htext, subnetMeant, if_neg hself, hreference]
  simp only
  rw [halias]
  exact subnetOr_of_blockOf hblock _

/-- An alias that means its subnet wherever it is written. -/
structure PlainAlias (d : Directory) (aliasName : String) : Prop where
  trim_eq : Text.trim aliasName = aliasName
  ne_any : aliasName ≠ anyToken
  not_marked : ¬ Marked aliasName
  not_address : Block.isAddressOrNetwork aliasName = false
  not_tag : aliasName ∉ d.serviceTags

theorem PlainAlias.lookedUp {aliasName : String} (h : d.PlainAlias aliasName) :
    d.LookedUp aliasName := by
  constructor <;> rw [h.trim_eq]
  case ne_any =>
    exact h.ne_any
  case ne_self =>
    intro heq
    exact h.not_marked (heq ▸ marked_selfToken)
  case not_token =>
    exact tokenReference?_of_not_marked h.not_marked
  case not_address =>
    exact h.not_address
  case not_tag =>
    exact h.not_tag

theorem PlainAlias.resolve {aliasName : String} {block : Block} (h : d.PlainAlias aliasName)
    (hblock : d.blockOf aliasName = some block) (owner : String) :
    d.resolve aliasName owner = .subnet aliasName block := by
  have hallocated : d.isAllocated aliasName = true :=
    isAllocated_iff_blockOf.mpr ⟨block, hblock⟩
  rw [h.lookedUp.resolve_eq, h.trim_eq, lookup_of_isAllocated hallocated]
  exact subnetOr_of_blockOf hblock aliasName

end Directory
end NetworkPlan
