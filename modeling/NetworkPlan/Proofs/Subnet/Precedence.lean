import NetworkPlan.Proofs.Subnet.References

/-!
# What a reference means

What stands for itself comes before all subnets.  Any other reference has exactly one form: the mark
of the owner, a token behind its mark, an alias, or a name.  The form alone says which subnet is
meant, and a reference whose form leads to no block means nothing, even if it could also be read in
another form.
-/

namespace NetworkPlan

/-!
## Tokens behind their marks
-/

/-- The text is a token behind one of its marks; the token is not empty and stays on one line. -/
def HoldsToken (text token : String) : Prop :=
  exists mark, mark ∈ tokenMarks ∧ text = mark ++ token ∧ token ≠ "" ∧ '\n' ∉ token.toList

theorem holdsToken_of_isPrefixOf {text mark : String} (hmark : mark ∈ tokenMarks)
    (hstart : mark.toList.isPrefixOf text.toList = true)
    (hrest : ¬ ((text.toList.drop mark.toList.length).isEmpty ||
      (text.toList.drop mark.toList.length).contains '\n') = true) :
    HoldsToken text (String.ofList (text.toList.drop mark.toList.length)) := by
  rcases List.isPrefixOf_iff_prefix.mp hstart with ⟨rest, htext⟩
  rw [Bool.or_eq_true, not_or, List.isEmpty_iff, List.contains_iff_mem] at hrest
  rw [← htext, List.drop_left] at hrest ⊢
  refine ⟨mark, hmark, ?_, ?_, ?_⟩
  · rw [← String.toList_inj, String.toList_append, String.toList_ofList, htext]
  · intro hempty
    exact hrest.left (by simpa using congrArg String.toList hempty)
  · rw [String.toList_ofList]
    exact hrest.right

theorem tokenReference?_eq_some_iff {text token : String} :
    tokenReference? text = some token ↔ HoldsToken text token := by
  constructor
  · intro h
    have hafter (mark : String) (hmark : mark ∈ tokenMarks)
        (h : (if mark.toList.isPrefixOf text.toList then
          if (text.toList.drop mark.toList.length).isEmpty ||
              (text.toList.drop mark.toList.length).contains '\n' then none
          else some (String.ofList (text.toList.drop mark.toList.length))
        else none) = some token) : HoldsToken text token := by
      split at h
      next hstart =>
        split at h
        next => cases h
        next hrest =>
          cases h
          exact holdsToken_of_isPrefixOf hmark hstart hrest
      next => cases h
    unfold tokenReference? at h
    rcases Option.or_eq_some_iff.mp h with hfirst | ⟨_, hsecond⟩
    · exact hafter "@ref:" (by simp [tokenMarks]) hfirst
    · exact hafter "@nsg-rule:" (by simp [tokenMarks]) hsecond
  · intro h
    rcases h with ⟨mark, hmark, rfl, htoken, hline⟩
    exact tokenReference?_tokenMark hmark htoken hline

theorem tokenReference?_eq_none_iff {text : String} :
    tokenReference? text = none ↔ forall token, ¬ HoldsToken text token := by
  simp only [← tokenReference?_eq_some_iff, Option.eq_none_iff_forall_ne_some, ne_eq]

theorem not_holdsToken_selfToken (token : String) : ¬ HoldsToken selfToken token :=
  tokenReference?_eq_none_iff.mp rfl token

namespace Directory

variable {d : Directory} {owner text aliasName : String} {block : Block}

/-!
## The subnet that is denoted
-/

/-- The text stands for itself: an address, a block without host bits or a service tag. -/
def StandsForItself (d : Directory) (text : String) : Prop :=
  Block.isAddressOrNetwork text = true ∨ text ∈ d.serviceTags

/-- The text is neither the mark of the owner nor a token behind its mark. -/
def Unmarked (text : String) : Prop :=
  text ≠ selfToken ∧ forall token, ¬ HoldsToken text token

/-- In a rule of `owner`, the text denotes the subnet with an alias, in one of four forms. -/
inductive Denotes (d : Directory) (owner : String) : String -> String -> Prop
  | self : Denotes d owner selfToken owner
  | token {text token aliasName : String} (htoken : HoldsToken text token)
      (halias : d.aliasForToken token = some aliasName) : Denotes d owner text aliasName
  | aliasName {text : String} (hform : Unmarked text) (hallocated : d.isAllocated text = true) :
      Denotes d owner text text
  | name {text aliasName : String} (hform : Unmarked text)
      (hfree : d.isAllocated text = false) (hname : d.aliasForName text = some aliasName) :
      Denotes d owner text aliasName

theorem denotes_self_iff : d.Denotes owner selfToken aliasName ↔ aliasName = owner := by
  constructor
  · intro h
    cases h with
    | self => rfl
    | token htoken => exact absurd htoken (not_holdsToken_selfToken _)
    | aliasName hform => exact absurd rfl hform.left
    | name hform => exact absurd rfl hform.left
  · intro h
    rw [h]
    exact Denotes.self

theorem denotes_token_iff {token : String} (htoken : HoldsToken text token) :
    d.Denotes owner text aliasName ↔ d.aliasForToken token = some aliasName := by
  constructor
  · intro h
    cases h with
    | self => exact absurd htoken (not_holdsToken_selfToken _)
    | token hother halias =>
        -- A text is no two tokens behind their marks.
        have hsame := tokenReference?_eq_some_iff.mpr hother
        rw [tokenReference?_eq_some_iff.mpr htoken, Option.some.injEq] at hsame
        rw [hsame]
        exact halias
    | aliasName hform => exact absurd htoken (hform.right token)
    | name hform => exact absurd htoken (hform.right token)
  · exact Denotes.token htoken

theorem denotes_unmarked_iff (hform : Unmarked text) :
    d.Denotes owner text aliasName ↔
      d.isAllocated text = true ∧ aliasName = text ∨
        d.isAllocated text = false ∧ d.aliasForName text = some aliasName := by
  constructor
  · intro h
    cases h with
    | self => exact absurd rfl hform.left
    | token htoken => exact absurd htoken (hform.right _)
    | aliasName _ hallocated => exact Or.inl ⟨hallocated, rfl⟩
    | name _ hfree hname => exact Or.inr ⟨hfree, hname⟩
  · intro h
    rcases h with ⟨hallocated, rfl⟩ | ⟨hfree, hname⟩
    · exact Denotes.aliasName hform hallocated
    · exact Denotes.name hform hfree hname

/-- A text has one form only, and so denotes at most one subnet. -/
theorem Denotes.unique {other : String} (h : d.Denotes owner text aliasName)
    (hother : d.Denotes owner text other) : aliasName = other := by
  cases h with
  | self =>
      exact (denotes_self_iff.mp hother).symm
  | token htoken halias =>
      rw [denotes_token_iff htoken, halias, Option.some.injEq] at hother
      exact hother
  | aliasName hform hallocated =>
      rcases (denotes_unmarked_iff hform).mp hother with ⟨_, hsame⟩ | ⟨hfree, _⟩
      · exact hsame.symm
      · cases hallocated.symm.trans hfree
  | name hform hfree hname =>
      rcases (denotes_unmarked_iff hform).mp hother with ⟨hallocated, _⟩ | ⟨_, hsame⟩
      · cases hfree.symm.trans hallocated
      · exact Option.some.inj (hname.symm.trans hsame)

/-!
## Resolution
-/

theorem subnetOr_cases (alias? : Option String) (text : String) :
    (exists found block, d.subnetOr alias? text = .subnet found block) ∨
      d.subnetOr alias? text = .unresolved text := by
  unfold subnetOr
  split
  · exact Or.inr rfl
  · split
    · exact Or.inl ⟨_, _, rfl⟩
    · exact Or.inr rfl

theorem subnetMeant_cases (text owner : String) :
    (exists found block, d.subnetMeant text owner = .subnet found block) ∨
      d.subnetMeant text owner = .unresolved text := by
  unfold subnetMeant
  split
  · exact subnetOr_cases _ _
  · split <;> exact subnetOr_cases _ _

/-- An alias or name that is looked up is the one that is denoted, if that has its block. -/
theorem lookup_denotes_iff (hform : Unmarked text) (hblock : d.blockOf aliasName = some block) :
    d.lookup text = some aliasName ↔ d.Denotes owner text aliasName := by
  have hallocated : d.isAllocated aliasName = true :=
    isAllocated_iff_blockOf.mpr ⟨block, hblock⟩
  rw [lookup_eq_some_iff, denotes_unmarked_iff hform, and_iff_right hallocated]
  constructor
  · intro h
    rcases h with rfl | hname
    · exact Or.inl ⟨hallocated, rfl⟩
    · exact Or.inr hname
  · intro h
    rcases h with ⟨_, rfl⟩ | hname
    · exact Or.inl rfl
    · exact Or.inr hname

theorem subnetMeant_eq_subnet_iff :
    d.subnetMeant text owner = .subnet aliasName block ↔
      d.Denotes owner text aliasName ∧ d.blockOf aliasName = some block := by
  unfold subnetMeant
  by_cases hself : text = selfToken
  · rw [if_pos hself, subnetOr_eq_subnet_iff, hself, denotes_self_iff, Option.some.injEq, eq_comm]
  · rw [if_neg hself]
    cases hreference : tokenReference? text with
    | some token =>
        rw [subnetOr_eq_subnet_iff, denotes_token_iff (tokenReference?_eq_some_iff.mp hreference)]
    | none =>
        rw [subnetOr_eq_subnet_iff]
        exact and_congr_left
          (lookup_denotes_iff ⟨hself, tokenReference?_eq_none_iff.mp hreference⟩)

theorem subnetMeant_eq_unresolved_iff {cited : String} :
    d.subnetMeant text owner = .unresolved cited ↔
      cited = text ∧ forall aliasName, d.Denotes owner text aliasName -> d.blockOf aliasName = none := by
  constructor
  · intro h
    rcases subnetMeant_cases text owner with ⟨found, block, hsubnet⟩ | hunresolved
    · cases hsubnet.symm.trans h
    · refine ⟨(Reference.unresolved.inj (hunresolved.symm.trans h)).symm, ?_⟩
      intro aliasName hdenotes
      rw [Option.eq_none_iff_forall_ne_some]
      intro block hblock
      cases (subnetMeant_eq_subnet_iff.mpr ⟨hdenotes, hblock⟩).symm.trans h
  · intro h
    rcases h with ⟨hcited, hnone⟩
    rcases subnetMeant_cases text owner with ⟨found, block, hsubnet⟩ | hunresolved
    · rcases subnetMeant_eq_subnet_iff.mp hsubnet with ⟨hdenotes, hblock⟩
      cases (hnone found hdenotes).symm.trans hblock
    · rw [hcited]
      exact hunresolved

/-- Every reference falls into one of three classes, in this order of precedence. -/
theorem resolve_cases (d : Directory) (token owner : String) :
    (Text.trim token = anyToken ∧ d.resolve token owner = .any) ∨
      (Text.trim token ≠ anyToken ∧ d.StandsForItself (Text.trim token) ∧
        d.resolve token owner = .literal (Text.trim token)) ∨
      (Text.trim token ≠ anyToken ∧ ¬ d.StandsForItself (Text.trim token) ∧
        d.resolve token owner = d.subnetMeant (Text.trim token) owner) := by
  by_cases hany : Text.trim token = anyToken
  · exact Or.inl ⟨hany, if_pos hany⟩
  · by_cases hitself : d.StandsForItself (Text.trim token)
    · have hliteral : (Block.isAddressOrNetwork (Text.trim token) ||
          d.serviceTags.contains (Text.trim token)) = true := by
        rw [Bool.or_eq_true, List.contains_iff_mem]
        exact hitself
      refine Or.inr (Or.inl ⟨hany, hitself, ?_⟩)
      rw [resolve, if_neg hany, if_pos hliteral]
    · have hneither := hitself
      rw [StandsForItself, not_or, Bool.not_eq_true] at hneither
      exact Or.inr (Or.inr ⟨hany, hitself,
        resolve_eq_subnetMeant hany hneither.left hneither.right owner⟩)

section Resolve

variable {token : String}

theorem resolve_eq_any_iff : d.resolve token owner = .any ↔ Text.trim token = anyToken := by
  rcases d.resolve_cases token owner with ⟨hany, heq⟩ | ⟨hany, _, heq⟩ | ⟨hany, _, heq⟩
  · simp [hany, heq]
  · simp [hany, heq]
  · rcases subnetMeant_cases (d := d) (Text.trim token) owner with ⟨_, _, hmeant⟩ | hmeant <;>
      simp [hany, heq, hmeant]

theorem resolve_eq_literal_iff :
    d.resolve token owner = .literal text ↔
      Text.trim token ≠ anyToken ∧ d.StandsForItself (Text.trim token) ∧
        text = Text.trim token := by
  rcases d.resolve_cases token owner with ⟨hany, heq⟩ | ⟨hany, hitself, heq⟩ | ⟨hany, hitself, heq⟩
  · simp [hany, heq]
  · simp [hany, hitself, heq, eq_comm]
  · rcases subnetMeant_cases (d := d) (Text.trim token) owner with ⟨_, _, hmeant⟩ | hmeant <;>
      simp [hitself, heq, hmeant]

theorem resolve_eq_subnet_iff :
    d.resolve token owner = .subnet aliasName block ↔
      Text.trim token ≠ anyToken ∧ ¬ d.StandsForItself (Text.trim token) ∧
        d.Denotes owner (Text.trim token) aliasName ∧ d.blockOf aliasName = some block := by
  rcases d.resolve_cases token owner with ⟨hany, heq⟩ | ⟨hany, hitself, heq⟩ | ⟨hany, hitself, heq⟩
  · simp [hany, heq]
  · simp [hitself, heq]
  · simp [hany, hitself, heq, subnetMeant_eq_subnet_iff]

theorem resolve_eq_unresolved_iff :
    d.resolve token owner = .unresolved text ↔
      Text.trim token ≠ anyToken ∧ ¬ d.StandsForItself (Text.trim token) ∧
        text = Text.trim token ∧
        forall aliasName, d.Denotes owner (Text.trim token) aliasName ->
          d.blockOf aliasName = none := by
  rcases d.resolve_cases token owner with ⟨hany, heq⟩ | ⟨hany, hitself, heq⟩ | ⟨hany, hitself, heq⟩
  · simp [hany, heq]
  · simp [hitself, heq]
  · simp [hany, hitself, heq, subnetMeant_eq_unresolved_iff]

end Resolve

/-- What a reference resolves to.  The mark of every address comes first, then what stands for
itself, whatever subnets there are and whoever asks, and then the block of the one subnet that the
text denotes; everything else is unresolved. -/
theorem resolve_precedence (d : Directory) (token owner : String) :
    (d.resolve token owner = .any ↔ Text.trim token = anyToken) ∧
    (forall text, d.resolve token owner = .literal text ↔
      Text.trim token ≠ anyToken ∧ d.StandsForItself (Text.trim token) ∧
        text = Text.trim token) ∧
    (forall (other : Directory) asker text, other.serviceTags = d.serviceTags ->
      (other.resolve token asker = .literal text ↔ d.resolve token owner = .literal text)) ∧
    (forall aliasName block, d.resolve token owner = .subnet aliasName block ↔
      Text.trim token ≠ anyToken ∧ ¬ d.StandsForItself (Text.trim token) ∧
        d.Denotes owner (Text.trim token) aliasName ∧ d.blockOf aliasName = some block) ∧
    (forall text, d.resolve token owner = .unresolved text ↔
      Text.trim token ≠ anyToken ∧ ¬ d.StandsForItself (Text.trim token) ∧
        text = Text.trim token ∧
        forall aliasName, d.Denotes owner (Text.trim token) aliasName ->
          d.blockOf aliasName = none) ∧
    (forall aliasName other, d.Denotes owner (Text.trim token) aliasName ->
      d.Denotes owner (Text.trim token) other -> aliasName = other) := by
  refine ⟨resolve_eq_any_iff, fun _ => resolve_eq_literal_iff, ?_,
    fun _ _ => resolve_eq_subnet_iff, fun _ => resolve_eq_unresolved_iff,
    fun _ _ => Denotes.unique⟩
  intro other asker text htags
  rw [resolve_eq_literal_iff, resolve_eq_literal_iff, StandsForItself, StandsForItself, htags]

/-- The owner without a block is not looked up as an alias, even where a subnet goes by its mark. -/
example : (ofSubnets [] [⟨"snet-self", selfToken, Block.ofNetwork 0 24⟩]).resolve selfToken "jump" =
    .unresolved selfToken := by
  rfl

end Directory
end NetworkPlan
