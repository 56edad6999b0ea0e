import Mathlib.Data.List.Nodup
import NetworkPlan.Proofs.Text.Trim
import NetworkPlan.Subnet.Directory

/-!
# What a directory gives

A reference becomes the text of an address: every address, a text that stands for itself, or the
text of a subnet's block.  These lemmas say which of them, and from which entry of the directory
it comes, so that nobody has to look into the searches again.
-/

namespace NetworkPlan

theorem exists_of_lastSome? {α β : Type} {f : α → Option β} {xs : List α} {b : β}
    (h : lastSome? f xs = some b) : exists a, a ∈ xs ∧ f a = some b := by
  rcases List.exists_of_findSome?_eq_some h with ⟨a, ha, hb⟩
  exact ⟨a, List.mem_reverse.mp ha, hb⟩

theorem lastSome?_isSome_iff {α β : Type} {f : α → Option β} {xs : List α} :
    (lastSome? f xs).isSome ↔ exists a, a ∈ xs ∧ (f a).isSome := by
  rw [lastSome?, List.findSome?_isSome_iff]
  simp only [List.mem_reverse]

/-- The last item with a value does not matter if every value is the same. -/
theorem lastSome?_eq_some {α β : Type} {f : α → Option β} {xs : List α} {a : α} {b : β}
    (ha : a ∈ xs) (hb : f a = some b)
    (hsame : forall other, other ∈ xs -> forall c, f other = some c -> c = b) :
    lastSome? f xs = some b := by
  have hsome : (lastSome? f xs).isSome := by
    rw [lastSome?_isSome_iff]
    exact ⟨a, ha, by rw [hb]; rfl⟩
  rcases Option.isSome_iff_exists.mp hsome with ⟨found, hfound⟩
  rcases exists_of_lastSome? hfound with ⟨other, hother, hvalue⟩
  rw [hfound, hsame other hother found hvalue]

section Keys

variable {α β γ : Type} [DecidableEq γ] {key : α → γ} {value : α → β} {xs : List α} {k : γ} {b : β}

theorem exists_of_lastSome?_key
    (h : lastSome? (fun x => if key x = k then some (value x) else none) xs = some b) :
    exists a, a ∈ xs ∧ key a = k ∧ value a = b := by
  rcases exists_of_lastSome? h with ⟨a, ha, hvalue⟩
  by_cases hkey : key a = k
  · rw [if_pos hkey, Option.some.injEq] at hvalue
    exact ⟨a, ha, hkey, hvalue⟩
  · rw [if_neg hkey] at hvalue
    cases hvalue

/-- If keys differ, the last item with a key is the only one. -/
theorem lastSome?_key_eq_some_iff (hnodup : (xs.map key).Nodup) :
    lastSome? (fun x => if key x = k then some (value x) else none) xs = some b ↔
      exists a, a ∈ xs ∧ key a = k ∧ value a = b := by
  constructor
  · exact exists_of_lastSome?_key
  · intro h
    rcases h with ⟨a, ha, rfl, rfl⟩
    refine lastSome?_eq_some ha (if_pos rfl) ?_
    intro other hother c hc
    split at hc
    case isTrue hkey =>
      rw [List.inj_on_of_nodup_map hnodup hother ha hkey, Option.some.injEq] at hc
      exact hc.symm
    case isFalse =>
      cases hc

end Keys

namespace Directory

variable {d : Directory}

/-!
## Blocks
-/

theorem blockOf_eq_some {aliasName : String} {block : Block}
    (h : d.blockOf aliasName = some block) :
    exists s, s ∈ d.subnets ∧ s.aliasName = aliasName ∧ s.block = block :=
  exists_of_lastSome?_key h

theorem isAllocated_iff {aliasName : String} :
    d.isAllocated aliasName = true ↔ exists s, s ∈ d.subnets ∧ s.aliasName = aliasName := by
  rw [isAllocated, blockOf, lastSome?_isSome_iff]
  refine exists_congr fun s => and_congr_right fun _ => ?_
  by_cases halias : s.aliasName = aliasName <;> simp [halias]

theorem isAllocated_iff_blockOf {aliasName : String} :
    d.isAllocated aliasName = true ↔ exists block, d.blockOf aliasName = some block :=
  Option.isSome_iff_exists

/-- If aliases differ, every subnet is found under its alias. -/
theorem blockOf_of_nodup (hnodup : (d.subnets.map (·.aliasName)).Nodup) {s : Subnet}
    (hs : s ∈ d.subnets) : d.blockOf s.aliasName = some s.block :=
  (lastSome?_key_eq_some_iff hnodup).mpr ⟨s, hs, rfl, rfl⟩

/-!
## Names
-/

/-- If names differ, every request is found under its name. -/
theorem aliasForName_eq_some_iff (hnodup : (d.requests.map (·.name)).Nodup)
    {name aliasName : String} :
    d.aliasForName name = some aliasName ↔
      exists r, r ∈ d.requests ∧ r.name = name ∧ r.aliasName = aliasName :=
  lastSome?_key_eq_some_iff hnodup

/-- A reference is an alias before it is a name. -/
theorem lookup_eq_some_iff {reference aliasName : String} :
    d.lookup reference = some aliasName ↔
      d.isAllocated aliasName = true ∧ (reference = aliasName ∨
        d.isAllocated reference = false ∧ d.aliasForName reference = some aliasName) := by
  unfold lookup
  cases hreference : d.isAllocated reference with
  | true =>
      rw [if_pos rfl, Option.some.injEq]
      constructor
      · intro h
        rw [← h]
        exact ⟨hreference, Or.inl rfl⟩
      · intro h
        rcases h with ⟨_, hsame | ⟨hfree, _⟩⟩
        · exact hsame
        · cases hfree
  | false =>
      rw [if_neg Bool.false_ne_true, Option.filter_eq_some_iff]
      constructor
      · intro h
        exact ⟨h.right, Or.inr ⟨rfl, h.left⟩⟩
      · intro h
        rcases h with ⟨hallocated, hsame | ⟨_, hname⟩⟩
        · rw [hsame, hallocated] at hreference
          cases hreference
        · exact ⟨hname, hallocated⟩

theorem lookup_of_isAllocated {aliasName : String} (h : d.isAllocated aliasName = true) :
    d.lookup aliasName = some aliasName :=
  if_pos h

/-!
## References
-/

theorem address?_subnetOr {aliasName : Option String} {text address : String}
    (h : (d.subnetOr aliasName text).address? = some address) :
    exists s, s ∈ d.subnets ∧ some s.aliasName = aliasName ∧ address = s.block.toText := by
  unfold subnetOr at h
  split at h
  next =>
    cases h
  next aliasName =>
    split at h
    next block hblock =>
      cases h
      rcases blockOf_eq_some hblock with ⟨s, hs, halias, rfl⟩
      exact ⟨s, hs, congrArg some halias, rfl⟩
    next =>
      cases h

theorem address?_resolve {text owner address : String}
    (h : (d.resolve text owner).address? = some address) :
    address = anyToken ∨ Block.isAddressOrNetwork address = true ∨ address ∈ d.serviceTags ∨
      exists s, s ∈ d.subnets ∧ address = s.block.toText := by
  have hsubnet : forall {aliasName text}, (d.subnetOr aliasName text).address? = some address ->
      exists s, s ∈ d.subnets ∧ address = s.block.toText := by
    intro aliasName text h
    rcases address?_subnetOr h with ⟨s, hs, _, haddress⟩
    exact ⟨s, hs, haddress⟩
  unfold resolve at h
  simp only at h
  split at h
  next =>
    cases h
    exact Or.inl rfl
  next =>
    split at h
    next hliteral =>
      cases h
      rw [Bool.or_eq_true, List.contains_iff_mem] at hliteral
      rcases hliteral with haddress | htag
      · exact Or.inr (Or.inl haddress)
      · exact Or.inr (Or.inr (Or.inl htag))
    next =>
      apply Or.inr
      apply Or.inr
      apply Or.inr
      split at h
      · exact hsubnet h
      · split at h
        · exact hsubnet h
        · exact hsubnet h

/-- An alias that nothing else can be taken for: it has no blanks around it, does not stand for
every address or for itself, and does not have the form of a token. -/
structure Plain (d : Directory) (aliasName : String) : Prop where
  trim_eq : Text.trim aliasName = aliasName
  ne_any : aliasName ≠ anyToken
  not_address : Block.isAddressOrNetwork aliasName = false
  not_tag : aliasName ∉ d.serviceTags
  not_token : tokenReference? aliasName = none

/-- A plain alias means the subnet with this alias, whoever asks. -/
theorem Plain.resolve_eq {aliasName : String} {block : Block} (h : d.Plain aliasName)
    (hblock : d.blockOf aliasName = some block) :
    d.resolve aliasName aliasName = .subnet aliasName block := by
  have hliteral : ¬ (Block.isAddressOrNetwork aliasName ||
      d.serviceTags.contains aliasName) = true := by
    rw [h.not_address, Bool.false_or, List.contains_iff_mem]
    exact h.not_tag
  have hallocated : d.isAllocated aliasName = true := by
    rw [isAllocated, hblock]
    rfl
  have hsubnet : forall text, d.subnetOr (some aliasName) text = .subnet aliasName block := by
    intro text
    simp only [subnetOr, hblock]
  unfold resolve
  simp only [h.trim_eq, if_neg h.ne_any, if_neg hliteral, h.not_token,
    lookup_of_isAllocated hallocated, hsubnet, ite_self]

/-!
## Selectors
-/

theorem resolveSelector_eq_ok {name address : String}
    (h : d.resolveSelector name = .ok address) :
    exists selector, d.selectors.get? name = some selector ∧
      (selector.overrideIp.bind Text.nonBlank? = some address ∨
        exists s, s ∈ d.subnets ∧ s.aliasName = selector.fallbackSubnet ∧
          address = s.block.toText) := by
  unfold resolveSelector at h
  split at h
  next => cases h
  next selector hselector =>
    refine ⟨selector, hselector, ?_⟩
    split at h
    next outside houtside =>
      cases h
      exact Or.inl houtside
    next =>
      split at h
      next block hblock =>
        cases h
        rcases blockOf_eq_some hblock with ⟨s, hs, halias, rfl⟩
        exact Or.inr ⟨s, hs, halias, rfl⟩
      next => cases h

/-!
## The directory of a plan
-/

section Build

variable {settings : Settings} {doc : SecurityDocument} {requests : List SubnetRequest}
  {subnets : List Subnet}

theorem foldl_addSelector (d : Directory) (added : Entries Selector) :
    added.foldl (fun d (name, selector) => d.addSelector name selector) d =
      { d with selectors := d.selectors.putAll added } := by
  induction added generalizing d with
  | nil =>
      rfl
  | cons entry rest ih =>
      rw [List.foldl_cons, ih]
      rfl

theorem build_eq : build settings doc requests subnets =
    ⟨requests, subnets, doc.serviceTags,
      Entries.putAll [(bastionSelector, ⟨settings.sharedBastionIp?, bastionAlias⟩)]
        doc.selectors⟩ := by
  rw [build, foldl_addSelector]
  rfl

@[simp] theorem build_subnets : (build settings doc requests subnets).subnets = subnets := by
  rw [build_eq]

@[simp] theorem build_requests :
    (build settings doc requests subnets).requests = requests := by
  rw [build_eq]

@[simp] theorem build_serviceTags :
    (build settings doc requests subnets).serviceTags = doc.serviceTags := by
  rw [build_eq]

theorem get?_build_selectors {name : String} {selector : Selector}
    (h : (build settings doc requests subnets).selectors.get? name = some selector) :
    (name, selector) ∈ doc.selectors ∨
      name = bastionSelector ∧ selector = ⟨settings.sharedBastionIp?, bastionAlias⟩ := by
  rw [build_eq] at h
  cases Entries.get?_putAll_eq_some h with
  | inl hdeclared =>
      exact Or.inl hdeclared
  | inr hbuiltIn =>
      by_cases hname : bastionSelector = name
      · rw [Entries.get?, if_pos hname, Option.some.injEq] at hbuiltIn
        exact Or.inr ⟨hname.symm, hbuiltIn.symm⟩
      · rw [Entries.get?, if_neg hname] at hbuiltIn
        cases hbuiltIn

end Build

end Directory
end NetworkPlan
