import NetworkPlan.Proofs.Security.Description
import NetworkPlan.Proofs.Subnet.Identifiers

/-!
# Selectors

A selector gives one address: the one outside that it names, or else the block of its subnet.  A
directory knows the selectors that a document declares and one more, which a declared selector of
that name hides.
-/

namespace NetworkPlan

theorem lastSome?_cons {α β : Type} (f : α → Option β) (x : α) (xs : List α) :
    lastSome? f (x :: xs) = (lastSome? f xs).or (f x) := by
  rw [lastSome?, List.reverse_cons, List.findSome?_append, List.findSome?_singleton]
  rfl

/-- The selector that a document declares under a name; of several under one name the last
counts. -/
def SecurityDocument.declared? (doc : SecurityDocument) (name : String) : Option Selector :=
  lastSome? (fun entry => if entry.fst = name then some entry.snd else none) doc.selectors

/-- The address that a selector gives: what it names outside, without the blanks around it, or, if
that is blank or left out, the block of the subnet it falls back to. -/
inductive Selector.Yields (selector : Selector) (subnets : List Subnet) : String -> Prop
  | outside {text : String} (hgiven : selector.overrideIp = some text)
      (hblank : Text.trim text ≠ "") : Yields selector subnets (Text.trim text)
  | inside {s : Subnet}
      (hblank : forall text, selector.overrideIp = some text -> Text.trim text = "")
      (hs : s ∈ subnets) (halias : s.aliasName = selector.fallbackSubnet) :
      Yields selector subnets s.block.toText

namespace Selector

variable {selector : Selector} {subnets : List Subnet} {address : String}

theorem yields_outside_iff {ip : String}
    (hip : selector.overrideIp.bind Text.nonBlank? = some ip) :
    selector.Yields subnets address ↔ address = ip := by
  rcases Option.bind_eq_some_iff.mp hip with ⟨text, hgiven, hblank⟩
  rcases Text.nonBlank?_eq_some_iff.mp hblank with ⟨rfl, hne⟩
  constructor
  · intro h
    cases h with
    | outside hgiven' _ =>
        rw [hgiven, Option.some.injEq] at hgiven'
        rw [hgiven']
    | inside hblank' _ _ =>
        exact absurd (hblank' text hgiven) hne
  · intro h
    rw [h]
    exact Yields.outside hgiven hne

theorem yields_inside_iff
    (hip : selector.overrideIp.bind Text.nonBlank? = none) :
    selector.Yields subnets address ↔
      exists s, s ∈ subnets ∧ s.aliasName = selector.fallbackSubnet ∧
        address = s.block.toText := by
  have hblank : forall text, selector.overrideIp = some text -> Text.trim text = "" := by
    intro text hgiven
    by_contra hne
    rw [hgiven, Option.bind_some, Text.nonBlank?_eq_some_iff.mpr ⟨rfl, hne⟩] at hip
    cases hip
  constructor
  · intro h
    cases h with
    | outside hgiven hne =>
        exact absurd (hblank _ hgiven) hne
    | inside _ hs halias =>
        exact ⟨_, hs, halias, rfl⟩
  · intro h
    rcases h with ⟨s, hs, halias, rfl⟩
    exact Yields.inside hblank hs halias

end Selector

/-- The selector applies to the rule: it is given, and the rule is not outbound without a source. -/
def RuleDescription.Selects (r : RuleDescription) (name : String) : Prop :=
  r.sourceSelector = some name ∧ ¬ (r.IsOutbound ∧ r.source = none)

theorem RuleDescription.effectiveSelector_eq_some_iff {r : RuleDescription} {name : String} :
    r.effectiveSelector = some name ↔ r.Selects name := by
  rw [effectiveSelector_eq, Selects]
  by_cases hleaves : r.IsOutbound ∧ r.source = none
  · simp [hleaves]
  · rw [if_neg hleaves, and_iff_left hleaves]

theorem Entries.get?_putAll {α : Type} (key : String) (entries added : Entries α) :
    get? key (putAll entries added) =
      (lastSome? (fun entry => if entry.fst = key then some entry.snd else none) added).or
        (get? key entries) := by
  induction added generalizing entries with
  | nil =>
      rfl
  | cons entry rest ih =>
      have hput : putAll entries (entry :: rest) = putAll (put entry.fst entry.snd entries) rest :=
        rfl
      rw [hput, ih, get?_put, lastSome?_cons, Option.or_assoc]
      by_cases hkey : entry.fst = key
      · rw [if_pos hkey, if_pos hkey, Option.some_or]
      · rw [if_neg hkey, if_neg hkey, Option.none_or]

namespace Directory

variable {d : Directory} {name address : String}

theorem get?_selectors_build {settings : Settings} {doc : SecurityDocument}
    {requests : List SubnetRequest} {subnets : List Subnet} :
    (build settings doc requests subnets).selectors.get? name =
      (doc.declared? name).or
        (if name = bastionSelector then some ⟨settings.sharedBastionIp?, bastionAlias⟩
          else none) := by
  rw [build_eq, Entries.get?_putAll, Entries.get?, Entries.get?_nil]
  congr 1
  by_cases hname : bastionSelector = name
  · rw [if_pos hname, if_pos hname.symm]
  · rw [if_neg hname, if_neg (Ne.symm hname)]

theorem resolveSelector_eq_ok_iff (hnodup : (d.subnets.map (·.aliasName)).Nodup) :
    d.resolveSelector name = .ok address ↔
      exists selector, d.selectors.get? name = some selector ∧
        selector.Yields d.subnets address := by
  unfold resolveSelector
  cases hselector : d.selectors.get? name with
  | none =>
      simp
  | some selector =>
      simp only [Option.some.injEq, exists_eq_left']
      cases hip : selector.overrideIp.bind Text.nonBlank? with
      | some ip =>
          rw [Selector.yields_outside_iff hip, Except.ok.injEq]
          exact eq_comm
      | none =>
          rw [Selector.yields_inside_iff hip]
          cases hblock : d.blockOf selector.fallbackSubnet with
          | some block =>
              rcases (blockOf_eq_some_iff hnodup).mp hblock with ⟨s, hs, halias, rfl⟩
              constructor
              · intro h
                cases h
                exact ⟨s, hs, halias, rfl⟩
              · intro h
                rcases h with ⟨other, hother, hsame, rfl⟩
                rw [List.inj_on_of_nodup_map hnodup hother hs (hsame.trans halias.symm)]
          | none =>
              simp only [reduceCtorEq, false_iff]
              intro h
              rcases h with ⟨s, hs, halias, _⟩
              rw [(blockOf_eq_some_iff hnodup).mpr ⟨s, hs, halias, rfl⟩] at hblock
              cases hblock

end Directory
end NetworkPlan
