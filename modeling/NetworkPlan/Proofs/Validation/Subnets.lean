import NetworkPlan.Proofs.Document.Subnets
import NetworkPlan.Proofs.Validation.Checks
import NetworkPlan.Validation.Subnets
import Mathlib.Data.List.ReduceOption

/-!
# A subnet document without findings

The check of the definitions notes every name, alias and token it meets, trimmed, and the typed
reader takes the same texts as they are given.  One definition is one step; what a whole run knows
is that the texts noted are new and differ from each other.
-/

namespace NetworkPlan

namespace Validation

open Checked

/-!
## One value
-/

/-- A value, if there is one, was not seen before and is seen from now on. -/
inductive Noted (seen : Entries Nat) : Option String -> Entries Nat -> Prop
  | nothing : Noted seen none seen
  | new {value : String} (index : Nat) (hnew : seen.get? value = none) :
      Noted seen (some value) (seen.put value index)

/-- Values that are all different and not among those seen before. -/
structure Fresh (seen : Entries Nat) (values : List (Option String)) : Prop where
  nodup : values.reduceOption.Nodup
  unseen : forall value, value ∈ values.reduceOption -> seen.get? value = none

theorem checkNew_eq_pure {seen seen' : Entries Nat} {path kind : String} {index : Nat}
    {value : Option String} (h : checkNew seen path kind index value = pure seen') :
    Noted seen value seen' := by
  cases value with
  | none =>
      rw [checkNew, pure_eq_pure] at h
      rw [← h]
      exact Noted.nothing
  | some v =>
      rw [checkNew] at h
      split at h
      next => exact absurd h report_bind_ne_pure
      next hnew =>
        rw [← pure_eq_pure.mp h]
        exact Noted.new index hnew

/-- A value that is noted before fresh values is fresh together with them. -/
theorem Fresh.cons {seen seen' : Entries Nat} {value : Option String}
    {values : List (Option String)} (hnoted : Noted seen value seen')
    (hfresh : Fresh seen' values) : Fresh seen (value :: values) := by
  cases hnoted with
  | nothing =>
      exact ⟨hfresh.nodup, hfresh.unseen⟩
  | @new v index hnew =>
      have hunseen : forall w, w ∈ values.reduceOption -> v ≠ w ∧ seen.get? w = none := by
        intro w hw
        have hput := hfresh.unseen w hw
        rw [Entries.get?_put] at hput
        split at hput
        next => cases hput
        next hne => exact And.intro hne hput
      constructor
      · rw [List.reduceOption_cons_of_some, List.nodup_cons]
        exact And.intro (fun hmem => (hunseen v hmem).left rfl) hfresh.nodup
      · rw [List.reduceOption_cons_of_some]
        exact List.forall_mem_cons.mpr ⟨hnew, fun w hw => (hunseen w hw).right⟩

theorem fresh_nil (seen : Entries Nat) : Fresh seen [] :=
  ⟨List.nodup_nil, fun _ hmem => absurd hmem List.not_mem_nil⟩

/-!
## One definition
-/

theorem checkIdentifier_eq_pure {entry : Section} {key : String} {t? : Option String}
    (h : checkIdentifier entry key = pure t?) :
    (entry.get? key = none ∧ t? = none) ∨
      exists text t, entry.get? key = some (.string text) ∧ Text.nonBlank? text = some t ∧
        t? = some t := by
  unfold checkIdentifier at h
  split at h
  next hget =>
    exact Or.inl ⟨hget, (pure_eq_pure.mp h).symm⟩
  next text hget =>
    split at h
    next t htext =>
      exact Or.inr ⟨text, t, hget, htext, (pure_eq_pure.mp h).symm⟩
    next =>
      exact absurd h missing_ne_pure
  next =>
    exact absurd h missing_ne_pure

/-- An identifier that is there is checked as the trimmed form of what is read. -/
theorem checkIdentifier_reads {path key : String} {members : List (String × Json)}
    {t? text? : Option String} (h : checkIdentifier ⟨path, some members⟩ key = pure t?)
    (hread : forall value, Entries.get? key members = some value ->
      Decoder.Reads (.option .string) value text?) :
    (Entries.get? key members = none ∧ t? = none) ∨
      exists text, text? = some text ∧ t? = some (Text.trim text) := by
  rcases checkIdentifier_eq_pure h with hnone | ⟨text, t, hget, ht, ht?⟩
  · exact Or.inl hnone
  · have htext := hread _ hget
    rw [Decoder.reads_option] at htext
    rcases htext with ⟨hnull, _⟩ | ⟨_, text', htext', hsome⟩
    · cases hnull
    · rw [Decoder.reads_string, Json.string.injEq] at htext'
      rw [(Text.nonBlank?_eq_some_iff.mp ht).left.symm] at ht?
      exact Or.inr ⟨text, by rw [← hsome, htext'], ht?⟩

section Definition

variable {path : String} {members : List (String × Json)} {d : SubnetDescription}

theorem nonBlank_name {name? : Option String}
    (hread : SubnetDescription.record.decode.Reads (.object members) d)
    (h : (⟨path, some members⟩ : Section).nonBlank "name" = pure name?) :
    name? = some (Text.trim d.name) := by
  rcases Section.nonBlank_eq_pure.mp h with ⟨text, t, hget, ht, hname⟩
  have htext := SubnetDescription.field_name.reads_part hread (by simp) hget
  rw [Decoder.reads_string, Json.string.injEq] at htext
  rw [← hname, ← htext, (Text.nonBlank?_eq_some_iff.mp ht).left]

theorem checkIdentifier_alias {alias? : Option String}
    (hread : SubnetDescription.record.decode.Reads (.object members) d)
    (h : checkIdentifier ⟨path, some members⟩ "alias" = pure alias?) :
    alias? = d.aliasName.map Text.trim := by
  have hfield := SubnetDescription.field_aliasName
  rcases checkIdentifier_reads h (fun _ => hfield.reads_part hread (by simp)) with
    ⟨habsent, rfl⟩ | ⟨text, htext, rfl⟩
  · rw [hfield.part_of_absent hread (List.forall_mem_singleton.mpr habsent)]
    rfl
  · rw [htext]
    rfl

/-- Whichever name the token is given under, it is the one that is read. -/
theorem checkIdentifier_token {rule? legacy? : Option String}
    (hread : SubnetDescription.record.decode.Reads (.object members) d)
    (hrule : checkIdentifier ⟨path, some members⟩ "nsg-rule" = pure rule?)
    (hlegacy : checkIdentifier ⟨path, some members⟩ "legacyToken" = pure legacy?) :
    rule?.or legacy? = d.legacyToken.map Text.trim := by
  have hfield := SubnetDescription.field_legacyToken
  rcases checkIdentifier_reads hrule (fun _ => hfield.reads_part hread (by simp)) with
    ⟨hnoRule, rfl⟩ | ⟨text, htext, rfl⟩
  · rcases checkIdentifier_reads hlegacy (fun _ => hfield.reads_part hread (by simp)) with
      ⟨hnoLegacy, rfl⟩ | ⟨text, htext, rfl⟩
    · have habsent : forall key, key ∈ ["nsg-rule", "legacyToken"] ->
          Entries.get? key members = none :=
        List.forall_mem_cons.mpr ⟨hnoRule, List.forall_mem_singleton.mpr hnoLegacy⟩
      rw [hfield.part_of_absent hread habsent]
      rfl
    · rw [htext]
      rfl
  · rw [htext]
    rfl

theorem int_prefixLength {length? : Option Int} {problemPath : String}
    (hread : SubnetDescription.record.decode.Reads (.object members) d)
    (h : (⟨path, some members⟩ : Section).int "prefixLength" = pure length?)
    (hrange : Checked.inRange length? problemPath leastPrefixLength greatestPrefixLength =
      pure ()) :
    8 ≤ d.prefixLength ∧ d.prefixLength ≤ 29 := by
  rcases Section.int_eq_pure.mp h with ⟨n, hget, _, rfl⟩
  have hbounds := Checked.inRange_eq_pure.mp hrange n rfl
  have hlength := SubnetDescription.field_prefixLength.reads_part hread (by simp) hget
  rw [Decoder.byte, Decoder.reads_natural, Json.ofNat, Json.number.injEq,
    Number.integer.injEq] at hlength
  rw [hlength.right, leastPrefixLength, greatestPrefixLength] at hbounds
  omega

/-- The alias that is noted is the one that the description goes by. -/
theorem trim_effectiveAlias (d : SubnetDescription) :
    ((d.aliasName.map Text.trim).or (d.legacyToken.map Text.trim)).or
      (some (Text.trim d.name)) = some (Text.trim d.effectiveAlias) := by
  unfold SubnetDescription.effectiveAlias
  cases d.aliasName <;> cases d.legacyToken <;> rfl

/-- A description is of a size in bounds, and its identifiers are noted, trimmed. -/
structure Passed (seen : SeenNames) (d : SubnetDescription) (seen' : SeenNames) : Prop where
  prefixLength : 8 ≤ d.prefixLength ∧ d.prefixLength ≤ 29
  name : Noted seen.names (some (Text.trim d.name)) seen'.names
  aliasName : Noted seen.aliases (some (Text.trim d.effectiveAlias)) seen'.aliases
  legacyToken : Noted seen.tokens (d.legacyToken.map Text.trim) seen'.tokens

theorem checkDefinition_eq_pure {seen seen' : SeenNames} {index : Nat}
    (hread : SubnetDescription.record.decode.Reads (.object members) d)
    (h : checkDefinition seen ⟨path, some members⟩ index = pure seen') : Passed seen d seen' := by
  simp only [checkDefinition, bind_eq_pure, pure_eq_pure] at h
  rcases h with ⟨name?, hname, length?, hlength, _, hrange, alias?, halias, rule?, hrule,
    legacy?, hlegacy, names, hnames, aliases, haliases, tokens, htokens, rfl⟩
  rw [nonBlank_name hread hname] at hnames haliases
  rw [checkIdentifier_alias hread halias, checkIdentifier_token hread hrule hlegacy,
    trim_effectiveAlias] at haliases
  rw [checkIdentifier_token hread hrule hlegacy] at htokens
  exact ⟨int_prefixLength hread hlength hrange, checkNew_eq_pure hnames,
    checkNew_eq_pure haliases, checkNew_eq_pure htokens⟩

end Definition

/-- The members that a definition is read from are of the types that they are read at. -/
structure DefinitionShaped (members : List (String × Json)) : Prop where
  name : exists text, Entries.get? "name" members = some (.string text)
  prefixLength : exists n, n < 256 ∧ Entries.get? "prefixLength" members = some (Json.ofNat n)
  identifiers : forall key, key ∈ ["alias", "nsg-rule", "legacyToken"] ->
    forall value, Entries.get? key members = some value -> exists text, value = .string text

theorem identifier_of_check {path key : String} {members : List (String × Json)}
    {t? : Option String} (h : checkIdentifier ⟨path, some members⟩ key = pure t?) {value : Json}
    (hget : Entries.get? key members = some value) : exists text, value = .string text := by
  rcases checkIdentifier_eq_pure h with ⟨hnone, _⟩ | ⟨text, _, htext, _⟩
  · cases hnone.symm.trans hget
  · exact ⟨text, Option.some.inj (hget.symm.trans htext)⟩

theorem shaped_of_checkDefinition {path : String} {members : List (String × Json)}
    {seen seen' : SeenNames} {index : Nat}
    (h : checkDefinition seen ⟨path, some members⟩ index = pure seen') :
    DefinitionShaped members := by
  simp only [checkDefinition, bind_eq_pure] at h
  rcases h with ⟨name?, hname, length?, hlength, _, hrange, alias?, halias, rule?, hrule,
    legacy?, hlegacy, _⟩
  rcases Section.nonBlank_eq_pure.mp hname with ⟨name, _, hgetName, _⟩
  rcases Section.int_eq_pure.mp hlength with ⟨n, hgetLength, _, rfl⟩
  have hbounds := Checked.inRange_eq_pure.mp hrange n rfl
  rw [leastPrefixLength, greatestPrefixLength] at hbounds
  have hnat : Json.ofNat n.toNat = .number (.integer n) := by
    rw [Json.ofNat, Int.toNat_of_nonneg (by omega)]
  refine ⟨⟨name, hgetName⟩, ⟨n.toNat, by omega, hgetLength.trans (congrArg some hnat.symm)⟩, ?_⟩
  simp only [List.forall_mem_cons, List.not_mem_nil, false_imp_iff, implies_true, and_true]
  exact ⟨fun _ => identifier_of_check halias, fun _ => identifier_of_check hrule,
    fun _ => identifier_of_check hlegacy⟩

/-!
## All definitions
-/

/-- Descriptions are of sizes in bounds, and their identifiers are new and differ when trimmed. -/
structure AllPassed (seen : SeenNames) (descriptions : List SubnetDescription) : Prop where
  prefixLength : forall d, d ∈ descriptions -> 8 ≤ d.prefixLength ∧ d.prefixLength ≤ 29
  names : Fresh seen.names (descriptions.map fun d => some (Text.trim d.name))
  aliases : Fresh seen.aliases (descriptions.map fun d => some (Text.trim d.effectiveAlias))
  tokens : Fresh seen.tokens (descriptions.map fun d => d.legacyToken.map Text.trim)

theorem allPassed_nil (seen : SeenNames) : AllPassed seen [] :=
  ⟨fun _ hmem => absurd hmem List.not_mem_nil, fresh_nil _, fresh_nil _, fresh_nil _⟩

theorem AllPassed.cons {seen seen' : SeenNames} {d : SubnetDescription}
    {descriptions : List SubnetDescription} (hpassed : Passed seen d seen')
    (hrest : AllPassed seen' descriptions) : AllPassed seen (d :: descriptions) :=
  ⟨List.forall_mem_cons.mpr ⟨hpassed.prefixLength, hrest.prefixLength⟩,
    hrest.names.cons hpassed.name, hrest.aliases.cons hpassed.aliasName,
    hrest.tokens.cons hpassed.legacyToken⟩

theorem checkDefinitions_eq_pure {seen : SeenNames} {index : Nat} {items : List Json}
    {descriptions : List SubnetDescription}
    (hread : List.Forall₂ SubnetDescription.record.decode.Reads items descriptions)
    (h : checkDefinitions seen index items = pure ()) : AllPassed seen descriptions := by
  induction hread generalizing seen index with
  | nil =>
      exact allPassed_nil seen
  | @cons item d rest descriptions hitem _ ih =>
      rw [checkDefinitions, bind_eq_pure] at h
      rcases h with ⟨entry, helement, h⟩
      rcases Section.element_eq_pure.mp helement with ⟨members, rfl, rfl⟩
      simp only [Section.isObject, Option.isSome_some, if_true, bind_eq_pure] at h
      rcases h with ⟨seen', hdefinition, hrest⟩
      exact AllPassed.cons (checkDefinition_eq_pure hitem hdefinition) (ih hrest)

theorem shaped_of_checkDefinitions {seen : SeenNames} {index : Nat} {items : List Json}
    (h : checkDefinitions seen index items = pure ()) {item : Json} (hitem : item ∈ items) :
    exists members, item = .object members ∧ DefinitionShaped members := by
  induction items generalizing seen index with
  | nil =>
      cases hitem
  | cons first rest ih =>
      rw [checkDefinitions, bind_eq_pure] at h
      rcases h with ⟨entry, helement, h⟩
      rcases Section.element_eq_pure.mp helement with ⟨members, rfl, rfl⟩
      simp only [Section.isObject, Option.isSome_some, if_true, bind_eq_pure] at h
      rcases h with ⟨seen', hdefinition, hrest⟩
      rcases List.mem_cons.mp hitem with rfl | hlater
      · exact ⟨members, rfl, shaped_of_checkDefinition hdefinition⟩
      · exact ih hrest hlater

/-- The subnet document is an object whose definitions pass their check. -/
theorem checkSubnets_eq_pure {doc : Json} (h : checkSubnets doc = pure ()) :
    exists members items, doc = .object members ∧
      Entries.get? "subnetDefinitions" members = some (.array items) ∧
      checkDefinitions ⟨[], [], []⟩ 0 items = pure () := by
  cases doc with
  | object members =>
      simp only [checkSubnets, Section.root, Section.isObject, Option.isSome_some, if_true,
        bind_eq_pure, Section.array_eq_pure] at h
      rcases h with ⟨_, ⟨items, hget, rfl⟩, hitems⟩
      cases items with
      | nil =>
          exact absurd hitems report_ne_pure
      | cons item rest =>
          exact ⟨members, item :: rest, rfl, hget, hitems⟩
  | _ =>
      exact absurd h report_ne_pure

end Validation
end NetworkPlan
