import NetworkPlan.Proofs.Validation.Members

/-!
# The subnet document, exactly

The check of a subnet document reports two sorts of findings: what is wrong with a definition on
its own, and identifiers that repeat.  The first sort is absent exactly if every definition is well
formed; the second is read off the reports of each kind of identifier.
-/

namespace NetworkPlan
namespace Validation

open Checked

/-- What a definition must be on its own. -/
structure WellDefined (item : Json) : Prop where
  object : exists members, item = .object members
  name : exists name, identifier? "name" item = some name
  prefixLength : exists n, item.get? "prefixLength" = some (.number (.integer n)) ∧
    8 ≤ n ∧ n ≤ 29
  optional : forall key, key ∈ ["alias", "nsg-rule", "legacyToken"] ->
    item.get? key = none ∨ exists text, identifier? key item = some text

/-- A finding says that an identifier repeats. -/
def IdentifierKind.IsDuplicate (kind : IdentifierKind) (f : Finding) : Prop :=
  s!"duplicate {kind.word} '".toList <+: f.problem.toList

instance (kind : IdentifierKind) (f : Finding) : Decidable (kind.IsDuplicate f) :=
  inferInstanceAs (Decidable (_ <+: _))

/-!
## The members of a definition
-/

def entryAt (index : Nat) (members : List (String × Json)) : Section :=
  ⟨s!"subnetDefinitions[{index}]", some members⟩

/-- What the check of a definition does before it looks for repeated identifiers. -/
def checkMembers (entry : Section) : Checked Unit := do
  let _ ← entry.nonBlank "name"
  let prefixLength ← entry.int "prefixLength"
  Checked.inRange prefixLength (entry.pathTo "prefixLength") leastPrefixLength greatestPrefixLength
  let _ ← checkIdentifier entry "alias"
  let _ ← checkIdentifier entry "nsg-rule"
  let _ ← checkIdentifier entry "legacyToken"

/-- What the check of the value at a position does before it looks for repeated identifiers. -/
def checkAlone (index : Nat) (item : Json) : Checked Unit :=
  match item with
  | .object members => checkMembers (entryAt index members)
  | _ => Checked.report s!"subnetDefinitions[{index}]" "must be an object"

section Members

variable {index : Nat} {members : List (String × Json)} {key : String}

theorem pathTo_entryAt :
    (entryAt index members).pathTo key = s!"subnetDefinitions[{index}].{key}" := by
  have hpath : s!"subnetDefinitions[{index}]" ≠ "" := by
    simp [toString, ← String.toList_inj]
  have hdot : "]" ++ ("." ++ key) = "]." ++ key := by
    rw [← String.append_assoc]
    rfl
  unfold entryAt Section.pathTo
  rw [if_neg hpath]
  simp only [toString, String.append_assoc]
  rw [hdot]

theorem checkIdentifier_eq (entry : Section) :
    checkIdentifier entry key =
      match entry.get? key, (entry.get? key).bind trimmed? with
      | none, _ => pure none
      | some _, some t => pure (some t)
      | some _, none => missing (entry.pathTo key) "must be a non-empty string when set" := by
  unfold checkIdentifier
  cases entry.get? key with
  | none =>
      rfl
  | some value =>
      cases value with
      | string text =>
          cases htext : Text.nonBlank? text <;> simp [trimmed?, htext]
      | _ =>
          rfl

theorem get?_entryAt :
    (entryAt index members).get? key = (Json.object members).get? key := rfl

theorem value_nonBlank :
    ((entryAt index members).nonBlank key).value = identifier? key (.object members) :=
  Section.value_nonBlank

theorem value_checkIdentifier :
    (checkIdentifier (entryAt index members) key).value = identifier? key (.object members) := by
  rw [checkIdentifier_eq, get?_entryAt, identifier?]
  cases (Json.object members).get? key with
  | none =>
      rfl
  | some value =>
      cases htext : (some value).bind trimmed? <;> rfl

theorem findSome?_or (f : String -> Option String) (a b : String) (rest : List String) :
    (a :: b :: rest).findSome? f = (f a).or ((b :: rest).findSome? f) := by
  cases hfa : f a <;> simp [hfa]

theorem of?_token (item : Json) :
    IdentifierKind.token.of? item =
      (identifier? "nsg-rule" item).or (identifier? "legacyToken" item) := by
  simp [IdentifierKind.of?, IdentifierKind.keys, findSome?_or]

theorem of?_aliasName (item : Json) :
    IdentifierKind.aliasName.of? item =
      ((identifier? "alias" item).or (IdentifierKind.token.of? item)).or
        (identifier? "name" item) := by
  simp [IdentifierKind.of?, IdentifierKind.keys, findSome?_or, Option.or_assoc]

theorem of?_name (item : Json) :
    IdentifierKind.name.of? item = identifier? "name" item := by
  simp [IdentifierKind.of?, IdentifierKind.keys]

variable {seen : SeenNames}

theorem findings_checkDefinition :
    (checkDefinition seen (entryAt index members) index).findings =
      (checkMembers (entryAt index members)).findings ++
        (IdentifierKind.name.check seen.names index (.object members)).findings ++
        (IdentifierKind.aliasName.check seen.aliases index (.object members)).findings ++
        (IdentifierKind.token.check seen.tokens index (.object members)).findings := by
  simp only [checkDefinition, checkMembers, findings_bind, findings_pure, value_nonBlank,
    value_checkIdentifier, pathTo_entryAt, IdentifierKind.check, IdentifierKind.place, of?_token,
    of?_aliasName, of?_name, IdentifierKind.word, List.append_assoc, List.append_nil]

theorem seen_checkDefinition (kind : IdentifierKind) :
    kind.seen (checkDefinition seen (entryAt index members) index).value =
      (kind.check (kind.seen seen) index (.object members)).value := by
  cases kind <;>
    simp only [checkDefinition, value_bind, value_pure, value_nonBlank,
      value_checkIdentifier, pathTo_entryAt, IdentifierKind.check, IdentifierKind.place, of?_token,
      of?_aliasName, of?_name, IdentifierKind.word, IdentifierKind.seen]

theorem exists_nonBlank_iff :
    (exists t?, (entryAt index members).nonBlank key = pure t?) ↔
      exists t, identifier? key (.object members) = some t := by
  simp only [eq_pure_iff, exists_and_right, exists_eq', true_and]
  exact Section.findings_nonBlank_eq_nil_iff

theorem exists_checkIdentifier_iff :
    (exists t?, checkIdentifier (entryAt index members) key = pure t?) ↔
      (Json.object members).get? key = none ∨
        exists t, identifier? key (.object members) = some t := by
  rw [checkIdentifier_eq, get?_entryAt, identifier?]
  cases (Json.object members).get? key with
  | none =>
      simp [pure_eq_pure]
  | some value =>
      cases (some value).bind trimmed? <;> simp [missing_ne_pure, pure_eq_pure]

theorem checkMembers_eq_pure_iff :
    checkMembers (entryAt index members) = pure () ↔ WellDefined (.object members) := by
  simp only [checkMembers, bind_eq_pure, Section.int_eq_pure, and_true]
  constructor
  · intro h
    rcases h with ⟨_, hname, _, ⟨n, hlength, _, rfl⟩, _, hrange, _, halias, _, hrule, _, hlegacy⟩
    constructor
    case object => exact ⟨members, rfl⟩
    case name => exact exists_nonBlank_iff.mp ⟨_, hname⟩
    case prefixLength => exact ⟨n, hlength, inRange_eq_pure.mp hrange n rfl⟩
    case optional =>
      simp only [List.forall_mem_cons, List.not_mem_nil, false_imp_iff, implies_true, and_true]
      exact ⟨exists_checkIdentifier_iff.mp ⟨_, halias⟩, exists_checkIdentifier_iff.mp ⟨_, hrule⟩,
        exists_checkIdentifier_iff.mp ⟨_, hlegacy⟩⟩
  · intro h
    rcases h with ⟨_, hname, ⟨n, hlength, hrange⟩, hoptional⟩
    rcases exists_nonBlank_iff.mpr hname with ⟨name?, hname⟩
    have hidentifier (key : String) (hkey : key ∈ ["alias", "nsg-rule", "legacyToken"]) :
        exists t?, checkIdentifier (entryAt index members) key = pure t? :=
      exists_checkIdentifier_iff.mpr (hoptional key hkey)
    rcases hidentifier "alias" (by simp) with ⟨alias?, halias⟩
    rcases hidentifier "nsg-rule" (by simp) with ⟨rule?, hrule⟩
    rcases hidentifier "legacyToken" (by simp) with ⟨legacy?, hlegacy⟩
    refine ⟨name?, hname, some n, ⟨n, hlength, ?_, rfl⟩, (), ?_, alias?, halias, rule?, hrule,
      legacy?, hlegacy⟩
    · exact Int.lt_of_le_of_lt hrange.right (by decide)
    · rw [inRange_eq_pure]
      intro v hv
      exact Option.some.inj hv ▸ hrange

end Members

/-!
## Two sorts of findings
-/

section Sorts

variable {α β : Type} {path problem : String} {index : Nat} {item : Json}

/-- No finding says that an identifier repeats: their texts begin with another character. -/
def Ordinary (x : Checked α) : Prop :=
  forall f, f ∈ x.findings -> f.problem.toList.head? ≠ some 'd'

theorem Ordinary.filter_eq_nil {x : Checked α} (h : Ordinary x) (kind : IdentifierKind) :
    x.findings.filter kind.IsDuplicate = [] := by
  rw [List.filter_eq_nil_iff]
  intro f hf hduplicate
  rcases of_decide_eq_true hduplicate with ⟨rest, hrest⟩
  refine h f hf ?_
  rw [← hrest]
  simp [toString]

@[simp] theorem ordinary_pure (a : α) : Ordinary (pure a : Checked α) := by
  intro f hf
  cases hf

@[simp] theorem ordinary_bind_iff {x : Checked α} {f : α -> Checked β} :
    Ordinary (x >>= f) ↔ Ordinary x ∧ Ordinary (f x.value) := by
  simp only [Ordinary, findings_bind, List.forall_mem_append]

@[simp] theorem ordinary_report_iff :
    Ordinary (report path problem) ↔ problem.toList.head? ≠ some 'd' := by
  simp [Ordinary]

@[simp] theorem ordinary_missing_iff :
    Ordinary (missing path problem : Checked (Option α)) ↔
      problem.toList.head? ≠ some 'd' := by
  simp [Ordinary, missing]

theorem ordinary_checkIdentifier {entry : Section} {key : String} :
    Ordinary (checkIdentifier entry key) := by
  unfold checkIdentifier
  split
  · exact ordinary_pure none
  · split <;> simp
  · simp

theorem ordinary_nonBlank {entry : Section} {key : String} : Ordinary (entry.nonBlank key) := by
  unfold Section.nonBlank
  split
  · split <;> simp
  · simp

theorem ordinary_int {entry : Section} {key : String} : Ordinary (entry.int key) := by
  unfold Section.int
  split
  · split <;> simp
  · simp

theorem ordinary_inRange {value : Option Int} {least greatest : Int} :
    Ordinary (inRange value path least greatest) := by
  unfold inRange
  split
  · split <;> simp [toString]
  · simp

theorem ordinary_checkAlone : Ordinary (checkAlone index item) := by
  unfold checkAlone checkMembers
  split <;>
    simp [ordinary_nonBlank, ordinary_int, ordinary_inRange, ordinary_checkIdentifier]

theorem isDuplicate_of_mem_check {kind kind' : IdentifierKind} {seen : Entries Nat} {f : Finding}
    (h : f ∈ (kind'.check seen index item).findings) : kind.IsDuplicate f ↔ kind = kind' := by
  cases hitem : kind'.of? item with
  | none =>
      rw [IdentifierKind.check_of_none hitem] at h
      cases h
  | some value =>
      cases hseen : seen.get? value with
      | none =>
          rw [IdentifierKind.findings_check_of_new hitem hseen] at h
          cases h
      | some j =>
          rw [IdentifierKind.findings_check_of_seen hitem hseen, List.mem_singleton] at h
          rw [h]
          cases kind <;> cases kind' <;>
            simp [IdentifierKind.IsDuplicate, IdentifierKind.word, toString]

end Sorts

/-!
## All definitions
-/

section Run

variable {index : Nat} {item : Json} {items rest : List Json} {seen : SeenNames}
  {kind : IdentifierKind}

theorem IdentifierKind.forall_iff {p : IdentifierKind -> Prop} :
    (forall kind, p kind) ↔ p name ∧ p aliasName ∧ p token := by
  constructor
  · intro h
    exact ⟨h name, h aliasName, h token⟩
  · intro h kind
    cases kind with
    | name => exact h.left
    | aliasName => exact h.right.left
    | token => exact h.right.right

theorem filter_check (kind' : IdentifierKind) (noted : Entries Nat) :
    (kind'.check noted index item).findings.filter kind.IsDuplicate =
      if kind = kind' then (kind'.check noted index item).findings else [] := by
  split
  next hsame =>
    rw [List.filter_eq_self]
    exact fun f hf => decide_eq_true ((isDuplicate_of_mem_check hf).mpr hsame)
  next hother =>
    rw [List.filter_eq_nil_iff]
    exact fun f hf hduplicate =>
      hother ((isDuplicate_of_mem_check hf).mp (of_decide_eq_true hduplicate))

/-- What the check of one definition reports about repeated identifiers. -/
def repeatedFindings (seen : SeenNames) (index : Nat) (item : Json) : List Finding :=
  (IdentifierKind.name.check seen.names index item).findings ++
    (IdentifierKind.aliasName.check seen.aliases index item).findings ++
    (IdentifierKind.token.check seen.tokens index item).findings

theorem filter_repeatedFindings :
    (repeatedFindings seen index item).filter kind.IsDuplicate =
      (kind.check (kind.seen seen) index item).findings := by
  simp only [repeatedFindings, List.filter_append, filter_check]
  cases kind <;> simp [IdentifierKind.seen]

theorem repeatedFindings_eq_nil_iff :
    repeatedFindings seen index item = [] ↔
      forall kind : IdentifierKind, (kind.check (kind.seen seen) index item).findings = [] := by
  simp [repeatedFindings, IdentifierKind.forall_iff, IdentifierKind.seen]

theorem repeatedFindings_of_none (h : forall kind : IdentifierKind, kind.of? item = none) :
    repeatedFindings seen index item = [] := by
  rw [repeatedFindings_eq_nil_iff]
  intro kind
  rw [IdentifierKind.check_of_none (h kind), findings_pure]

/-- One definition is checked alone and for each kind of identifier; every kind notes its own. -/
theorem checkDefinitions_cons (seen : SeenNames) (index : Nat) (item : Json) (rest : List Json) :
    exists seen', (forall kind : IdentifierKind,
        kind.seen seen' = (kind.check (kind.seen seen) index item).value) ∧
      (checkDefinitions seen index (item :: rest)).findings =
        (checkAlone index item).findings ++ repeatedFindings seen index item ++
          (checkDefinitions seen' (index + 1) rest).findings := by
  cases item with
  | object members =>
      refine ⟨_, seen_checkDefinition, ?_⟩
      have helement : Section.element "subnetDefinitions" index (.object members) =
          pure (entryAt index members) := rfl
      have hobject : (entryAt index members).isObject = true := rfl
      rw [checkDefinitions, helement, findings_bind, findings_pure, List.nil_append, value_pure,
        if_pos hobject, findings_bind, findings_checkDefinition, checkAlone, repeatedFindings]
      simp only [List.append_assoc]
  | _ =>
      -- What is not an object has no identifier of any kind, so nothing is noted.
      refine ⟨seen, fun kind => ?_, ?_⟩
      · rw [IdentifierKind.check_of_none (by cases kind <;> rfl), value_pure]
      · rw [repeatedFindings_of_none, List.append_nil]
        · rfl
        · intro kind
          cases kind <;> rfl

theorem filter_checkDefinitions :
    (checkDefinitions seen index items).findings.filter kind.IsDuplicate =
      kind.reports (kind.seen seen) index items := by
  induction items generalizing seen index with
  | nil =>
      rfl
  | cons item rest ih =>
      rcases checkDefinitions_cons seen index item rest with ⟨seen', hseen', hfindings⟩
      rw [hfindings, List.filter_append, List.filter_append, ordinary_checkAlone.filter_eq_nil,
        List.nil_append, filter_repeatedFindings, ih, hseen', IdentifierKind.reports]

theorem findings_checkAlone_eq_nil_iff :
    (checkAlone index item).findings = [] ↔ WellDefined item := by
  cases item with
  | object members =>
      rw [← checkMembers_eq_pure_iff, eq_pure_iff]
      exact (and_iff_right rfl).symm
  | _ =>
      refine iff_of_false (List.cons_ne_nil _ _) ?_
      intro h
      rcases h.object with ⟨members, hmembers⟩
      cases hmembers

theorem findings_checkDefinitions_eq_nil_iff :
    (checkDefinitions seen index items).findings = [] ↔
      (forall item, item ∈ items -> WellDefined item) ∧
        forall kind : IdentifierKind, kind.reports (kind.seen seen) index items = [] := by
  induction items generalizing seen index with
  | nil =>
      simp [checkDefinitions, IdentifierKind.reports]
  | cons item rest ih =>
      rcases checkDefinitions_cons seen index item rest with ⟨seen', hseen', hfindings⟩
      simp only [hfindings, List.append_eq_nil_iff, findings_checkAlone_eq_nil_iff,
        repeatedFindings_eq_nil_iff, ih, hseen', List.forall_mem_cons, IdentifierKind.reports,
        forall_and]
      rw [and_and_and_comm]

end Run

/-!
## The document
-/

/-- The definitions of a document, none where it has no array of them. -/
def definitions (doc : Json) : List Json :=
  match doc.get? "subnetDefinitions" with
  | some (.array items) => items
  | _ => []

def rejections : List String :=
  ["document must be an object", "must be an array of subnet definitions",
    "needs at least one definition"]

theorem not_isDuplicate_of_mem_rejections {problem : String} (h : problem ∈ rejections)
    (kind : IdentifierKind) (path : String) : ¬ kind.IsDuplicate ⟨path, problem⟩ := by
  simp only [rejections, List.mem_cons, List.not_mem_nil, or_false] at h
  rcases h with rfl | rfl | rfl <;> cases kind <;>
    simp [IdentifierKind.IsDuplicate, IdentifierKind.word, toString]

theorem definitions_object (members : List (String × Json)) :
    definitions (.object members) =
      match Entries.get? "subnetDefinitions" members with
      | some (.array items) => items
      | _ => [] := rfl

theorem checkSubnets_object (members : List (String × Json)) :
    checkSubnets (.object members) =
      match Entries.get? "subnetDefinitions" members with
      | some (.array []) => report "subnetDefinitions" "needs at least one definition"
      | some (.array items) => checkDefinitions ⟨[], [], []⟩ 0 items
      | _ => report "subnetDefinitions" "must be an array of subnet definitions" := by
  have hget : (Section.root (.object members)).get? "subnetDefinitions" =
      Entries.get? "subnetDefinitions" members := rfl
  simp only [checkSubnets, Section.array, hget]
  cases Entries.get? "subnetDefinitions" members with
  | none =>
      rfl
  | some value =>
      cases value with
      | array items =>
          cases items <;> rfl
      | _ =>
          rfl

theorem IdentifierKind.seen_none (kind : IdentifierKind) : kind.seen ⟨[], [], []⟩ = [] := by
  cases kind <;> rfl

/-- A document is rejected as a whole, or its definitions are checked. -/
theorem checkSubnets_cases (doc : Json) :
    (definitions doc = [] ∧
        exists path problem, checkSubnets doc = report path problem ∧ problem ∈ rejections) ∨
      (definitions doc ≠ [] ∧
        (exists members, doc = .object members ∧
          Entries.get? "subnetDefinitions" members = some (.array (definitions doc))) ∧
        checkSubnets doc = checkDefinitions ⟨[], [], []⟩ 0 (definitions doc)) := by
  cases doc with
  | object members =>
      rw [checkSubnets_object, definitions_object]
      cases hget : Entries.get? "subnetDefinitions" members with
      | none =>
          exact Or.inl ⟨rfl, _, _, rfl, by simp [rejections]⟩
      | some value =>
          cases value with
          | array items =>
              cases items with
              | nil =>
                  exact Or.inl ⟨rfl, _, _, rfl, by simp [rejections]⟩
              | cons item rest =>
                  exact Or.inr ⟨List.cons_ne_nil _ _, ⟨members, rfl, hget⟩, rfl⟩
          | _ =>
              exact Or.inl ⟨rfl, _, _, rfl, by simp [rejections]⟩
  | _ =>
      exact Or.inl ⟨rfl, _, _, rfl, by simp [rejections]⟩

/-- A subnet document passes its check exactly if it is an object with an array of definitions, at
least one, each well formed, and no two with the same name, alias or token.  In every document each
definition that repeats the name, alias or token of an earlier one is reported once for it, in
order, citing the last such definition before it. -/
theorem subnets_checked_exactly (doc : Json) :
    ((checkSubnets doc).findings = [] ↔
      exists members items, doc = .object members ∧
        Entries.get? "subnetDefinitions" members = some (.array items) ∧ items ≠ [] ∧
        (forall item, item ∈ items -> WellDefined item) ∧
        forall kind : IdentifierKind, (items.filterMap kind.of?).Nodup) ∧
    forall kind : IdentifierKind, exists positions,
      Enumerates (· < ·) (kind.Repeats (definitions doc)) positions ∧
      List.Forall₂ (kind.Cites (definitions doc)) positions
        ((checkSubnets doc).findings.filter kind.IsDuplicate) := by
  rcases checkSubnets_cases doc with ⟨hnone, path, problem, hcheck, hproblem⟩ |
    ⟨hsome, ⟨members, rfl, hget⟩, hcheck⟩
  · rw [hcheck, findings_report]
    constructor
    · refine iff_of_false (List.cons_ne_nil _ _) ?_
      intro h
      rcases h with ⟨members, items, rfl, hget, hitems, _⟩
      rw [definitions_object, hget] at hnone
      exact hitems hnone
    · intro kind
      have hnot := not_isDuplicate_of_mem_rejections hproblem kind path
      rw [hnone, List.filter_cons_of_neg (by simpa using hnot), List.filter_nil]
      exact kind.reports_described []
  · rw [hcheck]
    constructor
    · simp only [findings_checkDefinitions_eq_nil_iff, IdentifierKind.seen_none,
        IdentifierKind.reports_eq_nil_iff]
      constructor
      · intro h
        exact ⟨members, _, rfl, hget, hsome, h⟩
      · intro h
        rcases h with ⟨_, items, hmembers, hget', _, h⟩
        cases hmembers
        rw [hget] at hget'
        cases hget'
        exact h
    · intro kind
      rw [filter_checkDefinitions, IdentifierKind.seen_none]
      exact kind.reports_described _

/-- An alias may repeat the name of a definition that has no alias, and a token the alias of another.
What is not an object is passed over. -/
example :
    let named (name : String) : List (String × Json) :=
      [("name", .string name), ("prefixLength", .number (.integer 24))]
    (checkSubnets (.object [("subnetDefinitions", .array
      [.object (named "web"), .null, .object (("alias", .string " web ") :: named "app"),
        .object (("nsg-rule", .string "web") :: named "db")])])).findings.map Finding.line =
      ["subnetDefinitions[1]: must be an object",
        "subnetDefinitions[2].alias: duplicate alias 'web' (also subnetDefinitions[0])",
        "subnetDefinitions[3].alias: duplicate alias 'web' (also subnetDefinitions[2])"] := by
  rfl

end Validation
end NetworkPlan
