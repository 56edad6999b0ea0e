import Mathlib
import NetworkPlan.Plan
import NetworkPlan.Proofs.Decoder.Faithful
import NetworkPlan.Workspace.Input

/-!
# Typed documents

The security, the routing and the firewall document are typed while they are read.  Each means what
the value of its text means.  But reading stops after the first value of a text, so that a text can
be read as a typed document and yet not be a JSON document.
-/

namespace NetworkPlan

open Decoder

/-!
## The readers are faithful
-/

section Members

variable {σ α : Type} {decoder : Decoder α} (h : decoder.Faithful) {name : String}
include h

theorem RecordMember.faithful_required {set : α -> σ -> σ} :
    (RecordMember.required name decoder set).read.Faithful :=
  h.map set

theorem RecordMember.faithful_nullable {set : Option α -> σ -> σ} {aliases : List String} :
    (RecordMember.nullable name decoder set aliases).read.Faithful :=
  h.option.map set

theorem RecordMember.faithful_defaulted {set : α -> σ -> σ} :
    (RecordMember.defaulted name decoder set).read.Faithful :=
  h.map set

end Members

open RecordMember

theorem OneOrMany.faithful_decode : OneOrMany.decode.Faithful :=
  Faithful.json.bind _

theorem RuleDescription.faithful_decode : RuleDescription.record.decode.Faithful := by
  refine Record.faithful_decode (by decide) ?_ (by simp [record])
  have htext := Faithful.string
  have hpeer := OneOrMany.faithful_decode
  simp only [record, List.forall_mem_cons]
  exact ⟨faithful_nullable htext, faithful_nullable Faithful.choice, faithful_nullable hpeer,
    faithful_nullable hpeer, faithful_nullable htext, faithful_nullable htext,
    faithful_nullable htext, faithful_nullable htext, faithful_nullable htext.list,
    faithful_nullable htext, faithful_nullable Faithful.natural, List.forall_mem_nil _⟩

theorem RuleTemplate.faithful_decode : RuleTemplate.record.decode.Faithful := by
  refine Record.faithful_decode (by decide) ?_ (by simp [record])
  simp only [record, List.forall_mem_cons]
  exact ⟨faithful_nullable Faithful.string, faithful_nullable Faithful.string,
    faithful_defaulted RuleDescription.faithful_decode.list, List.forall_mem_nil _⟩

theorem Selector.faithful_decode : Selector.record.decode.Faithful := by
  refine Record.faithful_decode (by decide) ?_ (by simp [record])
  simp only [record, List.forall_mem_cons]
  exact ⟨faithful_defaulted Faithful.string.option, faithful_required Faithful.string,
    List.forall_mem_nil _⟩

theorem SecurityDocument.faithful_decode : SecurityDocument.record.decode.Faithful := by
  refine Record.faithful_decode (by decide) ?_ (by simp [record])
  have htext := Faithful.string
  simp only [record, List.forall_mem_cons]
  exact ⟨faithful_defaulted htext, faithful_defaulted htext, faithful_defaulted htext.list,
    faithful_defaulted htext.list, faithful_defaulted Selector.faithful_decode.entries,
    faithful_defaulted RuleTemplate.faithful_decode.list, List.forall_mem_nil _⟩

theorem RoutingDocument.faithful_decode : RoutingDocument.record.decode.Faithful := by
  refine Record.faithful_decode (by decide) ?_ (by simp [record])
  have htext := Faithful.string
  simp only [record, List.forall_mem_cons]
  exact ⟨faithful_defaulted htext, faithful_defaulted htext, faithful_defaulted htext,
    faithful_defaulted htext, faithful_defaulted htext.list, faithful_defaulted htext.list,
    faithful_defaulted htext, faithful_defaulted Faithful.block, List.forall_mem_nil _⟩

theorem FirewallDocument.faithful_decode : FirewallDocument.record.decode.Faithful := by
  refine Record.faithful_decode (by decide) ?_ (by simp [record])
  have htext := Faithful.string
  simp only [record, List.forall_mem_cons]
  exact ⟨faithful_defaulted htext, faithful_defaulted htext, faithful_defaulted htext,
    faithful_defaulted htext, faithful_defaulted htext, faithful_defaulted htext,
    faithful_defaulted htext, List.forall_mem_nil _⟩

/-!
## Typed and untyped reading
-/

/-- How a text that was read as the typed document `x` fares untyped.  It is a value that means `x`,
or it starts with one and goes on after it, or it is refused for a fault that is overlooked in what
the document has no use for. -/
def ReadAlike {α : Type} (decoder : Decoder α) (path what text : String) (x : α) : Prop :=
  (exists v, readJson path text = .ok v ∧ readValue decoder what v = .ok x) ∨
  (exists v, (Draft.read text).1.toJson = .ok v ∧ readValue decoder what v = .ok x ∧
    readJson path text = .error (.document (.notJson path .trailingText))) ∨
  ((Draft.read text).1.skipError? = none ∧ exists e, e ∈ SyntaxError.overlooked ∧
    readJson path text = .error (.document (.notJson path e)))

theorem readAlike_of_readDocument {α : Type} {decoder : Decoder α} (hfaithful : decoder.Faithful)
    {path text : String} {x : α} (h : readDocument decoder path text = .ok x) (what : String) :
    ReadAlike decoder path what text x := by
  have hread : decoder .text (Draft.read text).1 = .ok x := mapError_eq_ok.mp h
  cases hvalue : (Draft.read text).1.toJson with
  | ok v =>
      have hv : readValue decoder what v = .ok x :=
        mapError_eq_ok.mpr (hfaithful.reads hread hvalue)
      by_cases hblank : (Json.skipSpace ((Draft.read text).2.getD [])).isEmpty = true
      · refine Or.inl ⟨v, ?_, hv⟩
        simp [readJson, Json.parse, hvalue, hblank, Except.mapError]
      · refine Or.inr (Or.inl ⟨v, hvalue, hv, ?_⟩)
        simp [readJson, Json.parse, hvalue, hblank, Except.mapError]
  | error e =>
      have hskip := hfaithful.skips hread
      refine Or.inr (Or.inr ⟨hskip, e.error, ?_, ?_⟩)
      · exact Draft.error_mem_overlooked _ (Draft.scanned_of_read text) hskip hvalue
      · simp [readJson, Json.parse, hvalue, Except.mapError]

/-- A text that is read as one of the three typed documents means what its value means, as far as it
is a value: all that the typed reader lets pass is a text that goes on, and the faults that are
overlooked in skipped members. -/
theorem typed_texts_read_alike (path what text : String) :
    (forall x, readDocument SecurityDocument.record.decode path text = .ok x ->
      ReadAlike SecurityDocument.record.decode path what text x) ∧
    (forall x, readDocument RoutingDocument.record.decode path text = .ok x ->
      ReadAlike RoutingDocument.record.decode path what text x) ∧
    (forall x, readDocument FirewallDocument.record.decode path text = .ok x ->
      ReadAlike FirewallDocument.record.decode path what text x) :=
  ⟨fun _ h => readAlike_of_readDocument SecurityDocument.faithful_decode h what,
    fun _ h => readAlike_of_readDocument RoutingDocument.faithful_decode h what,
    fun _ h => readAlike_of_readDocument FirewallDocument.faithful_decode h what⟩

/-- One text of each kind, the one of the firewall with a member that nothing asks for. -/
theorem typed_texts_read_alike_short :
    ReadAlike SecurityDocument.record.decode "nsgs.json" "nsgs"
      "\x7b\"serviceTags\": [\"Internet\"]\x7d"
      { SecurityDocument.default with serviceTags := ["Internet"] } ∧
    ReadAlike RoutingDocument.record.decode "routes.json" "routes" "\x7b\x7d"
      RoutingDocument.default ∧
    ReadAlike FirewallDocument.record.decode "firewall.json" "firewall"
      "\x7b\"notes\": [1], \"publicIPSku\": \"Basic\"\x7d"
      { FirewallDocument.default with publicIpSku := "Basic" } := by
  have hsecurity : readDocument SecurityDocument.record.decode "nsgs.json"
      "\x7b\"serviceTags\": [\"Internet\"]\x7d" =
        .ok { SecurityDocument.default with serviceTags := ["Internet"] } := by
    cbv
  have hrouting : readDocument RoutingDocument.record.decode "routes.json" "\x7b\x7d" =
      .ok RoutingDocument.default := by
    rfl
  have hfirewall : readDocument FirewallDocument.record.decode "firewall.json"
      "\x7b\"notes\": [1], \"publicIPSku\": \"Basic\"\x7d" =
        .ok { FirewallDocument.default with publicIpSku := "Basic" } := by
    cbv
  exact ⟨(typed_texts_read_alike _ _ _).left _ hsecurity,
    (typed_texts_read_alike _ _ _).right.left _ hrouting,
    (typed_texts_read_alike _ _ _).right.right _ hfirewall⟩

/-- A text can go on after a typed document. -/
theorem typed_text_goes_on :
    readDocument FirewallDocument.record.decode "firewall.json"
        "\x7b\x7d \x7b\"publicIPSku\": \"Basic\"\x7d" = .ok FirewallDocument.default ∧
    ¬ exists v, readJson "firewall.json" "\x7b\x7d \x7b\"publicIPSku\": \"Basic\"\x7d" = .ok v ∧
      readValue FirewallDocument.record.decode "firewall.json" v = .ok FirewallDocument.default := by
  constructor
  · rfl
  · rintro ⟨v, hv, _⟩
    have hrefused : readJson "firewall.json" "\x7b\x7d \x7b\"publicIPSku\": \"Basic\"\x7d" =
        .error (.document (.notJson "firewall.json" .trailingText)) := by
      rfl
    rw [hrefused] at hv
    cases hv

end NetworkPlan
