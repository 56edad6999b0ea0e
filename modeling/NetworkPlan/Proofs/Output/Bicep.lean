import NetworkPlan.Output.Parameters
import NetworkPlan.Proofs.Json.Alike
import NetworkPlan.Proofs.Number.Notation
import NetworkPlan.Proofs.Text.Delimited

/-!
# Literals tell values apart

A quote inside a string is written twice and nothing else is escaped, so a string may contain
whole lines that look like items, members or parameters.  Still no string ends early: a literal
that is followed by a line end shows where it ends and, up to numbers with the same text, which
value it stands for.  The argument follows the value: every form of literal starts with a character
of its own, and the lines of a container are deeper than the bracket that closes it.
-/

namespace NetworkPlan
namespace Bicep

open Text

/-!
## Strings and names
-/

/-- What stands between the quotes. -/
def doubled (cs : List Char) : List Char :=
  cs.flatMap fun c => if c = '\'' then ['\'', '\''] else [c]

theorem toList_quote (s : String) : (quote s).toList = '\'' :: (doubled s.toList ++ ['\'']) :=
  String.toList_ofList

theorem doubled_cons (c : Char) (cs : List Char) :
    doubled (c :: cs) = (if c = '\'' then ['\'', '\''] else [c]) ++ doubled cs :=
  List.flatMap_cons

/-- The quote at the end is the only one that is not doubled. -/
theorem delimited_doubled {stop : Char} (hstop : stop ≠ '\'') (cs ds : List Char) :
    Delimited stop (cs = ds) (doubled cs ++ ['\'']) (doubled ds ++ ['\'']) := by
  induction cs generalizing ds with
  | nil =>
      intro rest others h
      cases ds with
      | nil =>
          simpa [doubled] using h
      | cons d ds =>
          -- One quote against two: the stop would have to be the second one.
          by_cases hd : d = '\''
          · simp [doubled, hd, hstop] at h
          · simp [doubled, hd, Ne.symm hd] at h
  | cons c cs ih =>
      intro rest others h
      cases ds with
      | nil =>
          by_cases hc : c = '\''
          · simp [doubled, hc, Ne.symm hstop] at h
          · simp [doubled, hc] at h
      | cons d ds =>
          have hnext : c = d ∧ doubled cs ++ ['\''] ++ stop :: rest =
              doubled ds ++ ['\''] ++ stop :: others := by
            by_cases hc : c = '\'' <;> by_cases hd : d = '\''
            · simpa [doubled_cons, hc, hd] using h
            · simp [doubled_cons, hc, hd, Ne.symm hd] at h
            · simp [doubled_cons, hc, hd] at h
            · simpa [doubled_cons, hc, hd] using h
          rcases ih ds rest others hnext.right with ⟨htail, hrest⟩
          exact ⟨congrArg₂ List.cons hnext.left htail, hrest⟩

theorem delimited_quote {stop : Char} (hstop : stop ≠ '\'') (s t : String) :
    Delimited stop (s = t) (quote s).toList (quote t).toList := by
  rw [toList_quote, toList_quote]
  exact ((delimited_doubled hstop s.toList t.toList).cons '\'').imp String.toList_inj.mp

theorem continuesIdentifier_of_startsIdentifier {c : Char} (h : startsIdentifier c = true) :
    continuesIdentifier c = true := by
  rw [startsIdentifier, Bool.or_eq_true] at h
  rw [continuesIdentifier, Char.isAlphanum, Bool.or_eq_true, Bool.or_eq_true]
  exact h.imp_left Or.inl

theorem continuesIdentifier_of_mem {s : String} (hs : isIdentifier s = true) {c : Char}
    (hc : c ∈ s.toList) : continuesIdentifier c = true := by
  unfold isIdentifier at hs
  split at hs
  next =>
    cases hs
  next first rest htext =>
    rw [Bool.and_eq_true, List.all_eq_true] at hs
    rw [htext] at hc
    rcases List.mem_cons.mp hc with rfl | hrest
    · exact continuesIdentifier_of_startsIdentifier hs.left
    · exact hs.right c hrest

theorem not_mem_of_isIdentifier {s : String} (hs : isIdentifier s = true) {c : Char}
    (hc : continuesIdentifier c = false) : c ∉ s.toList := by
  intro hmem
  rw [continuesIdentifier_of_mem hs hmem] at hc
  cases hc

/-- A name in quotes does not start like an identifier. -/
theorem identifier_ne_quote {s : String} (hs : isIdentifier s = true) (t : String)
    (rest others : List Char) : s.toList ++ ':' :: rest ≠ (quote t).toList ++ ':' :: others := by
  intro h
  rw [toList_quote] at h
  cases htext : s.toList with
  | nil =>
      rw [htext] at h
      exact absurd (List.cons.inj h).left (by decide)
  | cons c cs =>
      rw [htext] at h
      have hquote : '\'' ∈ s.toList := by
        rw [htext, (List.cons.inj h).left]
        exact List.mem_cons_self
      exact not_mem_of_isIdentifier hs rfl hquote

theorem delimited_key (s t : String) : Delimited ':' (s = t) (key s).toList (key t).toList := by
  unfold key
  split <;> split
  next hs ht =>
    exact (Delimited.of_not_mem (not_mem_of_isIdentifier hs rfl)
      (not_mem_of_isIdentifier ht rfl)).imp String.toList_inj.mp
  next hs _ =>
    exact fun rest others h => absurd h (identifier_ne_quote hs t rest others)
  next _ ht =>
    exact fun rest others h => absurd h.symm (identifier_ne_quote ht s others rest)
  next =>
    exact delimited_quote (by decide) s t

/-!
## Containers
-/

theorem toList_blanks (n : Nat) : (blanks n).toList = List.replicate n ' ' :=
  String.toList_ofList

theorem itemLines_eq (indent : Nat) (items : List Json) :
    itemLines indent items = items.map fun item => blanks indent ++ literal indent item := by
  induction items with
  | nil =>
      rfl
  | cons item rest ih =>
      rw [itemLines, ih, List.map_cons]

theorem memberLines_eq (indent : Nat) (members : List (String × Json)) :
    memberLines indent members = members.map fun member =>
      blanks indent ++ (key member.1 ++ ": " ++ literal indent member.2) := by
  induction members with
  | nil =>
      rfl
  | cons member rest ih =>
      rw [memberLines, ih, List.map_cons]
      simp only [String.append_assoc]

theorem toList_member (name value : String) :
    (key name ++ ": " ++ value).toList = (key name).toList ++ ':' :: ' ' :: value.toList := by
  simp

theorem toList_container (opening closing : String) (indent : Nat) (texts : List String) :
    (container opening closing indent texts).toList =
      opening.toList ++ if texts.isEmpty then closing.toList
        else '\n' :: (lines texts ++ (List.replicate indent ' ' ++ closing.toList)) := by
  unfold container
  split
  next =>
    rw [String.toList_append]
  next hne =>
    have htexts : texts ≠ [] := by
      rintro rfl
      exact hne rfl
    have hlines : lines texts = ("\n".intercalate texts).toList ++ ['\n'] := by
      rw [← toList_intercalate_newline,
        String.intercalate_append_of_ne_nil htexts (List.cons_ne_nil _ _)]
      simp
    rw [hlines]
    simp [toList_blanks]

/-- The parts of a container start two blanks deeper than the bracket that closes it. -/
theorem delimited_container {α : Type} {R : α -> α -> Prop} {part : α -> String} {xs ys : List α}
    (opening : String) {closing : String} (bracket : Char) (hclosing : closing.toList = [bracket])
    (hblank : bracket ≠ ' ') (hnewline : bracket ≠ '\n') (indent : Nat)
    (hparts : forall x, x ∈ xs -> forall y, y ∈ ys ->
      Delimited '\n' (R x y) (part x).toList (part y).toList) :
    Delimited '\n' (List.Forall₂ R xs ys)
      (container opening closing indent
        (xs.map fun x => blanks (indent + 2) ++ part x)).toList
      (container opening closing indent
        (ys.map fun y => blanks (indent + 2) ++ part y)).toList := by
  have hline : forall z, (blanks (indent + 2) ++ part z).toList =
      List.replicate indent ' ' ++ ' ' :: ' ' :: (part z).toList := by
    intro z
    rw [String.toList_append, toList_blanks, List.replicate_add, List.append_assoc]
    rfl
  have hlines : Delimited '\n' (List.Forall₂ R xs ys)
      (lines (xs.map fun x => blanks (indent + 2) ++ part x) ++
        (List.replicate indent ' ' ++ [bracket]))
      (lines (ys.map fun y => blanks (indent + 2) ++ part y) ++
        (List.replicate indent ' ' ++ [bracket])) := by
    apply Delimited.lines
    · intro x hx y hy
      rw [String.toList_append, String.toList_append]
      exact (hparts x hx y hy).append_left _
    · intro z rest others h
      rw [hline, List.append_assoc, List.append_assoc, List.append_cancel_left_eq] at h
      exact hblank (List.cons.inj h).left
  rw [toList_container, toList_container, hclosing]
  apply Delimited.append_left
  cases xs with
  | nil =>
      cases ys with
      | nil =>
          exact fun rest others h => ⟨.nil, (List.cons.inj (List.cons.inj h).right).right⟩
      | cons y ys =>
          exact fun rest others h => absurd (List.cons.inj h).left hnewline
  | cons x xs =>
      cases ys with
      | nil =>
          exact fun rest others h => absurd (List.cons.inj h).left.symm hnewline
      | cons y ys =>
          exact hlines.cons '\n'

/-!
## Literals
-/

/-- The form of a value's literal. -/
inductive Form where
  | null
  | bool (b : Bool)
  | number
  | string
  | array
  | object

def form : Json -> Form
  | .null => .null
  | .bool b => .bool b
  | .number _ => .number
  | .string _ => .string
  | .array _ => .array
  | .object _ => .object

/-- The form of the literal that starts with a character. -/
def formOf (c : Char) : Form :=
  if c = 'n' then .null
  else if c = 't' then .bool true
  else if c = 'f' then .bool false
  else if c = '\'' then .string
  else if c = '[' then .array
  else if c = '\x7b' then .object
  else .number

theorem formOf_of_allows {c : Char} (hc : Number.allows c = true) : formOf c = .number := by
  have hne : forall d, Number.allows d = false -> c ≠ d := by
    intro d hd h
    rw [h, hd] at hc
    cases hc
  simp only [formOf, hne 'n' rfl, hne 't' rfl, hne 'f' rfl, hne '\'' rfl, hne '[' rfl,
    hne '\x7b' rfl, if_false]

theorem exists_first (indent : Nat) (value : Json) :
    exists c cs, (literal indent value).toList = c :: cs ∧ formOf c = form value := by
  cases value with
  | null =>
      exact ⟨'n', ['u', 'l', 'l'], by simp [literal], rfl⟩
  | bool b =>
      cases b
      · exact ⟨'f', ['a', 'l', 's', 'e'], by simp [literal], rfl⟩
      · exact ⟨'t', ['r', 'u', 'e'], by simp [literal], rfl⟩
  | number n =>
      rcases List.exists_cons_of_ne_nil n.toText_ne_nil with ⟨c, cs, htext⟩
      have hc : Number.allows c = true :=
        n.written_toText c (htext ▸ List.mem_cons_self)
      exact ⟨c, cs, htext, formOf_of_allows hc⟩
  | string s =>
      exact ⟨'\'', _, toList_quote s, rfl⟩
  | array items =>
      exact ⟨'[', _, toList_container "[" "]" indent _, rfl⟩
  | object members =>
      exact ⟨'\x7b', _, toList_container "\x7b" "\x7d" indent _, rfl⟩

/-- Literals of different forms differ in their first character. -/
theorem delimited_of_form {indent : Nat} {v w : Json} {P : Prop}
    (h : form v = form w ->
      Delimited '\n' P (literal indent v).toList (literal indent w).toList) :
    Delimited '\n' P (literal indent v).toList (literal indent w).toList := by
  intro rest others heq
  have hform : form v = form w := by
    rcases exists_first indent v with ⟨c, cs, hv, hc⟩
    rcases exists_first indent w with ⟨d, ds, hw, hd⟩
    rw [hv, hw] at heq
    rw [← hc, ← hd, (List.cons.inj heq).left]
  exact h hform rest others heq

/-- The literal of a value shows where it ends and which value it stands for. -/
theorem delimited_literal (indent : Nat) (v w : Json) :
    Delimited '\n' (Json.Alike v w) (literal indent v).toList (literal indent w).toList := by
  -- The depth is general, since the parts of a container stand deeper than the container.
  induction v using Json.induction generalizing indent w with
  | null =>
      refine delimited_of_form fun hform => ?_
      cases w with
      | null =>
          exact (Delimited.refl '\n' _).imp fun _ => .null
      | _ =>
          cases hform
  | bool b =>
      refine delimited_of_form fun hform => ?_
      cases w with
      | bool b' =>
          cases hform
          exact (Delimited.refl '\n' _).imp fun _ => .bool b
      | _ =>
          cases hform
  | number n =>
      refine delimited_of_form fun hform => ?_
      cases w with
      | number n' =>
          exact (Delimited.of_not_mem (n.not_mem_toText rfl) (n'.not_mem_toText rfl)).imp
            fun htext => .number (String.toList_inj.mp htext)
      | _ =>
          cases hform
  | string s =>
      refine delimited_of_form fun hform => ?_
      cases w with
      | string t =>
          exact (delimited_quote (by decide) s t).imp fun hsame => hsame ▸ .string s
      | _ =>
          cases hform
  | array items ih =>
      refine delimited_of_form fun hform => ?_
      cases w with
      | array others =>
          rw [literal, literal, itemLines_eq, itemLines_eq]
          exact (delimited_container "[" ']' (by simp) (by decide) (by decide) indent
            fun item hitem other _ => ih item hitem (indent + 2) other).imp .array
      | _ =>
          cases hform
  | object members ih =>
      refine delimited_of_form fun hform => ?_
      cases w with
      | object others =>
          rw [literal, literal, memberLines_eq, memberLines_eq]
          refine (delimited_container "\x7b" '\x7d' (by simp) (by decide) (by decide) indent ?_).imp
            Json.alike_object_iff.mpr
          intro member hmember other _
          rw [toList_member, toList_member]
          exact (delimited_key member.1 other.1).followed
            ((ih member hmember (indent + 2) other.2).cons ' ')
      | _ =>
          cases hform

theorem literal_congr (indent : Nat) {v w : Json} (h : v.Alike w) :
    literal indent v = literal indent w := by
  induction v using Json.induction generalizing indent w with
  | null | bool b | string s =>
      cases h
      rfl
  | number n =>
      cases h with
      | number htext =>
          exact htext
  | array items ih =>
      cases h with
      | array hitems =>
          rw [literal, literal, itemLines_eq, itemLines_eq]
          apply congrArg (container "[" "]" indent)
          apply map_eq_map_of_forall₂ hitems
          intro item hitem other halike
          rw [ih item hitem (indent + 2) halike]
  | object members ih =>
      cases h with
      | object hnames hvalues =>
          rw [literal, literal, memberLines_eq, memberLines_eq]
          apply congrArg (container "\x7b" "\x7d" indent)
          apply map_eq_map_of_forall₂ (Json.alike_object_iff.mp (.object hnames hvalues))
          intro member hmember other hsame
          rw [hsame.left, ih member hmember (indent + 2) hsame.right]

theorem literal_eq_iff (indent : Nat) {v w : Json} :
    literal indent v = literal indent w ↔ v.Alike w := by
  constructor
  · intro h
    exact (delimited_literal indent v w).same_of_eq (congrArg String.toList h)
  · exact literal_congr indent

/-!
## Parameters
-/

theorem toList_parameter (name : String) (value : Json) :
    (parameter name value).toList =
      "param ".toList ++ (name.toList ++ ' ' :: '=' :: ' ' :: (literal 0 value).toList) := by
  simp [parameter, toString]

theorem delimited_parameter {name other : String} (hname : isIdentifier name = true)
    (hother : isIdentifier other = true) (v w : Json) :
    Delimited '\n' (name = other ∧ v.Alike w) (parameter name v).toList
      (parameter other w).toList := by
  have hnames : Delimited ' ' (name = other) name.toList other.toList :=
    (Delimited.of_not_mem (not_mem_of_isIdentifier hname rfl)
      (not_mem_of_isIdentifier hother rfl)).imp String.toList_inj.mp
  rw [toList_parameter, toList_parameter]
  exact (hnames.followed (((delimited_literal 0 v w).cons ' ').cons '=')).append_left _

end Bicep

/-!
## Parameter files
-/

namespace ParameterDocument

open Text

/-- The names of the parameters are identifiers. -/
def Named (doc : ParameterDocument) : Prop :=
  forall name, name ∈ Entries.keys doc.parameters -> Bicep.isIdentifier name = true

/-- The first line of the parameter file. -/
def header (doc : ParameterDocument) : String :=
  "using " ++ Bicep.quote s!"../bicep/main.{doc.family}.bicep"

/-- The lines below it. -/
def parameterLines (doc : ParameterDocument) : List String :=
  doc.parameters.map fun parameter => Bicep.parameter parameter.1 parameter.2

theorem toList_render (doc : ParameterDocument) :
    doc.render.toList = doc.header.toList ++ '\n' :: lines doc.parameterLines := by
  rw [← lines_cons, ← toList_intercalate_newline]
  rfl

theorem delimited_header (a b : ParameterDocument) :
    Delimited '\n' (a.family = b.family) a.header.toList b.header.toList := by
  unfold header
  rw [String.toList_append, String.toList_append]
  apply Delimited.append_left
  apply (Bicep.delimited_quote (by decide) _ _).imp
  intro h
  simpa [toString] using h

theorem delimited_render {a b : ParameterDocument} (ha : a.Named) (hb : b.Named) :
    Delimited '\n' (a.family = b.family ∧ Json.Alike (.object a.parameters) (.object b.parameters))
      a.render.toList b.render.toList := by
  have hlines : Delimited '\n' (List.Forall₂ Json.SameMember a.parameters b.parameters)
      (lines a.parameterLines ++ []) (lines b.parameterLines ++ []) := by
    apply Delimited.lines
    · intro parameter hparameter other hother
      have hname : parameter.1 ∈ Entries.keys a.parameters := List.mem_map_of_mem hparameter
      have hname' : other.1 ∈ Entries.keys b.parameters := List.mem_map_of_mem hother
      exact Bicep.delimited_parameter (ha _ hname) (hb _ hname') parameter.2 other.2
    · intro parameter rest others
      rw [Bicep.toList_parameter]
      simp
  rw [List.append_nil, List.append_nil] at hlines
  rw [toList_render, toList_render]
  exact (delimited_header a b).followed (hlines.imp Json.alike_object_iff.mpr)

theorem render_eq_iff {a b : ParameterDocument} (ha : a.Named) (hb : b.Named) :
    a.render = b.render ↔
      a.family = b.family ∧ Json.Alike (.object a.parameters) (.object b.parameters) := by
  constructor
  · intro h
    exact (delimited_render ha hb).same_of_eq (congrArg String.toList h)
  · intro h
    rcases h with ⟨hfamily, hparameters⟩
    have hlines : a.parameterLines = b.parameterLines := by
      apply map_eq_map_of_forall₂ (Json.alike_object_iff.mp hparameters)
      intro parameter _ other hsame
      rw [Bicep.parameter, Bicep.parameter, hsame.left, Bicep.literal_congr 0 hsame.right]
    rw [← String.toList_inj, toList_render, toList_render, hlines, header, header, hfamily]

end ParameterDocument

/-- The names of the parameters are given by the program, and all of them are identifiers. -/
theorem Plan.named_of_mem_documents {plan : Plan} {doc : ParameterDocument}
    (h : doc ∈ plan.documents) : doc.Named := by
  have hall : (Entries.keys doc.parameters).all Bicep.isIdentifier = true := by
    simp only [documents, List.mem_cons, List.not_mem_nil, or_false] at h
    rcases h with rfl | rfl | rfl | rfl | rfl | rfl
    all_goals
      simp only [Entries.keys, virtualNetwork, subnetParameters, groupParameters, routeParameters,
        attachmentParameters, firewallParameters, identityParameters, logParameters,
        List.map_append, List.map_cons, List.map_nil]
      rfl
  exact List.all_eq_true.mp hall

/-- No text ends its literal early: literals at the same depth agree exactly for values that are
alike, and parameter files agree exactly for the same family and, name by name, parameters whose
values are alike. -/
theorem literals_tell_values_apart :
    (forall (indent : Nat) (v w : Json),
      Bicep.literal indent v = Bicep.literal indent w ↔ v.Alike w) ∧
    (forall a b : ParameterDocument, a.Named -> b.Named ->
      (a.render = b.render ↔
        a.family = b.family ∧ Json.Alike (.object a.parameters) (.object b.parameters))) :=
  ⟨fun indent _ _ => Bicep.literal_eq_iff indent, fun _ _ => ParameterDocument.render_eq_iff⟩

namespace ParameterDocument

/-- One parameter, whose value would go on as a second one if quotes were not doubled. -/
def disguised : ParameterDocument where
  family := "subnets"
  parameters := [("vnetName", .string "vnet'\nparam subnets = 'none")]
  metadata := []
  derived := []

/-- Two parameters. -/
def plain : ParameterDocument where
  family := "subnets"
  parameters := [("vnetName", .string "vnet"), ("subnets", .string "none")]
  metadata := []
  derived := []

end ParameterDocument

/-- A text that looks like the line of another parameter is not read as one. -/
theorem disguised_parameter_told_apart :
    ParameterDocument.disguised.Named ∧ ParameterDocument.plain.Named ∧
    ParameterDocument.disguised.render ≠ ParameterDocument.plain.render := by
  have hdisguised : ParameterDocument.disguised.Named := by
    unfold ParameterDocument.Named
    decide
  have hplain : ParameterDocument.plain.Named := by
    unfold ParameterDocument.Named
    decide
  refine ⟨hdisguised, hplain, ?_⟩
  intro h
  have hsame := (literals_tell_values_apart.right _ _ hdisguised hplain).mp h
  have hmembers := Json.alike_object_iff.mp hsame.right
  exact absurd hmembers.length_eq (by decide)

end NetworkPlan
