import NetworkPlan.Proofs.Output.Bicep
import NetworkPlan.Proofs.Text.Lines

/-!
# The layout of literals

The items of an array and the members of an object stand below one another, each on a line of its
own, and the closing bracket stands on a line below them.  How deep a part is nested is what the
blanks in front of its line say; the depth at which a whole literal starts only moves its lines to
the right.  A line end inside a text is written as it is and starts a line, so the texts of the
value must have none.
-/

namespace NetworkPlan
namespace Json

/-!
## Texts of a value
-/

mutual

/-- The strings in a value and the names of its members, at any depth. -/
def texts : Json -> List String
  | .string s => [s]
  | .array items => itemTexts items
  | .object members => memberTexts members
  | _ => []

def itemTexts : List Json -> List String
  | [] => []
  | item :: rest => texts item ++ itemTexts rest

def memberTexts : List (String × Json) -> List String
  | [] => []
  | (name, value) :: rest => name :: (texts value ++ memberTexts rest)

end

/-- No text of the value has a line end in it. -/
def Unbroken (value : Json) : Prop :=
  forall text, text ∈ value.texts -> '\n' ∉ text.toList

instance (value : Json) : Decidable value.Unbroken :=
  inferInstanceAs (Decidable (forall text, text ∈ value.texts -> '\n' ∉ text.toList))

theorem itemTexts_eq (items : List Json) : itemTexts items = items.flatMap texts := by
  induction items with
  | nil =>
      rfl
  | cons item rest ih =>
      rw [itemTexts, ih, List.flatMap_cons]

theorem memberTexts_eq (members : List (String × Json)) :
    memberTexts members = members.flatMap fun member => member.1 :: texts member.2 := by
  induction members with
  | nil =>
      rfl
  | cons member rest ih =>
      rw [memberTexts, ih, List.flatMap_cons, List.cons_append]

theorem unbroken_string_iff {s : String} : (Json.string s).Unbroken ↔ '\n' ∉ s.toList := by
  simp [Unbroken, texts]

theorem unbroken_array_iff {items : List Json} :
    (Json.array items).Unbroken ↔ forall item, item ∈ items -> item.Unbroken := by
  rw [Unbroken, texts, itemTexts_eq, List.forall_mem_flatMap]
  rfl

theorem unbroken_object_iff {members : List (String × Json)} :
    (Json.object members).Unbroken ↔
      forall member, member ∈ members -> '\n' ∉ member.1.toList ∧ member.2.Unbroken := by
  rw [Unbroken, texts, memberTexts_eq, List.forall_mem_flatMap]
  simp only [List.forall_mem_cons]
  rfl

end Json

namespace Bicep

open Text

/-!
## Texts without line ends
-/

theorem newline_not_mem_quote {s : String} (h : '\n' ∉ s.toList) : '\n' ∉ (quote s).toList := by
  rw [toList_quote]
  simp only [doubled, List.mem_cons, List.mem_append, List.mem_flatMap, List.not_mem_nil, or_false,
    not_or, not_exists, not_and]
  refine ⟨by decide, fun c hc => ?_, by decide⟩
  split
  · decide
  · rw [List.mem_singleton]
    rintro rfl
    exact h hc

theorem newline_not_mem_key {s : String} (h : '\n' ∉ s.toList) : '\n' ∉ (key s).toList := by
  unfold key
  split
  · exact h
  · exact newline_not_mem_quote h

theorem newline_not_mem_blanks (n : Nat) : '\n' ∉ (blanks n).toList := by
  rw [toList_blanks, List.mem_replicate]
  rintro ⟨_, h⟩
  exact absurd h (by decide)

theorem newline_not_mem_closingLine {closing : String} (h : '\n' ∉ closing.toList) (n : Nat) :
    '\n' ∉ List.replicate n ' ' ++ closing.toList := by
  rw [List.mem_append, not_or, ← toList_blanks]
  exact ⟨newline_not_mem_blanks n, h⟩

/-!
## Parts
-/

/-- What has a line of its own in a literal, below the first one. -/
inductive Part where
  | item (value : Json)
  | member (name : String) (value : Json)
  | arrayEnd
  | objectEnd

/-- The items of an array and the members of an object, each with its value. -/
def inner : Json -> List (Part × Json)
  | .array items => items.map fun item => (.item item, item)
  | .object members => members.map fun member => (.member member.1 member.2, member.2)
  | _ => []

/-- The closing bracket of a container. -/
def closing : Json -> Part
  | .object _ => .objectEnd
  | _ => .arrayEnd

/-- A part is nested so deep in a value: the value's own items and members are at depth one, and the
bracket that closes the value, if there is anything in it, is at depth zero. -/
inductive Placed : Json -> Nat -> Part -> Prop where
  | inner {v value : Json} {part : Part} (h : (part, value) ∈ inner v) : Placed v 1 part
  | closing {v : Json} (h : inner v ≠ []) : Placed v 0 (closing v)
  | nested {v value : Json} {outer part : Part} {depth : Nat} (h : (outer, value) ∈ inner v)
      (hpart : Placed value depth part) : Placed v (depth + 1) part

mutual

/-- The parts of a value at a given depth, each with its own depth, from the top down. -/
def parts (depth : Nat) : Json -> List (Nat × Part)
  | .array [] => []
  | .array items => itemParts (depth + 1) items ++ [(depth, .arrayEnd)]
  | .object [] => []
  | .object members => memberParts (depth + 1) members ++ [(depth, .objectEnd)]
  | _ => []

def itemParts (depth : Nat) : List Json -> List (Nat × Part)
  | [] => []
  | item :: rest => (depth, .item item) :: (parts depth item ++ itemParts depth rest)

def memberParts (depth : Nat) : List (String × Json) -> List (Nat × Part)
  | [] => []
  | (name, value) :: rest =>
      (depth, .member name value) :: (parts depth value ++ memberParts depth rest)

end

/-- What holds of a value if it holds of its items and members holds of every value. -/
@[elab_as_elim]
theorem inner_induction {motive : Json -> Prop}
    (step : forall v, (forall part, part ∈ inner v -> motive part.2) -> motive v) (v : Json) :
    motive v := by
  induction v using Json.induction with
  | null | bool b | number n | string s =>
      exact step _ (List.forall_mem_nil _)
  | array items ih =>
      exact step _ (List.forall_mem_map.mpr ih)
  | object members ih =>
      exact step _ (List.forall_mem_map.mpr ih)

theorem itemParts_eq (depth : Nat) (items : List Json) :
    itemParts depth items =
      (inner (.array items)).flatMap fun part => (depth, part.1) :: parts depth part.2 := by
  induction items with
  | nil =>
      rfl
  | cons item rest ih =>
      rw [itemParts, ih]
      rfl

theorem memberParts_eq (depth : Nat) (members : List (String × Json)) :
    memberParts depth members =
      (inner (.object members)).flatMap fun part => (depth, part.1) :: parts depth part.2 := by
  induction members with
  | nil =>
      rfl
  | cons member rest ih =>
      rw [memberParts, ih]
      rfl

theorem parts_of_inner_eq_nil {v : Json} (h : inner v = []) (depth : Nat) : parts depth v = [] := by
  cases v with
  | array items =>
      rw [inner, List.map_eq_nil_iff] at h
      rw [h, parts]
  | object members =>
      rw [inner, List.map_eq_nil_iff] at h
      rw [h, parts]
  | _ =>
      rfl

theorem parts_of_inner_ne_nil {v : Json} (h : inner v ≠ []) (depth : Nat) :
    parts depth v =
      ((inner v).flatMap fun part => (depth + 1, part.1) :: parts (depth + 1) part.2) ++
        [(depth, closing v)] := by
  cases v with
  | array items =>
      cases items with
      | nil =>
          exact absurd rfl h
      | cons item rest =>
          rw [parts, itemParts_eq]
          · rfl
          · simp
  | object members =>
      cases members with
      | nil =>
          exact absurd rfl h
      | cons member rest =>
          rw [parts, memberParts_eq]
          · rfl
          · simp
  | _ =>
      exact absurd rfl h

/-- The listed parts are all there are, and their depths are counted from the depth of the value. -/
theorem mem_parts_iff {v : Json} {start depth : Nat} {part : Part} :
    (depth, part) ∈ parts start v ↔ exists below, Placed v below part ∧ depth = start + below := by
  induction v using inner_induction generalizing start depth with
  | step v ih =>
      by_cases hv : inner v = []
      · rw [parts_of_inner_eq_nil hv]
        constructor
        · intro h
          cases h
        · rintro ⟨below, h, _⟩
          cases h with
          | inner h | nested h _ =>
              rw [hv] at h
              cases h
          | closing h =>
              exact absurd hv h
      · rw [parts_of_inner_ne_nil hv, List.mem_append, List.mem_flatMap, List.mem_singleton,
          Prod.mk.injEq]
        constructor
        · rintro (⟨outer, houter, h⟩ | ⟨rfl, rfl⟩)
          · rcases List.mem_cons.mp h with h | h
            · cases h
              exact ⟨1, .inner houter, rfl⟩
            · rcases (ih outer houter).mp h with ⟨below, hbelow, rfl⟩
              exact ⟨below + 1, .nested houter hbelow, Nat.add_right_comm start 1 below⟩
          · exact ⟨0, .closing hv, rfl⟩
        · rintro ⟨below, h, rfl⟩
          cases h with
          | inner h =>
              exact Or.inl ⟨_, h, List.mem_cons_self⟩
          | closing _ =>
              exact Or.inr ⟨rfl, rfl⟩
          | nested h hbelow =>
              refine Or.inl ⟨_, h, List.mem_cons_of_mem _ ((ih _ h).mpr ⟨_, hbelow, ?_⟩)⟩
              exact (Nat.add_right_comm start 1 _).symm

/-!
## Lines
-/

/-- The first line of a literal: only an opening bracket if there are parts below it. -/
def firstLine : Json -> String
  | .array (_ :: _) => "["
  | .object (_ :: _) => "\x7b"
  | value => literal 0 value

/-- What is written in front of the value of a part. -/
def Part.lead : Part -> String
  | member name _ => key name ++ ": "
  | _ => ""

/-- The line of a part, without the blanks in front of it. -/
def Part.text : Part -> String
  | item value => firstLine value
  | member name value => key name ++ ": " ++ firstLine value
  | arrayEnd => "]"
  | objectEnd => "\x7d"

/-- The line of a part that is nested so deep. -/
def line (place : Nat × Part) : List Char :=
  List.replicate (2 * place.1) ' ' ++ place.2.text.toList

theorem text_of_mem_inner {v : Json} {part : Part × Json} (h : part ∈ inner v) :
    part.1.text = part.1.lead ++ firstLine part.2 := by
  cases v with
  | array items =>
      rcases List.mem_map.mp h with ⟨item, _, rfl⟩
      exact (String.empty_append).symm
  | object members =>
      rcases List.mem_map.mp h with ⟨member, _, rfl⟩
      rfl
  | _ =>
      cases h

theorem unbroken_of_mem_inner {v : Json} (hv : v.Unbroken) {part : Part × Json}
    (h : part ∈ inner v) : '\n' ∉ part.1.lead.toList ∧ part.2.Unbroken := by
  cases v with
  | array items =>
      rcases List.mem_map.mp h with ⟨item, hitem, rfl⟩
      exact ⟨List.not_mem_nil, Json.unbroken_array_iff.mp hv item hitem⟩
  | object members =>
      rcases List.mem_map.mp h with ⟨member, hmember, rfl⟩
      rcases Json.unbroken_object_iff.mp hv member hmember with ⟨hname, hvalue⟩
      refine ⟨?_, hvalue⟩
      rw [Part.lead, String.toList_append, List.mem_append, not_or]
      exact ⟨newline_not_mem_key hname, by decide⟩
  | _ =>
      cases h

theorem newline_not_mem_firstLine {v : Json} (hv : v.Unbroken) :
    '\n' ∉ (firstLine v).toList := by
  cases v with
  | null =>
      simp [firstLine, literal]
  | bool b =>
      cases b <;> simp [firstLine, literal]
  | number x =>
      exact x.not_mem_toText rfl
  | string s =>
      exact newline_not_mem_quote (Json.unbroken_string_iff.mp hv)
  | array items =>
      cases items <;> simp [firstLine, literal, itemLines, container]
  | object members =>
      cases members <;> simp [firstLine, literal, memberLines, container]

theorem literal_of_inner_eq_nil {v : Json} (h : inner v = []) (indent : Nat) :
    literal indent v = firstLine v := by
  cases v with
  | array items =>
      rw [inner, List.map_eq_nil_iff] at h
      rw [h]
      rfl
  | object members =>
      rw [inner, List.map_eq_nil_iff] at h
      rw [h]
      rfl
  | _ =>
      rfl

theorem literal_of_inner_ne_nil {v : Json} (h : inner v ≠ []) (indent : Nat) :
    literal indent v = container (firstLine v) (closing v).text indent
      ((inner v).map fun part =>
        blanks (indent + 2) ++ (part.1.lead ++ literal (indent + 2) part.2)) := by
  cases v with
  | array items =>
      cases items with
      | nil =>
          exact absurd rfl h
      | cons item rest =>
          rw [literal, itemLines_eq, inner, List.map_map]
          simp only [Function.comp_def, Part.lead, String.empty_append]
          rfl
  | object members =>
      cases members with
      | nil =>
          exact absurd rfl h
      | cons member rest =>
          rw [literal, memberLines_eq, inner, List.map_map]
          rfl
  | _ =>
      exact absurd rfl h

/-!
## Moving a literal to the right
-/

/-- A container that starts deeper has its parts and its closing bracket moved to the right. -/
theorem toList_container_add {α : Type} {part moved : α -> String} {xs : List α}
    {opening closing : String} (hopening : '\n' ∉ opening.toList) (hclosing : '\n' ∉ closing.toList)
    (n k : Nat)
    (hparts : forall x, x ∈ xs -> (moved x).toList = indented k (part x).toList) :
    (container opening closing (n + k) (xs.map fun x => blanks (n + k + 2) ++ moved x)).toList =
      indented k (container opening closing n (xs.map fun x => blanks (n + 2) ++ part x)).toList := by
  rw [toList_container, toList_container, indented_append, indented_of_not_mem hopening,
    List.append_cancel_left_eq]
  cases xs with
  | nil =>
      exact (indented_of_not_mem hclosing k).symm
  | cons x rest =>
      have hblanks : List.replicate (n + k) ' ' ++ closing.toList =
          List.replicate k ' ' ++ (List.replicate n ' ' ++ closing.toList) := by
        rw [Nat.add_comm, List.replicate_add, List.append_assoc]
      rw [hblanks]
      refine (indented_lines (newline_not_mem_closingLine hclosing n) fun y hy => ?_).symm
      rw [String.toList_append, String.toList_append, indented_append, toList_blanks,
        indented_of_not_mem (newline_not_mem_blanks (n + 2)), hparts y hy, toList_blanks,
        Nat.add_right_comm, Nat.add_comm, List.replicate_add, List.append_assoc]

theorem newline_not_mem_closing (v : Json) : '\n' ∉ (closing v).text.toList := by
  cases v <;> simp [closing, Part.text]

theorem toList_literal_add {v : Json} (hv : v.Unbroken) (n k : Nat) :
    (literal (n + k) v).toList = indented k (literal n v).toList := by
  -- The depth is general, since the parts of a container stand deeper than the container.
  induction v using inner_induction generalizing n with
  | step v ih =>
      have hfirst := newline_not_mem_firstLine hv
      by_cases hinner : inner v = []
      · rw [literal_of_inner_eq_nil hinner, literal_of_inner_eq_nil hinner,
          indented_of_not_mem hfirst]
      · rw [literal_of_inner_ne_nil hinner, literal_of_inner_ne_nil hinner]
        refine toList_container_add hfirst (newline_not_mem_closing v) n k fun part hpart => ?_
        rcases unbroken_of_mem_inner hv hpart with ⟨hlead, hvalue⟩
        rw [String.toList_append, String.toList_append, indented_append,
          indented_of_not_mem hlead, Nat.add_right_comm, ih part hpart hvalue]

/-!
## Lines and depths
-/

theorem splitAll_container {opening closing : String} (hopening : '\n' ∉ opening.toList)
    (hclosing : '\n' ∉ closing.toList) (indent : Nat) {texts : List String} (htexts : texts ≠ []) :
    splitAll '\n' (container opening closing indent texts).toList =
      opening.toList :: (texts.flatMap (fun text => splitAll '\n' text.toList) ++
        [List.replicate indent ' ' ++ closing.toList]) := by
  rw [toList_container, if_neg (by simpa using htexts), splitAll_append hopening, splitAll_lines,
    splitAll_of_not_mem (newline_not_mem_closingLine hclosing indent)]

/-- Below its first line, a literal has a line for each part. -/
theorem splitAll_literal {v : Json} (hv : v.Unbroken) (depth : Nat) :
    splitAll '\n' (literal (2 * depth) v).toList =
      (firstLine v).toList :: (parts depth v).map line := by
  induction v using inner_induction generalizing depth with
  | step v ih =>
      have hfirst := newline_not_mem_firstLine hv
      by_cases hinner : inner v = []
      · rw [literal_of_inner_eq_nil hinner, parts_of_inner_eq_nil hinner,
          splitAll_of_not_mem hfirst, List.map_nil]
      · rw [literal_of_inner_ne_nil hinner, parts_of_inner_ne_nil hinner,
          splitAll_container hfirst (newline_not_mem_closing v) _ (by simpa using hinner),
          List.map_append, List.map_flatMap, List.flatMap_map]
        have hlines : forall part, part ∈ inner v ->
            splitAll '\n' (blanks (2 * depth + 2) ++
              (part.1.lead ++ literal (2 * depth + 2) part.2)).toList =
            ((depth + 1, part.1) :: parts (depth + 1) part.2).map line := by
          intro part hpart
          rcases unbroken_of_mem_inner hv hpart with ⟨hlead, hvalue⟩
          have hbelow := ih part hpart hvalue (depth + 1)
          rw [String.toList_append, String.toList_append, List.map_cons, line,
            text_of_mem_inner hpart, String.toList_append, ← toList_blanks]
          exact splitAll_append_of_not_mem (newline_not_mem_blanks _)
            (splitAll_append_of_not_mem hlead hbelow)
        rw [List.flatMap_congr hlines]
        rfl

/-!
## Blanks in front of a line
-/

theorem head?_firstLine_ne_blank (v : Json) : (firstLine v).toList.head? ≠ some ' ' := by
  cases v with
  | null =>
      simp [firstLine, literal]
  | bool b =>
      cases b <;> simp [firstLine, literal]
  | number x =>
      intro h
      exact x.not_mem_toText rfl (List.mem_of_head? h)
  | string s =>
      simp [firstLine, literal, toList_quote]
  | array items =>
      cases items <;> simp [firstLine, literal, itemLines, container]
  | object members =>
      cases members <;> simp [firstLine, literal, memberLines, container]

theorem exists_key_first (s : String) : exists c cs, (key s).toList = c :: cs ∧ c ≠ ' ' := by
  unfold key
  split
  next hs =>
    cases htext : s.toList with
    | nil =>
        simp [isIdentifier, htext] at hs
    | cons c cs =>
        refine ⟨c, cs, rfl, ?_⟩
        rintro rfl
        exact not_mem_of_isIdentifier hs rfl (htext ▸ List.mem_cons_self)
  next =>
    exact ⟨'\'', _, toList_quote s, by decide⟩

/-- The blanks in front of a line are those of its depth and no more. -/
theorem head?_text_ne_blank (part : Part) : part.text.toList.head? ≠ some ' ' := by
  cases part with
  | item value =>
      exact head?_firstLine_ne_blank value
  | member name value =>
      rcases exists_key_first name with ⟨c, cs, hkey, hc⟩
      simpa [Part.text, hkey] using hc
  | arrayEnd | objectEnd =>
      simp [Part.text]

end Bicep

/-- The depth at which a literal starts moves its lines to the right.  In a literal that starts at
depth zero, each line below the first one belongs to one item, one member or one closing bracket,
with two blanks in front of it for each level of nesting. -/
theorem literal_lines_by_depth (v : Json) (hv : v.Unbroken) :
    (forall n k, (Bicep.literal (n + k) v).toList =
      Text.indented k (Bicep.literal n v).toList) ∧
    Text.splitAll '\n' (Bicep.literal 0 v).toList =
      (Bicep.firstLine v).toList :: (Bicep.parts 0 v).map Bicep.line ∧
    (forall depth part, (depth, part) ∈ Bicep.parts 0 v ↔ Bicep.Placed v depth part) ∧
    (forall part : Bicep.Part, part.text.toList.head? ≠ some ' ') := by
  refine ⟨Bicep.toList_literal_add hv, Bicep.splitAll_literal hv 0, fun depth part => ?_,
    Bicep.head?_text_ne_blank⟩
  rw [Bicep.mem_parts_iff]
  simp only [Nat.zero_add, exists_eq_right']

namespace Bicep

/-- Containers inside one another, some of them empty. -/
def nested : Json :=
  .object [
    ("name", .string "snet-web"),
    ("tags", .array []),
    ("rules", .array [
      .object [("a-b", .ofNat 1), ("prefixes", Json.strings ["10.0.0.0/24"])],
      .array [.object []]])]

end Bicep

theorem literal_lines_of_nested :
    Bicep.nested.Unbroken ∧
    (Bicep.literal 4 Bicep.nested).toList = Text.indented 4 (Bicep.literal 0 Bicep.nested).toList ∧
    Text.splitAll '\n' (Bicep.literal 0 Bicep.nested).toList = [
      "\x7b",
      "  name: 'snet-web'",
      "  tags: []",
      "  rules: [",
      "    \x7b",
      "      'a-b': 1",
      "      prefixes: [",
      "        '10.0.0.0/24'",
      "      ]",
      "    \x7d",
      "    [",
      "      \x7b\x7d",
      "    ]",
      "  ]",
      "\x7d"].map String.toList := by
  have hunbroken : Bicep.nested.Unbroken := by
    decide
  have hlines := literal_lines_by_depth Bicep.nested hunbroken
  exact ⟨hunbroken, hlines.left 0 4, hlines.right.left.trans rfl⟩

end NetworkPlan
