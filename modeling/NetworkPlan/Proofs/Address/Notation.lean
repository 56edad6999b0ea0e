import NetworkPlan.Proofs.Text.Trim

/-!
# The text of a block reads back

Addresses and blocks leave the plan as texts.  Reading such a text gives the address or the block
that was written, so a text that stands for a block without host bits is accepted wherever an
address or a block may be given.  Conversely an address is read from digits and points only, so a
text that starts with anything else is refused there.
-/

namespace NetworkPlan
namespace Text

/-!
## Decimal numerals
-/

theorem digitsValue_toDigits (n : Nat) : digitsValue (Nat.toDigits 10 n) = n :=
  Nat.ofDigitChars_ten_toDigits

theorem isDigit_of_mem_toDigits {n : Nat} {c : Char} (hc : c ∈ Nat.toDigits 10 n) :
    c.isDigit = true :=
  Nat.isDigit_of_mem_toDigits (by decide) (by decide) hc

theorem not_mem_toDigits {c : Char} (hc : c.isDigit = false) (n : Nat) :
    c ∉ Nat.toDigits 10 n := by
  intro hmem
  rw [isDigit_of_mem_toDigits hmem] at hc
  cases hc

theorem numeral?_toDigits (n : Nat) : numeral? (Nat.toDigits 10 n) = some n := by
  apply numeral?_eq_some_iff.mpr
  refine ⟨Nat.toDigits_ne_nil, ?_, digitsValue_toDigits n⟩
  rw [List.all_eq_true]
  intro c hc
  exact isDigit_of_mem_toDigits hc

/-- Only the numeral of zero starts with a zero. -/
theorem head?_toDigits_eq_zero {n : Nat} (h : (Nat.toDigits 10 n).head? = some '0') : n = 0 := by
  induction n using Nat.strongRecOn with
  | ind n ih =>
      rw [Nat.toDigits_eq_if (by decide)] at h
      split at h
      next hsmall =>
        rw [List.head?_cons, Option.some.injEq] at h
        exact Nat.digitChar_eq_zero.mp h
      next hlarge =>
        rw [List.head?_append_of_ne_nil _ Nat.toDigits_ne_nil] at h
        have hquotient := ih (n / 10) (by omega) h
        omega

end Text

/-!
## Addresses
-/

namespace Address

theorem octet?_toDigits {n : Nat} (h : n ≤ 255) : octet? (Nat.toDigits 10 n) = some n := by
  have hlength : (Nat.toDigits 10 n).length ≤ 3 :=
    (Nat.length_toDigits_le_iff (by decide) (by decide)).mpr (by omega)
  have hzero : (Nat.toDigits 10 n).head? = some '0' -> (Nat.toDigits 10 n).length = 1 := by
    intro hhead
    rw [Text.head?_toDigits_eq_zero hhead]
    rfl
  rw [octet?, if_pos (And.intro hlength hzero), Text.numeral?_toDigits, Option.filter_some,
    if_pos (decide_eq_true h)]

theorem toList_toText (a : Address) :
    a.toText.toList = Nat.toDigits 10 (a.value / 16777216) ++ '.' ::
      (Nat.toDigits 10 (a.value / 65536 % 256) ++ '.' ::
        (Nat.toDigits 10 (a.value / 256 % 256) ++ '.' :: Nat.toDigits 10 (a.value % 256))) := by
  simp [toText, toString]

theorem ofOctets_value (a : Address) :
    ofOctets (a.value / 16777216) (a.value / 65536 % 256) (a.value / 256 % 256)
      (a.value % 256) = a := by
  have hlt := a.value_lt
  apply ext
  show (_ : Nat) % 4294967296 = a.value
  omega

theorem ofChars?_toText (a : Address) : ofChars? a.toText.toList = some a := by
  have hlt := a.value_lt
  have hpoint : forall n, '.' ∉ Nat.toDigits 10 n := Text.not_mem_toDigits (by decide)
  unfold ofChars?
  rw [toList_toText, Text.splitAll_append (hpoint _), Text.splitAll_append (hpoint _),
    Text.splitAll_append (hpoint _), Text.splitAll_of_not_mem (hpoint _)]
  simp only [octet?_toDigits (show a.value / 16777216 ≤ 255 by omega),
    octet?_toDigits (show a.value / 65536 % 256 ≤ 255 by omega),
    octet?_toDigits (show a.value / 256 % 256 ≤ 255 by omega),
    octet?_toDigits (show a.value % 256 ≤ 255 by omega)]
  exact congrArg some (ofOctets_value a)

theorem isDigit_or_point_of_mem_toText {a : Address} {c : Char} (hc : c ∈ a.toText.toList) :
    c.isDigit = true ∨ c = '.' := by
  rw [toList_toText] at hc
  simp only [List.mem_append, List.mem_cons] at hc
  rcases hc with hc | rfl | hc | rfl | hc | rfl | hc
  case inr.inl | inr.inr.inr.inl | inr.inr.inr.inr.inr.inl => exact Or.inr rfl
  all_goals exact Or.inl (Text.isDigit_of_mem_toDigits hc)

theorem isBlank_of_mem_toText {a : Address} {c : Char} (hc : c ∈ a.toText.toList) :
    Text.isBlank c = false := by
  rcases isDigit_or_point_of_mem_toText hc with hdigit | rfl
  · exact Text.isBlank_of_isDigit hdigit
  · rfl

theorem slash_not_mem_toText (a : Address) : '/' ∉ a.toText.toList := by
  intro hc
  rcases isDigit_or_point_of_mem_toText hc with hdigit | hpoint
  · cases hdigit
  · exact absurd hpoint (by decide)

theorem parse_toText (a : Address) : parse a.toText = .ok a := by
  have htrim : Text.trimChars a.toText.toList = a.toText.toList :=
    Text.trimChars_of_forall fun c hc => isBlank_of_mem_toText hc
  rw [parse, htrim, ofChars?_toText]

end Address

/-!
## Blocks
-/

namespace Block

theorem toList_toText (b : Block) :
    b.toText.toList = b.address.toText.toList ++ '/' :: Nat.toDigits 10 b.length := by
  simp [toText, toString]

theorem parseLength_toDigits {n : Nat} (h : n ≤ 32) :
    parseLength (Nat.toDigits 10 n) = .ok ⟨n, h⟩ := by
  have hsign : (Nat.toDigits 10 n).head? ≠ some '+' := by
    intro hhead
    exact Text.not_mem_toDigits (by decide) n (List.mem_of_head? hhead)
  have hnumeral : lengthNumeral? (Nat.toDigits 10 n) = some n := by
    rw [lengthNumeral?, if_neg hsign, Text.numeral?_toDigits, Option.filter_some,
      if_pos (decide_eq_true (by omega))]
  rw [parseLength, hnumeral]
  exact dif_pos h

theorem trimChars_toText (b : Block) : Text.trimChars b.toText.toList = b.toText.toList := by
  apply Text.trimChars_of_forall
  intro c hc
  rw [toList_toText, List.mem_append, List.mem_cons] at hc
  rcases hc with haddress | rfl | hlength
  · exact Address.isBlank_of_mem_toText haddress
  · rfl
  · exact Text.isBlank_of_isDigit (Text.isDigit_of_mem_toDigits hlength)

theorem parse_toText (b : Block) : parse b.toText = .ok b := by
  have hcut : Text.cutAt? '/' (Text.trimChars b.toText.toList) =
      some (b.address.toText.toList, Nat.toDigits 10 b.length) := by
    rw [trimChars_toText, toList_toText, Text.cutAt?_append (Address.slash_not_mem_toText _)]
  simp only [parse, hcut, String.ofList_toList, Address.parse_toText,
    parseLength_toDigits b.length_le]
  rfl

/-- The text of a block without host bits is accepted wherever an address or a block may be
given. -/
theorem isAddressOrNetwork_toText {b : Block} (h : b.IsNetwork) :
    isAddressOrNetwork b.toText = true := by
  have hslash : b.toText.toList.contains '/' = true := by
    rw [toList_toText]
    simp
  rw [isAddressOrNetwork, if_pos hslash, parseNetwork, parse_toText]
  simp only [if_pos h]
  rfl

end Block

/-!
## Texts that are refused
-/

namespace Text

/-- A character that is no separator stands in one of the pieces. -/
theorem mem_splitAll {α : Type} [DecidableEq α] {sep c : α} {cs : List α} (hc : c ∈ cs)
    (hsep : c ≠ sep) : exists piece, piece ∈ splitAll sep cs ∧ c ∈ piece := by
  induction cs with
  | nil =>
      cases hc
  | cons d cs ih =>
      by_cases hd : d = sep
      · have hmem : c ∈ cs := by
          rcases List.mem_cons.mp hc with rfl | hmem
          · exact absurd hd hsep
          · exact hmem
        rcases ih hmem with ⟨piece, hpiece, hin⟩
        rw [hd, splitAll_cons_self]
        exact ⟨piece, List.mem_cons_of_mem _ hpiece, hin⟩
      · rcases List.exists_cons_of_ne_nil (splitAll_ne_nil sep cs) with ⟨first, pieces, hpieces⟩
        rw [splitAll_cons_of_ne hd hpieces]
        rw [hpieces] at ih
        rcases List.mem_cons.mp hc with rfl | hmem
        · exact ⟨c :: first, List.mem_cons_self, List.mem_cons_self⟩
        · rcases ih hmem with ⟨piece, hpiece, hin⟩
          rcases List.mem_cons.mp hpiece with rfl | hlater
          · exact ⟨d :: piece, List.mem_cons_self, List.mem_cons_of_mem d hin⟩
          · exact ⟨piece, List.mem_cons_of_mem _ hlater, hin⟩

theorem isDigit_of_numeral? {cs : List Char} {n : Nat} (h : numeral? cs = some n) {c : Char}
    (hc : c ∈ cs) : c.isDigit = true :=
  List.all_eq_true.mp (numeral?_eq_some_iff.mp h).right.left c hc

end Text

namespace Address

theorem isDigit_of_octet? {cs : List Char} {n : Nat} (h : octet? cs = some n) {c : Char}
    (hc : c ∈ cs) : c.isDigit = true := by
  unfold octet? at h
  split at h
  · exact Text.isDigit_of_numeral? (Option.filter_eq_some_iff.mp h).left hc
  · cases h

theorem isDigit_of_ofChars? {cs : List Char} {a : Address} (h : ofChars? cs = some a) {c : Char}
    (hc : c ∈ cs) (hpoint : c ≠ '.') : c.isDigit = true := by
  rcases Text.mem_splitAll hc hpoint with ⟨piece, hpiece, hin⟩
  unfold ofChars? at h
  split at h
  next first second third fourth hsplit =>
    simp only [Option.bind_eq_bind, Option.bind_eq_some_iff] at h
    rcases h with ⟨_, hfirst, _, hsecond, _, hthird, _, hfourth, _⟩
    rw [hsplit] at hpiece
    simp only [List.mem_cons, List.not_mem_nil, or_false] at hpiece
    rcases hpiece with rfl | rfl | rfl | rfl
    · exact isDigit_of_octet? hfirst hin
    · exact isDigit_of_octet? hsecond hin
    · exact isDigit_of_octet? hthird hin
    · exact isDigit_of_octet? hfourth hin
  next =>
    cases h

theorem isDigit_of_parse {text : String} {a : Address} (h : parse text = .ok a) {c : Char}
    (hc : c ∈ text.toList) (hpoint : c ≠ '.') (hblank : Text.isBlank c = false) :
    c.isDigit = true := by
  unfold parse at h
  split at h
  next found hfound =>
    exact isDigit_of_ofChars? hfound ((Text.mem_trimChars_iff hblank _).mpr hc) hpoint
  next =>
    cases h

end Address

namespace Block

/-- What stands before the slash of a block's text is read as an address. -/
theorem parse_address_of_parse {text : String} {b : Block} (h : parse text = .ok b) :
    exists before after, Text.trimChars text.toList = before ++ '/' :: after ∧
      Address.parse (String.ofList before) = .ok b.address := by
  unfold parse at h
  simp only at h
  split at h
  next =>
    cases h
  next before after hcut =>
    refine ⟨before, after, (Text.append_of_cutAt? hcut).left, ?_⟩
    cases haddress : Address.parse (String.ofList before) with
    | error e =>
        rw [haddress] at h
        cases h
    | ok address =>
        cases hlength : parseLength after with
        | error e =>
            rw [haddress, hlength] at h
            cases h
        | ok length =>
            rw [haddress, hlength] at h
            cases h
            rfl

/-- A text that starts with a mark is neither an address nor a block. -/
theorem isAddressOrNetwork_of_head? {text : String} {c : Char} (htrim : Text.trim text = text)
    (hhead : text.toList.head? = some c) (hdigit : c.isDigit = false) (hmark : c ≠ '.' ∧ c ≠ '/')
    (hblank : Text.isBlank c = false) : isAddressOrNetwork text = false := by
  rw [Bool.eq_false_iff]
  intro h
  have hno : forall start : String, c ∈ start.toList -> forall a, Address.parse start ≠ .ok a := by
    intro start hc a hparse
    rw [Address.isDigit_of_parse hparse hc hmark.left hblank] at hdigit
    cases hdigit
  unfold isAddressOrNetwork at h
  split at h
  next =>
    unfold parseNetwork at h
    cases hparse : parse text with
    | error e =>
        rw [hparse] at h
        cases h
    | ok b =>
        rcases parse_address_of_parse hparse with ⟨before, after, hparts, haddress⟩
        have htext : text.toList = before ++ '/' :: after := by
          rw [← hparts, ← Text.toList_trim, htrim]
        refine hno (String.ofList before) ?_ _ haddress
        rw [String.toList_ofList]
        cases before with
        | nil =>
            rw [htext, List.nil_append, List.head?_cons, Option.some.injEq] at hhead
            exact absurd hhead.symm hmark.right
        | cons d before =>
            rw [htext, List.cons_append, List.head?_cons, Option.some.injEq] at hhead
            rw [hhead]
            exact List.mem_cons_self
  next =>
    cases hparse : Address.parse text with
    | error e =>
        rw [hparse] at h
        cases h
    | ok a =>
        exact hno text (List.mem_of_head? hhead) a hparse

end Block
end NetworkPlan
