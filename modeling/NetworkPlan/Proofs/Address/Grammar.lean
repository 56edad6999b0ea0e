import Mathlib.Data.Nat.Bitwise
import NetworkPlan.Proofs.Address.Extent
import NetworkPlan.Proofs.Address.Notation

/-!
# The grammar of addresses and blocks

Which texts stand for an address or a block is said here without the readers: what a decimal
numeral is, an octet, a dotted quad and a prefix length.  The readers are then shown to accept
exactly these texts, to give what they stand for, and to report the first part from the left that
does not belong to the grammar.
-/

namespace NetworkPlan
namespace Text

/-!
## Numerals
-/

/-- A number in decimal digits, at least one; leading zeros are allowed. -/
structure Numeral (cs : List Char) (n : Nat) : Prop where
  ne_nil : cs ≠ []
  digits : forall c, c ∈ cs -> c.isDigit = true
  value : Nat.ofDigitChars 10 cs 0 = n

variable {cs : List Char} {n : Nat}

theorem numeral?_eq_some_iff_numeral : numeral? cs = some n ↔ Numeral cs n := by
  rw [numeral?_eq_some_iff, List.all_eq_true]
  constructor
  · intro h
    exact ⟨h.left, h.right.left, h.right.right⟩
  · intro h
    exact ⟨h.ne_nil, h.digits, h.value⟩

theorem Numeral.unique {m : Nat} (h : Numeral cs n) (h' : Numeral cs m) : n = m :=
  h.value.symm.trans h'.value

theorem toDigits_digitValue {c : Char} (h : c.isDigit = true) :
    Nat.toDigits 10 (digitValue c) = [c] := by
  have hcode : 48 ≤ c.toNat ∧ c.toNat ≤ 57 := Char.isDigit_iff_toNat.mp h
  have hvalue : digitValue c = c.toNat - 48 := rfl
  have hsmall : digitValue c < 10 := by
    omega
  rw [Nat.toDigits_of_lt_base hsmall, List.cons.injEq]
  refine ⟨Char.toNat_inj.mp ?_, rfl⟩
  rw [Nat.toNat_digitChar_of_lt_ten hsmall]
  omega

/-- Without a leading zero there is one way to write a number. -/
theorem Numeral.eq_toDigits (h : Numeral cs n) (hzero : cs.head? = some '0' -> cs = ['0']) :
    cs = Nat.toDigits 10 n := by
  induction cs using List.reverseRecOn generalizing n with
  | nil =>
      exact absurd rfl h.ne_nil
  | append_singleton start last ih =>
      have hlast : last.isDigit = true := h.digits last (by simp)
      have hsmall : digitValue last < 10 := by
        have hcode : 48 ≤ last.toNat ∧ last.toNat ≤ 57 := Char.isDigit_iff_toNat.mp hlast
        have hvalue : digitValue last = last.toNat - 48 := rfl
        omega
      have hvalue : 10 * Nat.ofDigitChars 10 start 0 + digitValue last = n := by
        rw [← h.value, Nat.ofDigitChars_append]
        rfl
      by_cases hstart : start = []
      · rw [← hvalue, hstart]
        simp [toDigits_digitValue hlast]
      · have hhead : start.head? ≠ some '0' := by
          intro hhead
          have hsingle := hzero (by rw [List.head?_append_of_ne_nil _ hstart, hhead])
          have hlength := congrArg List.length hsingle
          have hpos := List.length_pos_iff.mpr hstart
          simp only [List.length_append, List.length_singleton] at hlength
          omega
        have hfirst : start = Nat.toDigits 10 (Nat.ofDigitChars 10 start 0) :=
          ih ⟨hstart, fun c hc => h.digits c (List.mem_append_left _ hc), rfl⟩
            fun hhead' => absurd hhead' hhead
        have hpos : 0 < Nat.ofDigitChars 10 start 0 := by
          apply Nat.pos_of_ne_zero
          intro hnone
          rw [hnone] at hfirst
          exact hhead (by rw [hfirst]; rfl)
        rw [← hvalue, ← Nat.toDigits_append_toDigits (by decide) hpos hsmall, ← hfirst,
          toDigits_digitValue hlast]

/-- The pieces between separators and the separators are the text. -/
theorem intercalate_splitAll {α : Type} [DecidableEq α] (sep : α) (cs : List α) :
    [sep].intercalate (splitAll sep cs) = cs := by
  induction cs with
  | nil =>
      rfl
  | cons c cs ih =>
      rcases List.exists_cons_of_ne_nil (splitAll_ne_nil sep cs) with ⟨piece, pieces, hpieces⟩
      rw [hpieces] at ih
      by_cases hc : c = sep
      · rw [hc, splitAll_cons_self, hpieces, List.intercalate_cons_cons, ih]
        rfl
      · rw [splitAll_cons_of_ne hc hpieces]
        cases pieces with
        | nil =>
            rw [List.intercalate_singleton] at ih ⊢
            rw [ih]
        | cons next pieces =>
            rw [List.intercalate_cons_cons] at ih ⊢
            rw [List.cons_append, List.cons_append, ih]

end Text

/-!
## Addresses
-/

namespace Address

/-- A number up to 255 in decimal digits without a leading zero. -/
structure Octet (cs : List Char) (n : Nat) : Prop extends Text.Numeral cs n where
  le : n ≤ 255
  no_leading_zero : cs.head? = some '0' -> cs = ['0']

/-- Four octets with points between them. -/
inductive DottedQuad : List Char -> Address -> Prop
  | octets {first second third fourth : List Char} {a b c d : Nat} (hfirst : Octet first a)
      (hsecond : Octet second b) (hthird : Octet third c) (hfourth : Octet fourth d) :
      DottedQuad (first ++ '.' :: (second ++ '.' :: (third ++ '.' :: fourth))) (ofOctets a b c d)

variable {cs : List Char} {n : Nat} {a : Address}

theorem octet?_eq_some_iff : octet? cs = some n ↔ Octet cs n := by
  constructor
  · intro h
    unfold octet? at h
    split at h
    next hform =>
      rcases Option.filter_eq_some_iff.mp h with ⟨hnumeral, hle⟩
      refine ⟨Text.numeral?_eq_some_iff_numeral.mp hnumeral, of_decide_eq_true hle, ?_⟩
      intro hhead
      rcases List.length_eq_one_iff.mp (hform.right hhead) with ⟨c, rfl⟩
      rw [List.head?_cons, Option.some.injEq] at hhead
      rw [hhead]
    next =>
      cases h
  · intro h
    rw [h.eq_toDigits h.no_leading_zero]
    exact octet?_toDigits h.le

theorem Octet.point_not_mem (h : Octet cs n) : '.' ∉ cs := by
  intro hmem
  cases h.digits '.' hmem

theorem ofChars?_eq_some_iff : ofChars? cs = some a ↔ DottedQuad cs a := by
  constructor
  · intro h
    unfold ofChars? at h
    split at h
    next first second third fourth hsplit =>
      have hparts := Text.intercalate_splitAll '.' cs
      rw [hsplit] at hparts
      simp only [List.intercalate_cons_cons, List.intercalate_singleton, List.append_assoc,
        List.singleton_append] at hparts
      simp only [Option.bind_eq_bind, Option.bind_eq_some_iff, octet?_eq_some_iff] at h
      rcases h with ⟨_, hfirst, _, hsecond, _, hthird, _, hfourth, hvalue⟩
      cases hvalue
      rw [← hparts]
      exact DottedQuad.octets hfirst hsecond hthird hfourth
    next =>
      cases h
  · intro h
    cases h with
    | octets hfirst hsecond hthird hfourth =>
        unfold ofChars?
        rw [Text.splitAll_append hfirst.point_not_mem, Text.splitAll_append hsecond.point_not_mem,
          Text.splitAll_append hthird.point_not_mem, Text.splitAll_of_not_mem hfourth.point_not_mem]
        simp only [octet?_eq_some_iff.mpr hfirst, octet?_eq_some_iff.mpr hsecond,
          octet?_eq_some_iff.mpr hthird, octet?_eq_some_iff.mpr hfourth]
        rfl

theorem parse_ofList_eq_ok_iff :
    parse (String.ofList cs) = .ok a ↔ DottedQuad (Text.trimChars cs) a := by
  rw [← ofChars?_eq_some_iff, parse, String.toList_ofList]
  cases ofChars? (Text.trimChars cs) <;> simp

theorem parse_ofList_eq_error_iff {e : NotationError} :
    parse (String.ofList cs) = .error e ↔
      (forall a, ¬ DottedQuad (Text.trimChars cs) a) ∧ e = .address (String.ofList cs) := by
  simp only [← ofChars?_eq_some_iff]
  rw [parse, String.toList_ofList]
  cases ofChars? (Text.trimChars cs) <;> simp [eq_comm]

theorem parse_eq_ok_iff {text : String} :
    parse text = .ok a ↔ DottedQuad (Text.trimChars text.toList) a := by
  rw [← parse_ofList_eq_ok_iff, String.ofList_toList]

end Address

/-!
## Blocks
-/

namespace Block

/-- A numeral, perhaps after a plus sign. -/
inductive LengthNumeral : List Char -> Nat -> Prop
  | plain {cs : List Char} {n : Nat} (h : Text.Numeral cs n) : LengthNumeral cs n
  | signed {cs : List Char} {n : Nat} (h : Text.Numeral cs n) : LengthNumeral ('+' :: cs) n

variable {cs : List Char} {n : Nat}

theorem lengthNumeral?_eq_some_iff : lengthNumeral? cs = some n ↔ LengthNumeral cs n ∧ n < 256 := by
  rw [lengthNumeral?, Option.filter_eq_some_iff, decide_eq_true_eq,
    Text.numeral?_eq_some_iff_numeral]
  refine and_congr_left fun _ => ?_
  constructor
  · intro h
    split at h
    next hsign =>
      rcases List.head?_eq_some_iff.mp hsign with ⟨rest, rfl⟩
      exact LengthNumeral.signed h
    next =>
      exact LengthNumeral.plain h
  · intro h
    cases h with
    | plain h =>
        have hsign : cs.head? ≠ some '+' := by
          intro hhead
          cases h.digits '+' (List.mem_of_head? hhead)
        rwa [if_neg hsign]
    | signed h =>
        rwa [if_pos (List.head?_cons ..), List.tail_cons]

theorem LengthNumeral.unique {m : Nat} (h : LengthNumeral cs n) (h' : LengthNumeral cs m) :
    n = m := by
  cases h with
  | plain h =>
      cases h' with
      | plain h' => exact h.unique h'
      | signed h' => cases h.digits '+' List.mem_cons_self
  | signed h =>
      cases h' with
      | plain h' => cases h'.digits '+' List.mem_cons_self
      | signed h' => exact h.unique h'

/-- The text before and after the first slash, without the blanks around the whole. -/
structure Parts (text : String) (before after : List Char) : Prop where
  append : Text.trimChars text.toList = before ++ '/' :: after
  first : '/' ∉ before

/-- What a text stands for as a block, or the fault that is reported: the first from the left. -/
inductive Notation (text : String) : Except NotationError Block -> Prop
  /-- There is no slash. -/
  | format (h : '/' ∉ text.toList) : Notation text (.error (.format (Text.trim text)))
  /-- What stands before the slash is no dotted quad. -/
  | address {before after : List Char} (hparts : Parts text before after)
      (hquad : forall a, ¬ Address.DottedQuad (Text.trimChars before) a) :
      Notation text (.error (.address (String.ofList before)))
  /-- What stands after the slash is no number of one byte. -/
  | length {before after : List Char} {a : Address} (hparts : Parts text before after)
      (hquad : Address.DottedQuad (Text.trimChars before) a)
      (hlength : forall n, LengthNumeral after n -> 255 < n) :
      Notation text (.error (.prefixLength (String.ofList after)))
  /-- The number after the slash is no prefix length. -/
  | range {before after : List Char} {a : Address} {n : Nat} (hparts : Parts text before after)
      (hquad : Address.DottedQuad (Text.trimChars before) a) (hlength : LengthNumeral after n)
      (hbyte : n ≤ 255) (hgt : 32 < n) : Notation text (.error (.prefixLength (toString n)))
  | block {before after : List Char} {a : Address} {n : Nat} (hparts : Parts text before after)
      (hquad : Address.DottedQuad (Text.trimChars before) a) (hlength : LengthNumeral after n)
      (hle : n ≤ 32) : Notation text (.ok ⟨a, n, hle⟩)

variable {text : String} {before after : List Char}

theorem slash_mem_trimChars_iff : '/' ∈ Text.trimChars text.toList ↔ '/' ∈ text.toList :=
  Text.mem_trimChars_iff (by decide) _

theorem parts_iff :
    Text.cutAt? '/' (Text.trimChars text.toList) = some (before, after) ↔
      Parts text before after := by
  constructor
  · intro h
    exact ⟨(Text.append_of_cutAt? h).left, (Text.append_of_cutAt? h).right⟩
  · intro h
    rw [h.append, Text.cutAt?_append h.first]

theorem exists_parts_iff : (exists before after, Parts text before after) ↔ '/' ∈ text.toList := by
  rw [← slash_mem_trimChars_iff, ← not_iff_not, ← Text.cutAt?_eq_none_iff,
    Option.eq_none_iff_forall_ne_some]
  simp only [← parts_iff, Prod.forall, not_exists, ne_eq]

theorem parseLength_eq_ok_iff (hle : n ≤ 32) :
    parseLength cs = .ok ⟨n, hle⟩ ↔ LengthNumeral cs n := by
  have hbyte : n < 256 := Nat.lt_of_le_of_lt hle (by decide)
  rw [← and_iff_left (a := LengthNumeral cs n) hbyte, ← lengthNumeral?_eq_some_iff, parseLength]
  cases lengthNumeral? cs with
  | none =>
      simp
  | some m =>
      by_cases hm : m ≤ 32
      · simp [hm]
      · simp only [dif_neg hm, reduceCtorEq, Option.some.injEq, false_iff]
        intro hsame
        exact hm (hsame ▸ hle)

/-- A text that is no byte is cited as it is, and a byte that is no prefix length as a number. -/
theorem parseLength_eq_error_iff {e : NotationError} :
    parseLength cs = .error e ↔
      ((forall n, LengthNumeral cs n -> 255 < n) ∧ e = .prefixLength (String.ofList cs)) ∨
        exists n, LengthNumeral cs n ∧ n ≤ 255 ∧ 32 < n ∧ e = .prefixLength (toString n) := by
  rw [parseLength]
  cases hlength : lengthNumeral? cs with
  | none =>
      have hbyte : forall n, LengthNumeral cs n -> 255 < n := by
        intro n hn
        by_contra hle
        rw [lengthNumeral?_eq_some_iff.mpr ⟨hn, by omega⟩] at hlength
        cases hlength
      have hrange : ¬ exists n, LengthNumeral cs n ∧ n ≤ 255 ∧ 32 < n ∧
          e = .prefixLength (toString n) := by
        intro h
        rcases h with ⟨n, hn, hle, _⟩
        exact absurd (hbyte n hn) (by omega)
      rw [or_iff_left hrange, and_iff_right hbyte, Except.error.injEq]
      exact eq_comm
  | some n =>
      rcases lengthNumeral?_eq_some_iff.mp hlength with ⟨hn, hbyte⟩
      have hno : ¬ ((forall n, LengthNumeral cs n -> 255 < n) ∧
          e = .prefixLength (String.ofList cs)) :=
        fun h => absurd (h.left n hn) (by omega)
      rw [or_iff_right hno]
      by_cases hle : n ≤ 32
      · simp only [dif_pos hle, reduceCtorEq, false_iff]
        intro h
        rcases h with ⟨m, hm, _, hgt, _⟩
        exact absurd (hn.unique hm) (by omega)
      · simp only [dif_neg hle, Except.error.injEq]
        constructor
        · intro h
          exact ⟨n, hn, by omega, by omega, h.symm⟩
        · intro h
          rcases h with ⟨m, hm, _, _, rfl⟩
          rw [hn.unique hm]

/-- Where there are two parts, the address is read before the length. -/
theorem parse_of_parts (h : Parts text before after) :
    parse text = (do
      let address ← Address.parse (String.ofList before)
      let length ← parseLength after
      return ⟨address, length.val, length.property⟩) := by
  simp only [parse, parts_iff.mpr h]

theorem parse_of_slash_not_mem (h : '/' ∉ text.toList) :
    parse text = .error (.format (Text.trim text)) := by
  have hcut := (Text.cutAt?_eq_none_iff '/' _).mpr (slash_mem_trimChars_iff.not.mpr h)
  simp only [parse, hcut]
  rfl

theorem notation_parse (text : String) : Notation text (parse text) := by
  by_cases hslash : '/' ∈ text.toList
  · rcases exists_parts_iff.mpr hslash with ⟨before, after, hparts⟩
    rw [parse_of_parts hparts]
    cases haddress : Address.parse (String.ofList before) with
    | error e =>
        rcases Address.parse_ofList_eq_error_iff.mp haddress with ⟨hquad, rfl⟩
        exact Notation.address hparts hquad
    | ok a =>
        have hquad := Address.parse_ofList_eq_ok_iff.mp haddress
        cases hlength : parseLength after with
        | error e =>
            rcases parseLength_eq_error_iff.mp hlength with ⟨hno, rfl⟩ | ⟨n, hn, hbyte, hgt, rfl⟩
            · exact Notation.length hparts hquad hno
            · exact Notation.range hparts hquad hn hbyte hgt
        | ok length =>
            exact Notation.block hparts hquad ((parseLength_eq_ok_iff length.property).mp hlength)
              length.property
  · rw [parse_of_slash_not_mem hslash]
    exact Notation.format hslash

theorem parse_eq_iff {r : Except NotationError Block} : parse text = r ↔ Notation text r := by
  constructor
  · intro h
    rw [← h]
    exact notation_parse text
  · intro h
    cases h with
    | format hslash =>
        exact parse_of_slash_not_mem hslash
    | address hparts hquad =>
        rw [parse_of_parts hparts, Address.parse_ofList_eq_error_iff.mpr ⟨hquad, rfl⟩]
        rfl
    | length hparts hquad hlength =>
        rw [parse_of_parts hparts, Address.parse_ofList_eq_ok_iff.mpr hquad,
          parseLength_eq_error_iff.mpr (Or.inl ⟨hlength, rfl⟩)]
        rfl
    | range hparts hquad hlength hbyte hgt =>
        rw [parse_of_parts hparts, Address.parse_ofList_eq_ok_iff.mpr hquad,
          parseLength_eq_error_iff.mpr (Or.inr ⟨_, hlength, hbyte, hgt, rfl⟩)]
        rfl
    | block hparts hquad hlength hle =>
        rw [parse_of_parts hparts, Address.parse_ofList_eq_ok_iff.mpr hquad,
          (parseLength_eq_ok_iff hle).mpr hlength]
        rfl

/-!
## Host bits
-/

/-- One of the bits behind the prefix is set. -/
def HasHostBits (b : Block) : Prop :=
  exists i, i < 32 - b.length ∧ b.address.value.testBit i = true

theorem hasHostBits_iff {b : Block} : b.HasHostBits ↔ ¬ b.IsNetwork := by
  have hsize : b.size = 2 ^ (32 - b.length) := rfl
  have hnetwork : b.IsNetwork ↔ b.address.value % 2 ^ (32 - b.length) = 0 := by
    rw [isNetwork_iff, low, hsize]
    have hsplit := Nat.div_add_mod' b.address.value (2 ^ (32 - b.length))
    omega
  rw [hnetwork, HasHostBits]
  constructor
  · intro h hzero
    rcases h with ⟨i, hi, hbit⟩
    have hmod := Nat.testBit_mod_two_pow b.address.value (32 - b.length) i
    rw [hzero, Nat.zero_testBit, hbit, decide_eq_true hi] at hmod
    cases hmod
  · intro h
    rcases Nat.exists_testBit_of_ne_zero h with ⟨i, hbit⟩
    rw [Nat.testBit_mod_two_pow, Bool.and_eq_true, decide_eq_true_eq] at hbit
    exact ⟨i, hbit⟩

theorem parseNetwork_eq_ok_iff {b : Block} :
    parseNetwork text = .ok b ↔ parse text = .ok b ∧ ¬ b.HasHostBits := by
  rw [hasHostBits_iff, not_not, parseNetwork]
  cases parse text with
  | error e =>
      simp
  | ok found =>
      by_cases hnetwork : found.IsNetwork
      · simp only [if_pos hnetwork, Except.ok.injEq]
        constructor
        · intro h
          exact ⟨h, h ▸ hnetwork⟩
        · exact And.left
      · simp only [if_neg hnetwork, reduceCtorEq, Except.ok.injEq, false_iff]
        intro h
        exact hnetwork (h.left ▸ h.right)

theorem parseNetwork_eq_error_iff {e : NotationError} :
    parseNetwork text = .error e ↔
      parse text = .error e ∨
        exists b, parse text = .ok b ∧ b.HasHostBits ∧ e = .hostBitsSet (Text.trim text) := by
  simp only [hasHostBits_iff]
  rw [parseNetwork]
  cases parse text with
  | error e' =>
      simp
  | ok found =>
      by_cases hnetwork : found.IsNetwork <;> simp [hnetwork, eq_comm]

theorem isAddressOrNetwork_iff :
    isAddressOrNetwork text = true ↔
      ('/' ∈ text.toList ∧ exists b, parseNetwork text = .ok b) ∨
        ('/' ∉ text.toList ∧ exists a, Address.DottedQuad (Text.trimChars text.toList) a) := by
  simp only [← Address.parse_eq_ok_iff]
  rw [isAddressOrNetwork]
  by_cases hslash : '/' ∈ text.toList
  · rw [if_pos (List.contains_iff_mem.mpr hslash)]
    cases parseNetwork text <;> simp [hslash, Except.isOk, Except.toBool]
  · rw [if_neg (fun h => hslash (List.contains_iff_mem.mp h))]
    cases Address.parse text <;> simp [hslash, Except.isOk, Except.toBool]

end Block

/-!
## Reading
-/

/-- A text is read as a block exactly as its notation says; the strict reader differs only where
bits behind the prefix are set, which it reports; and a text may stand for an address or a block
exactly if the strict reader takes it or, without a slash, it is a dotted quad. -/
theorem blocks_read_exactly (text : String) :
    (forall r, Block.parse text = r ↔ Block.Notation text r) ∧
    (forall b, Block.parseNetwork text = .ok b ↔ Block.parse text = .ok b ∧ ¬ b.HasHostBits) ∧
    (forall e, Block.parseNetwork text = .error e ↔
      Block.parse text = .error e ∨
        exists b, Block.parse text = .ok b ∧ b.HasHostBits ∧ e = .hostBitsSet (Text.trim text)) ∧
    (Block.isAddressOrNetwork text = true ↔
      ('/' ∈ text.toList ∧ exists b, Block.parseNetwork text = .ok b) ∨
        ('/' ∉ text.toList ∧ exists a, Address.DottedQuad (Text.trimChars text.toList) a)) :=
  ⟨fun _ => Block.parse_eq_iff, fun _ => Block.parseNetwork_eq_ok_iff,
    fun _ => Block.parseNetwork_eq_error_iff, Block.isAddressOrNetwork_iff⟩

/-- The fault of a number that is no prefix length does not cite the text of the number: here its
leading zero is missing. -/
theorem leading_zero_of_length_not_cited :
    let text := "10.0.0.0/033"
    Block.Parts text "10.0.0.0".toList "033".toList ∧
    Address.DottedQuad (Text.trimChars "10.0.0.0".toList) (.ofOctets 10 0 0 0) ∧
    (forall n, Block.LengthNumeral "033".toList n -> ¬ n ≤ 32) ∧
    Block.parse text = .error (.prefixLength "33") ∧
    Block.parse text ≠ .error (.prefixLength "033") := by
  intro text
  have hnumeral : Block.LengthNumeral "033".toList 33 :=
    Block.LengthNumeral.plain (Text.numeral?_eq_some_iff_numeral.mp rfl)
  have hread : Block.parse text = .error (.prefixLength "33") := by
    decide
  refine ⟨⟨by decide, by decide⟩, ?_, ?_, hread, ?_⟩
  · exact Address.ofChars?_eq_some_iff.mp rfl
  · intro n hn
    rw [← hnumeral.unique hn]
    decide
  · rw [hread]
    decide

end NetworkPlan
