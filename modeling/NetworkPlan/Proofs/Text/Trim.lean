import NetworkPlan.Address.Notation
import Mathlib.Data.List.DropRight

/-!
# Trimmed texts

Trimming twice is trimming once, and the readers of addresses and blocks do not see blanks
around their text, so a document may be checked with the trimmed text and read with the text as
given.
-/

namespace NetworkPlan
namespace Text

theorem dropWhile_rdropWhile_dropWhile {α : Type} (p : α → Bool) (cs : List α) :
    ((cs.dropWhile p).rdropWhile p).dropWhile p = (cs.dropWhile p).rdropWhile p := by
  rw [List.dropWhile_eq_self_iff]
  intro hpos
  -- What is left after cutting on the right starts as what was there before.
  have hstart : (cs.dropWhile p).rdropWhile p <+: cs.dropWhile p := List.rdropWhile_prefix p _
  have hne : 0 < (cs.dropWhile p).length := Nat.lt_of_lt_of_le hpos hstart.length_le
  have hidem : (cs.dropWhile p).dropWhile p = cs.dropWhile p := List.dropWhile_idempotent p cs
  rw [List.IsPrefix.getElem hstart hpos]
  exact List.dropWhile_eq_self_iff.mp hidem hne

theorem trimChars_eq (cs : List Char) :
    trimChars cs = (cs.dropWhile isBlank).rdropWhile isBlank :=
  rfl

@[simp] theorem trimChars_trimChars (cs : List Char) :
    trimChars (trimChars cs) = trimChars cs := by
  rw [trimChars_eq, trimChars_eq, dropWhile_rdropWhile_dropWhile]
  exact List.rdropWhile_idempotent isBlank _

@[simp] theorem toList_trim (s : String) : (trim s).toList = trimChars s.toList :=
  String.toList_ofList

@[simp] theorem trim_trim (s : String) : trim (trim s) = trim s := by
  rw [trim, toList_trim, trimChars_trimChars, trim]

theorem nonBlank?_eq_some_iff {s t : String} : nonBlank? s = some t ↔ trim s = t ∧ t ≠ "" := by
  unfold nonBlank?
  by_cases hs : trim s = ""
  · rw [if_pos hs]
    constructor
    · intro h
      cases h
    · intro h
      rw [hs] at h
      exact absurd h.left.symm h.right
  · rw [if_neg hs, Option.some.injEq]
    constructor
    · intro h
      exact And.intro h (h ▸ hs)
    · exact And.left

theorem nonBlank?_empty : nonBlank? "" = none := rfl

/-- A text that is not blank is not empty. -/
theorem ne_empty_of_nonBlank? {s t : String} (h : nonBlank? s = some t) : s ≠ "" := by
  intro hs
  rw [hs, nonBlank?_empty] at h
  cases h

/-!
## What trimming keeps
-/

theorem mem_dropWhile_iff {α : Type} {p : α → Bool} {c : α} (hc : p c = false) (cs : List α) :
    c ∈ cs.dropWhile p ↔ c ∈ cs := by
  induction cs with
  | nil =>
      rfl
  | cons d cs ih =>
      by_cases hd : p d = true
      · have hne : c ≠ d := by
          intro h
          rw [h, hd] at hc
          cases hc
        rw [List.dropWhile_cons_of_pos hd, ih, List.mem_cons]
        simp [hne]
      · rw [List.dropWhile_cons_of_neg hd]

theorem mem_trimChars_iff {c : Char} (hc : isBlank c = false) (cs : List Char) :
    c ∈ trimChars cs ↔ c ∈ cs := by
  rw [trimChars, List.mem_reverse, mem_dropWhile_iff hc, List.mem_reverse, mem_dropWhile_iff hc]

theorem dropWhile_of_forall {α : Type} {p : α → Bool} {cs : List α}
    (h : ∀ c ∈ cs, p c = false) : cs.dropWhile p = cs := by
  cases cs with
  | nil =>
      rfl
  | cons c cs =>
      exact List.dropWhile_cons_of_neg (by simp [h c List.mem_cons_self])

/-- A text without blanks stays as it is. -/
theorem trimChars_of_forall {cs : List Char} (h : ∀ c ∈ cs, isBlank c = false) :
    trimChars cs = cs := by
  have hreverse : ∀ c ∈ cs.reverse, isBlank c = false := by
    intro c hc
    exact h c (List.mem_reverse.mp hc)
  rw [trimChars, dropWhile_of_forall h, dropWhile_of_forall hreverse, List.reverse_reverse]

theorem isBlank_of_isDigit {c : Char} (h : c.isDigit = true) : isBlank c = false := by
  have hcode : 48 ≤ c.toNat ∧ c.toNat ≤ 57 := by
    simpa [Char.isDigit, UInt32.le_iff_toNat_le] using h
  simp only [isBlank, Bool.or_eq_false_iff, Bool.and_eq_false_iff, decide_eq_false_iff_not,
    beq_eq_false_iff_ne]
  omega

end Text

/-!
# Readers that do not see blanks
-/

namespace Address

theorem isOk_parse (s : String) :
    (parse s).isOk = (ofChars? (Text.trimChars s.toList)).isSome := by
  unfold parse
  cases ofChars? (Text.trimChars s.toList) <;> rfl

@[simp] theorem isOk_parse_trim (s : String) : (parse (Text.trim s)).isOk = (parse s).isOk := by
  rw [isOk_parse, isOk_parse, Text.toList_trim, Text.trimChars_trimChars]

end Address

namespace Block

@[simp] theorem parse_trim (s : String) : parse (Text.trim s) = parse s := by
  unfold parse
  rw [Text.toList_trim, Text.trimChars_trimChars]

@[simp] theorem parseNetwork_trim (s : String) :
    parseNetwork (Text.trim s) = parseNetwork s := by
  unfold parseNetwork
  rw [parse_trim, Text.trim_trim]

@[simp] theorem isAddressOrNetwork_trim (s : String) :
    isAddressOrNetwork (Text.trim s) = isAddressOrNetwork s := by
  have hslash : (Text.trim s).toList.contains '/' = s.toList.contains '/' := by
    rw [Bool.eq_iff_iff, List.contains_iff_mem, List.contains_iff_mem, Text.toList_trim]
    exact Text.mem_trimChars_iff (by decide) s.toList
  unfold isAddressOrNetwork
  rw [hslash, parseNetwork_trim, Address.isOk_parse_trim]

/-- The reader that refuses host bits gives blocks without host bits. -/
theorem isNetwork_of_parseNetwork {s : String} {b : Block} (h : parseNetwork s = .ok b) :
    b.IsNetwork := by
  unfold parseNetwork at h
  split at h
  · cases h
  · split at h
    next hnetwork =>
      cases h
      exact hnetwork
    next => cases h

end Block
end NetworkPlan
