import NetworkPlan.Json.Basic
import NetworkPlan.Proofs.Address.Notation

/-!
# The characters of a number

The text of a number is made of digits, signs, a point and the mark of an exponent, and it is not
empty.  So it ends before a line end or a bracket, and it starts like no other value.
-/

namespace NetworkPlan
namespace Number

/-- The characters that the text of a number may contain. -/
def allows (c : Char) : Bool :=
  c.isDigit || c = '+' || c = '-' || c = '.' || c = 'e'

/-- Nothing but such characters. -/
def Written (cs : List Char) : Prop :=
  forall c, c ∈ cs -> allows c = true

namespace Written

variable {cs ds : List Char}

theorem nil : Written [] := by
  intro c hc
  cases hc

theorem cons {c : Char} (hc : allows c = true) (h : Written cs) : Written (c :: cs) :=
  List.forall_mem_cons.mpr ⟨hc, h⟩

theorem append (h : Written cs) (h' : Written ds) : Written (cs ++ ds) :=
  List.forall_mem_append.mpr ⟨h, h'⟩

theorem take (h : Written cs) (n : Nat) : Written (cs.take n) :=
  fun c hc => h c (List.mem_of_mem_take hc)

theorem drop (h : Written cs) (n : Nat) : Written (cs.drop n) :=
  fun c hc => h c (List.mem_of_mem_drop hc)

theorem sign (negative : Prop) [Decidable negative] : Written (if negative then ['-'] else []) := by
  split
  · exact .cons rfl .nil
  · exact .nil

theorem zeros (n : Nat) : Written (List.replicate n '0') := by
  intro c hc
  rw [(List.mem_replicate.mp hc).right]
  rfl

theorem numeral (n : Nat) : Written (Nat.toDigits 10 n) := by
  intro c hc
  simp [allows, Text.isDigit_of_mem_toDigits hc]

end Written
end Number

namespace Binary64

open Number

theorem written_positional {digits : List Char} (h : Written digits) (power : Int) :
    Written (positional digits power) := by
  unfold positional
  split
  next =>
    exact (h.append (.zeros _)).append (.cons rfl (.cons rfl .nil))
  next =>
    dsimp only
    split
    next =>
      exact (h.take _).append (.cons rfl (h.drop _))
    next =>
      exact (Written.cons rfl (.cons rfl (.zeros _))).append h

theorem written_scientific {digits : List Char} (h : Written digits) (leading : Int) :
    Written (scientific digits leading) := by
  have hfraction : Written (if digits.length ≤ 1 then [] else '.' :: digits.tail) := by
    split
    · exact .nil
    · exact .cons rfl (List.drop_one ▸ h.drop 1)
  have hsign : allows (if 0 ≤ leading then '+' else '-') = true := by
    split <;> rfl
  unfold scientific
  rw [Nat.toString_eq_repr, Nat.toList_repr]
  exact ((h.take 1).append hfraction).append (.cons rfl (.cons hsign (.numeral _)))

theorem positional_ne_nil (digits : List Char) (power : Int) : positional digits power ≠ [] := by
  unfold positional
  split
  · simp
  · dsimp only
    split <;> simp

theorem scientific_ne_nil (digits : List Char) (leading : Int) :
    scientific digits leading ≠ [] := by
  simp [scientific]

theorem written_toText (x : Binary64) : Written x.toText.toList := by
  unfold toText
  rw [String.toList_ofList]
  apply Written.append (.sign _)
  split
  next =>
    exact .cons rfl (.cons rfl (.cons rfl .nil))
  next =>
    dsimp only
    rw [Nat.toString_eq_repr, Nat.toList_repr]
    split
    · exact written_positional (.numeral _) _
    · exact written_scientific (.numeral _) _

theorem toText_ne_nil (x : Binary64) : x.toText.toList ≠ [] := by
  unfold toText
  rw [String.toList_ofList]
  apply List.append_ne_nil_of_right_ne_nil
  split
  next =>
    exact List.cons_ne_nil _ _
  next =>
    dsimp only
    split
    · exact positional_ne_nil _ _
    · exact scientific_ne_nil _ _

end Binary64

namespace Number

theorem toList_toText_integer (n : Int) :
    (integer n).toText.toList = (if n < 0 then ['-'] else []) ++ Nat.toDigits 10 n.natAbs := by
  cases n with
  | ofNat n =>
      show (toString n).toList = _
      simp
  | negSucc n =>
      show ("-" ++ toString (n + 1)).toList = _
      simp

theorem written_toText (n : Number) : Written n.toText.toList := by
  cases n with
  | integer n =>
      rw [toList_toText_integer]
      exact Written.append (.sign _) (.numeral _)
  | double x =>
      exact x.written_toText

theorem not_mem_toText (n : Number) {c : Char} (hc : allows c = false) : c ∉ n.toText.toList := by
  intro hmem
  rw [n.written_toText c hmem] at hc
  cases hc

theorem toText_ne_nil (n : Number) : n.toText.toList ≠ [] := by
  cases n with
  | integer n =>
      rw [toList_toText_integer]
      exact List.append_ne_nil_of_right_ne_nil _ Nat.toDigits_ne_nil
  | double x =>
      exact x.toText_ne_nil

end Number
end NetworkPlan
