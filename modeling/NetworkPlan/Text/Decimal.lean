/-!
# Decimal digits

Reading of unsigned decimal numerals. Writing is the standard library's `toString` on `Nat`.
-/

namespace NetworkPlan
namespace Text

/-- The value of one decimal digit. -/
def digitValue (c : Char) : Nat :=
  c.toNat - '0'.toNat

/-- The value of a run of decimal digits, most significant first. -/
def digitsValue (cs : List Char) : Nat :=
  cs.foldl (fun n c => 10 * n + digitValue c) 0

/-- The value of one or more decimal digits and nothing else. -/
def numeral? (cs : List Char) : Option Nat :=
  if cs.isEmpty || !cs.all Char.isDigit then none else some (digitsValue cs)

theorem numeral?_eq_some_iff {cs : List Char} {n : Nat} :
    numeral? cs = some n ↔ cs ≠ [] ∧ cs.all Char.isDigit = true ∧ digitsValue cs = n := by
  unfold numeral?
  cases cs with
  | nil => simp
  | cons c cs => by_cases h : ((c :: cs).all Char.isDigit) = true <;> simp_all

end Text
end NetworkPlan
