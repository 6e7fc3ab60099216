/-!
# Numbers in digits

The numbers that digits write in some base, as the readers of trees, settings and patterns need
them.
-/

namespace ScriptForms.Digits

/-- The value of a hexadecimal digit. -/
def value? (c : Char) : Option Nat :=
  if '0' ≤ c ∧ c ≤ '9' then some (c.toNat - '0'.toNat)
  else if 'a' ≤ c ∧ c ≤ 'f' then some (c.toNat - 'a'.toNat + 10)
  else if 'A' ≤ c ∧ c ≤ 'F' then some (c.toNat - 'A'.toNat + 10)
  else none

/-- The number with the given values of its digits in a base. -/
def ofValues (base : Nat) (values : List Nat) : Nat :=
  values.foldl (fun n value ↦ base * n + value) 0

/-- The number that characters write in a base. -/
def ofChars (base : Nat) (digits : List Char) : Nat :=
  ofValues base (digits.map fun c ↦ (value? c).getD 0)

/-- The most digits that a decimal whole number may have. -/
def maxCount : Nat :=
  4300

end ScriptForms.Digits
