/-!
# Double-precision numbers

A double-precision number as exact data: not a number, an infinity, or a sign with `m · 2 ^ q`,
where `m` has at most 53 bits and `q` is at least -1074. A decimal is read as the nearest such
number, and half way between two of them as the one with the even mantissa.
-/

namespace ScriptForms

/-- A double-precision number. -/
inductive Binary64 where
  | nan
  | infinite (negative : Bool)
  | finite (negative : Bool) (mantissa : Nat) (exponent : Int)
  deriving DecidableEq, Repr

namespace Binary64

/-- Zero, with the given sign. -/
def zero (negative : Bool) : Binary64 :=
  finite negative 0 (-1074)

/-- Whether the number is zero, of either sign. -/
def isZero : Binary64 → Bool
  | finite _ m _ => m == 0
  | _ => false

/-- `a / b` to the nearest natural number, half way to the even one. -/
def roundDiv (a b : Nat) : Nat :=
  let quotient := a / b
  let twice := 2 * (a % b)
  if twice < b then quotient
  else if b < twice then quotient + 1
  else quotient + quotient % 2

/-- The greatest `e` with `2 ^ e ≤ a / b`, for positive `a` and `b`. -/
def floorLog2 (a b : Nat) : Int :=
  let guess : Int := (Nat.log2 a : Int) - Nat.log2 b
  if b * Nat.pow 2 guess.toNat ≤ a * Nat.pow 2 (-guess).toNat then guess else guess - 1

/-- The double nearest to `a / b`, for positive `a` and `b`. -/
def ofRatio (negative : Bool) (a b : Nat) : Binary64 :=
  let q := max (floorLog2 a b - 52) (-1074)
  let m := roundDiv (a * Nat.pow 2 (-q).toNat) (b * Nat.pow 2 q.toNat)
  let (m, q) := if m = Nat.pow 2 53 then (Nat.pow 2 52, q + 1) else (m, q)
  if 971 < q then infinite negative else finite negative m q

/-- The double nearest to `digits · 10 ^ exponent`. A magnitude beyond `10 ^ 310` is infinite and
one below `10 ^ -330` is zero, whatever its digits. -/
def ofDecimal (negative : Bool) (digits : Nat) (exponent : Int) : Binary64 :=
  if digits = 0 then zero negative
  else
    let magnitude := (Nat.toDigits 10 digits).length + exponent
    if 310 < magnitude then infinite negative
    else if magnitude < -330 then zero negative
    else ofRatio negative (digits * Nat.pow 10 exponent.toNat) (Nat.pow 10 (-exponent).toNat)

end Binary64

end ScriptForms
