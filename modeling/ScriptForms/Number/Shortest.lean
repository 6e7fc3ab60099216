import ScriptForms.Number.Binary64

/-!
# Shortest decimals

The fewest decimal digits that read back as a given double. A double `m · 2 ^ q` stands for an
interval of reals, those that round to it; the ends belong to it exactly when `m` is even. For one,
two, ... up to seventeen digits the two neighbours of the double on that decimal grid are tried, and
the first grid with a neighbour inside the interval wins. Of two such neighbours the nearer is
taken, and half way between them the even one.
-/

namespace ScriptForms.Binary64

/-- A positive decimal `d₁.d₂d₃… · 10 ^ exponent`, given by its digits. -/
structure Digits where
  digits : List Char
  exponent : Int
  deriving DecidableEq, Repr

/-- The interval of reals that round to a double, in units of `2 ^ scale`. -/
structure Interval where
  low : Nat
  middle : Nat
  high : Nat
  scale : Int
  closed : Bool

/-- The interval of `m · 2 ^ q`. Below a power of two the gap to the next double is half as wide. -/
def interval (m : Nat) (q : Int) : Interval where
  low := if m = Nat.pow 2 52 ∧ -1074 < q then 4 * m - 1 else 4 * m - 2
  middle := 4 * m
  high := 4 * m + 2
  scale := q - 2
  closed := m % 2 == 0

/-- The greatest `e` with `10 ^ e ≤ a / b`, for positive `a` and `b` and a quotient above
`10 ^ -400`. -/
def floorLog10 (a b : Nat) : Int :=
  if b ≤ a then ((Nat.toDigits 10 (a / b)).length : Int) - 1
  else -(((List.range 400).find? fun k ↦ b ≤ a * Nat.pow 10 k).getD 400 : Nat)

/-- The multiple of `10 ^ unit` to write for the interval, if a neighbour of its middle lies
inside. -/
def Interval.nearest? (i : Interval) (unit : Int) : Option Nat :=
  let scaled (x : Nat) := x * Nat.pow 2 i.scale.toNat * Nat.pow 10 (-unit).toNat
  let step := Nat.pow 2 (-i.scale).toNat * Nat.pow 10 unit.toNat
  let inside (c : Nat) : Bool :=
    if i.closed then scaled i.low ≤ c * step && c * step ≤ scaled i.high
    else scaled i.low < c * step && c * step < scaled i.high
  let below := scaled i.middle / step
  let toBelow := scaled i.middle - below * step
  let toAbove := (below + 1) * step - scaled i.middle
  match inside below, inside (below + 1) with
  | true, false => some below
  | false, true => some (below + 1)
  | false, false => none
  | true, true =>
    if toBelow < toAbove then some below
    else if toAbove < toBelow then some (below + 1)
    else some (below + below % 2)

/-- `digits` without trailing zeros. -/
def dropTrailingZeros (digits : List Char) : List Char :=
  (digits.reverse.dropWhile (· == '0')).reverse

/-- The shortest digits of the positive double `m · 2 ^ q`. -/
def shortest (m : Nat) (q : Int) : Digits :=
  let i := interval m q
  let top := floorLog10 (m * Nat.pow 2 q.toNat) (Nat.pow 2 (-q).toNat)
  let attempt (count : Nat) : Option Digits :=
    let unit := top - count + 1
    (i.nearest? unit).map fun c ↦
      let digits := Nat.toDigits 10 c
      ⟨dropTrailingZeros digits, unit + digits.length - 1⟩
  ((List.range' 1 17).findSome? attempt).getD ⟨['0'], 0⟩

/-- A decimal is written out in full when its leading digit has an exponent from -4 to 15, and with
a signed exponent of at least two digits otherwise. -/
def Digits.render (d : Digits) : List Char :=
  let count := d.digits.length
  if -4 ≤ d.exponent ∧ d.exponent < 16 then
    if d.exponent < 0 then
      '0' :: '.' :: (List.replicate (-d.exponent - 1).toNat '0' ++ d.digits)
    else
      let whole := d.exponent.toNat + 1
      if count ≤ whole then d.digits ++ List.replicate (whole - count) '0' ++ ['.', '0']
      else d.digits.take whole ++ '.' :: d.digits.drop whole
  else
    let lead := d.digits.take 1
    let fraction := d.digits.drop 1
    let size := Nat.toDigits 10 d.exponent.natAbs
    lead ++ (if fraction.isEmpty then [] else '.' :: fraction) ++
      ['e', if d.exponent < 0 then '-' else '+'] ++
      (List.replicate (2 - size.length) '0' ++ size)

/-- The text of a double: its shortest digits with its sign, or its name. -/
def toText : Binary64 → String
  | nan => "nan"
  | infinite negative => if negative then "-inf" else "inf"
  | finite negative m q =>
    let body := if m = 0 then ['0', '.', '0'] else (shortest m q).render
    String.ofList (if negative then '-' :: body else body)

end ScriptForms.Binary64
