/-!
# Double precision numbers, exactly

A finite binary floating point number with 53 significant bits, as a sign, a significand and an
exponent of two. All arithmetic is on natural numbers, so what is rounded, and how, can be read off
the definitions.

* `nearest?` is the double nearest to a ratio, ties to the even significand.
* `ofDecimal?` reads decimal digits with a power of ten in two steps, `nearestDecimal?` in one.
* `shortest` is the shortest run of decimal digits that reads back as the same double, the nearest
  one among those of that length.
* `text` writes these digits: positional from `1e-5` up to `1e+16`, with a signed exponent
  elsewhere, and always with a point or an exponent, so the text of a double is never that of an
  integer.
-/

namespace Workflow

/-- The number `significand · 2 ^ exponent`, negated if `negative`. -/
structure Double where
  /-- Whether the number carries a minus sign; zero may carry one too. -/
  negative : Bool
  /-- At most 53 bits. -/
  significand : Nat
  /-- The power of two that the significand counts. -/
  exponent : Int
  deriving DecidableEq, Repr

namespace Double

/-- The least exponent of a double: that of the subnormal numbers. -/
def minExponent : Int := -1074

/-- The greatest exponent of a finite double. -/
def maxExponent : Int := 971

/-- A number with exactly 53 bits has at least this significand. -/
def leadingBit : Nat := Nat.pow 2 52

/-- The quotient rounded to the nearest integer, a tie to the even one. -/
def roundDiv (num den : Nat) : Nat :=
  let q := num / den
  let twice := 2 * (num % den)
  if twice < den then q
  else if den < twice then q + 1
  else if q % 2 = 0 then q else q + 1

/-- The ratio `num / (den · 2 ^ e)` as numerator and denominator. -/
def scaled (num den : Nat) (e : Int) : Nat × Nat :=
  if 0 ≤ e then (num, den * Nat.pow 2 e.toNat) else (num * Nat.pow 2 (-e).toNat, den)

/-- The exponent that gives the ratio a quotient of 53 bits, or the least exponent. -/
def exponentOf (num den : Nat) : Int :=
  let guess : Int := (num.log2 : Int) - den.log2 - 53
  let (n, d) := scaled num den guess
  max minExponent (if 2 * leadingBit ≤ n / d then guess + 1 else guess)

/-- The double nearest to `num / den`, ties to the even significand; `none` when it would not be
finite. -/
def nearest? (negative : Bool) (num den : Nat) : Option Double :=
  if num = 0 then some ⟨negative, 0, minExponent⟩
  else
    let e := exponentOf num den
    let (n, d) := scaled num den e
    let m := roundDiv n d
    let (m, e) := if m = 2 * leadingBit then (leadingBit, e + 1) else (m, e)
    if maxExponent < e then none else some ⟨negative, m, e⟩

/-- The size of the number as a ratio of natural numbers. -/
def ratio (x : Double) : Nat × Nat :=
  if 0 ≤ x.exponent then (x.significand * Nat.pow 2 x.exponent.toNat, 1)
  else (x.significand, Nat.pow 2 (-x.exponent).toNat)

/-- Whether the number is a zero of either sign. -/
def isZero (x : Double) : Bool := x.significand = 0

/-- Whether two doubles are the same number; both zeros are. -/
def sameNumber (x y : Double) : Bool := (x.isZero && y.isZero) || decide (x = y)

/-! ## Reading decimal digits -/

/-- The greatest power of ten among the doubles. -/
def maxPower : Nat := 308

/-- The double nearest to `10 ^ k`, as a ratio. -/
def powerOfTen (k : Nat) : Nat × Nat :=
  match nearest? false (Nat.pow 10 k) 1 with
  | some p => p.ratio
  | none => (Nat.pow 10 k, 1)

/-- The number times a power of ten: the power is a double itself, and the product is rounded. -/
def timesPower? (x : Double) (k : Nat) : Option Double :=
  let (n, d) := x.ratio
  let (p, q) := powerOfTen k
  nearest? x.negative (n * p) (d * q)

/-- The number over a power of ten: the power is a double itself, and the quotient is rounded. -/
def overPower (x : Double) (k : Nat) : Double :=
  let (n, d) := x.ratio
  let (p, q) := powerOfTen k
  (nearest? x.negative (n * q) (d * p)).getD x

/-- The number over `10 ^ k` in steps of the greatest power of ten, until it vanishes. -/
def shrink : Nat → Double → Nat → Double
  | 0, x, _ => x
  | steps + 1, x, k =>
    if k ≤ maxPower then x.overPower k
    else if x.isZero then x
    else shrink steps (x.overPower maxPower) (k - maxPower)

/-- The double for `digits · 10 ^ e`: the digits are rounded first, the power is applied next, and
each of the two steps rounds once. `none` when the number is too large. -/
def ofDecimal? (negative : Bool) (digits : Nat) (e : Int) : Option Double := do
  let x ← nearest? negative digits 1
  if 0 ≤ e then
    if e.toNat ≤ maxPower then x.timesPower? e.toNat
    else if x.isZero then some x
    else none
  else
    let k := (-e).toNat
    some (shrink (k / maxPower + 1) x k)

/-- The double nearest to `digits · 10 ^ e`, rounded once. Since `10 ^ k` is at least `8 ^ k`, the
digits in binary tell when the number is beyond all doubles or vanishes beside them; what is left
takes no great power. -/
def nearestDecimal? (negative : Bool) (digits : Nat) (e : Int) : Option Double :=
  let bits : Int := digits.log2
  if digits = 0 ∨ bits + 1 + 3 * e ≤ minExponent - 2 then some ⟨negative, 0, minExponent⟩
  else if 0 ≤ e then
    if 1024 ≤ bits + 3 * e then none else nearest? negative (digits * Nat.pow 10 e.toNat) 1
  else nearest? negative digits (Nat.pow 10 (-e).toNat)

/-! ## Writing the shortest decimal digits -/

/-- A positive ratio lies in `[10 ^ (p - 1), 10 ^ p)` for this `p`. -/
def pointPosition (num den : Nat) : Int :=
  if den ≤ num then (Nat.toDigits 10 (num / den)).length
  else 1 - ((Nat.toDigits 10 ((den + num - 1) / num - 1)).length : Int)

/-- The interval of numbers that read as the size of `x`, and that size itself, as numerators over
one denominator; the last component says whether the ends belong to it. Below a power of two the
doubles are twice as dense as above it. -/
structure Neighbourhood where
  /-- The lower end. -/
  low : Nat
  /-- The number itself. -/
  centre : Nat
  /-- The upper end. -/
  high : Nat
  /-- The denominator of the three. -/
  den : Nat
  /-- Ends round to the even significand. -/
  closed : Bool

/-- The numbers nearer to `x` than to any other double. -/
def neighbourhood (x : Double) : Neighbourhood :=
  let m := x.significand
  let below := if m = leadingBit ∧ minExponent < x.exponent then 1 else 2
  let e := x.exponent - 2
  let unit := if 0 ≤ e then Nat.pow 2 e.toNat else 1
  let den := if 0 ≤ e then 1 else Nat.pow 2 (-e).toNat
  ⟨(4 * m - below) * unit, 4 * m * unit, (4 * m + 2) * unit, den, m % 2 = 0⟩

/-- The multiple of `10 ^ k` nearest to the centre among those that read as `x`, as the number of
multiples; of two equally near ones the even one. -/
def multipleWithin? (b : Neighbourhood) (k : Int) : Option Nat :=
  let up := if 0 ≤ k then 1 else Nat.pow 10 (-k).toNat
  let den := b.den * (if 0 ≤ k then Nat.pow 10 k.toNat else 1)
  let centre := b.centre * up
  let inside (d : Nat) : Bool :=
    if b.closed then decide (b.low * up ≤ d * den ∧ d * den ≤ b.high * up)
    else decide (b.low * up < d * den ∧ d * den < b.high * up)
  let d := centre / den
  let rest := centre % den
  let lowerFirst := 2 * rest < den ∨ (2 * rest = den ∧ d % 2 = 0)
  if lowerFirst then
    if inside d then some d else if inside (d + 1) then some (d + 1) else none
  else
    if inside (d + 1) then some (d + 1) else if inside d then some d else none

/-- The fewest decimal digits that read back as the size of `x`, without closing zeros, and the
place of the point: the value is `0.d₁d₂… · 10 ^ p`. Seventeen digits always suffice. -/
def shortest (x : Double) : List Char × Int :=
  let b := x.neighbourhood
  let p := pointPosition b.centre b.den
  let hit := (List.range 17).findSome? fun (i : Nat) =>
    let k := p - 1 - i
    (multipleWithin? b k).map (·, k)
  match hit with
  | none => (['0'], 1)
  | some (d, k) =>
    let digits := Nat.toDigits 10 d
    ((digits.reverse.dropWhile (· = '0')).reverse, digits.length + k)

/-- A power of ten, always with its sign. -/
def exponentText (e : Int) : List Char :=
  'e' :: (if e < 0 then '-' else '+') :: Nat.toDigits 10 e.natAbs

/-- Digits with a point before place `p`, or with an exponent where that would take many zeros. -/
def layOut (digits : List Char) (p : Int) : List Char :=
  let n := digits.length
  if 0 < p ∧ p ≤ 16 then
    let whole := p.toNat
    if n ≤ whole then digits ++ List.replicate (whole - n) '0' ++ ['.', '0']
    else digits.take whole ++ '.' :: digits.drop whole
  else if -5 < p ∧ p ≤ 0 then
    '0' :: '.' :: (List.replicate (-p).toNat '0' ++ digits)
  else
    let fraction := if n ≤ 1 then [] else '.' :: digits.drop 1
    digits.take 1 ++ fraction ++ exponentText (p - 1)

/-- The decimal text of a double. -/
def text (x : Double) : String :=
  let size := if x.isZero then ['0', '.', '0'] else layOut x.shortest.1 x.shortest.2
  String.ofList (if x.negative then '-' :: size else size)

end Double

end Workflow
