import Explainer.Text.Number

/-!
# Floating-point numbers, exactly

A finite binary number of 64 bits is a sign, a significand below `2 ^ 53` and a power of two not
below `2 ^ -1074`. Both directions work on natural numbers only. Reading rounds a decimal fraction
to the nearest such number, a tie to the even significand. Writing finds the shortest decimal that
reads back: of the decimals with the fewest digits that round to the number, the nearest one, and
of two equally near the one with the even last digit.
-/

namespace Explainer

/-- The finite number `± significand * 2 ^ exponent`. -/
structure Binary64 where
  negative : Bool
  significand : Nat
  exponent : Int
deriving DecidableEq, Repr

namespace Binary64

/-- The exponent of the smallest steps. -/
def minExponent : Int := -1074

/-- The largest exponent of a finite number. -/
def maxExponent : Int := 971

/-- Whether the number is zero, of either sign. -/
def isZero (x : Binary64) : Bool := x.significand == 0

/-- `num / den`, rounded to the nearest natural number, a tie to the even one. -/
def roundDiv (num den : Nat) : Nat :=
  let q := num / den
  let r := num % den
  if 2 * r < den then q else if den < 2 * r then q + 1 else q + q % 2

/-- The pair of numerator and denominator of `num / den * 2 ^ (-e)`. -/
def scaled (num den : Nat) (e : Int) : Nat × Nat :=
  if 0 ≤ e then (num, den * Nat.pow 2 e.toNat) else (num * Nat.pow 2 (-e).toNat, den)

/-- The power of two whose multiples carry the fraction `num / den` with 53 bits. -/
def stepOf (num den : Nat) : Int :=
  let e : Int := max minExponent ((num.log2 : Int) - den.log2 - 52)
  let (n, d) := scaled num den e
  if n / d < Nat.pow 2 52 then max minExponent (e - 1) else e

/-- The number nearest to the positive fraction `num / den`; `none` if it is beyond the finite
numbers. -/
def nearest? (negative : Bool) (num den : Nat) : Option Binary64 :=
  let e := stepOf num den
  let (n, d) := scaled num den e
  let m := roundDiv n d
  let (m, e) := if m = Nat.pow 2 53 then (Nat.pow 2 52, e + 1) else (m, e)
  if maxExponent < e then none else some ⟨negative, m, e⟩

/-- The number nearest to the decimal `digits * 10 ^ exponent`; `none` if it is beyond the finite
numbers. A decimal far below the smallest number is zero. -/
def ofDecimal? (negative : Bool) (digits : Nat) (exponent : Int) : Option Binary64 :=
  let lead : Int := (Nat.toDigits 10 digits).length + exponent
  if digits = 0 || lead < -330 then some ⟨negative, 0, minExponent⟩
  else if 310 < lead then none
  else if 0 ≤ exponent then nearest? negative (digits * Nat.pow 10 exponent.toNat) 1
  else nearest? negative digits (Nat.pow 10 (-exponent).toNat)

/-- A decimal with `digits * 10 ^ exponent`. -/
structure Decimal where
  digits : Nat
  exponent : Int
deriving DecidableEq, Repr

/-- Four times the number and the ends of the interval of reals that round to it, as multiples of
a quarter step: lower end, number, upper end. -/
def quarters (x : Binary64) : Nat × Nat × Nat :=
  let m := 4 * x.significand
  let below := if x.significand = Nat.pow 2 52 && minExponent < x.exponent then 1 else 2
  (m - below, m, m + 2)

/-- The two decimals next to the number on the grid of multiples of `10 ^ p`, the nearer one
first, as far as they round to the number. -/
def gridHit? (x : Binary64) (p : Int) : Option Decimal :=
  let (lo, mid, hi) := quarters x
  let e := x.exponent - 2
  let den := (if e < 0 then Nat.pow 2 (-e).toNat else 1) * (if p < 0 then 1 else Nat.pow 10 p.toNat)
  let unit :=
    (if e < 0 then 1 else Nat.pow 2 e.toNat) * (if p < 0 then Nat.pow 10 (-p).toNat else 1)
  let rounds (k : Nat) : Bool :=
    let v := k * den
    if x.significand % 2 = 0 then lo * unit ≤ v && v ≤ hi * unit
    else lo * unit < v && v < hi * unit
  let k := roundDiv (mid * unit) den
  let other := if k * den ≤ mid * unit then k + 1 else k - 1
  if 0 < k && rounds k then some ⟨k, p⟩
  else if 0 < other && rounds other then some ⟨other, p⟩
  else none

/-- The number of decimal digits before the point of the number, minus the zeros after it. -/
def leadingPlace (x : Binary64) : Int :=
  if 0 ≤ x.exponent then (Nat.toDigits 10 (x.significand * Nat.pow 2 x.exponent.toNat)).length
  else
    let k := (-x.exponent).toNat
    let whole := x.significand / Nat.pow 2 k
    if 0 < whole then (Nat.toDigits 10 whole).length
    else ((Nat.toDigits 10 (x.significand * Nat.pow 10 400 / Nat.pow 2 k)).length : Int) - 400

/-- The shortest decimal that reads back as the number, if it is not zero. -/
def shortest (x : Binary64) : Decimal :=
  let top := leadingPlace x
  ((List.range 17).findSome? fun (i : Nat) => gridHit? x (top - 1 - i)).getD ⟨x.significand, 0⟩

/-- Drops the zeros at the end of the digits of a decimal, at most as many as it has digits. -/
def Decimal.stripZeros (d : Decimal) : Decimal :=
  let zeros := ((Nat.toDigits 10 d.digits).reverse.takeWhile (· = '0')).length
  ⟨d.digits / Nat.pow 10 zeros, d.exponent + zeros⟩

/-- The digits of a non-zero decimal with the point `place` digits after their start, always with
a digit on both sides of the point. -/
def positional (digits : Text) (place : Int) : Text :=
  if place ≤ 0 then
    "0.".toList ++ List.replicate (-place).toNat '0' ++ digits
  else
    let n := place.toNat
    let whole := digits.take n ++ List.replicate (n - digits.length) '0'
    let fraction := digits.drop n
    whole ++ '.' :: (if fraction.isEmpty then ['0'] else fraction)

/-- The digits of a non-zero decimal with the point after the first one, then the power of ten
with its sign. -/
def scientific (digits : Text) (power : Int) : Text :=
  let tail := digits.drop 1
  let mark := if power < 0 then "e-".toList else "e+".toList
  digits.take 1 ++ (if tail.isEmpty then [] else '.' :: tail) ++ mark ++ natText power.natAbs

/-- The written form: positional from `10 ^ -5` up to `10 ^ 16`, and always with a point;
scientific beyond. -/
def text (x : Binary64) : Text :=
  let sign := if x.negative then ['-'] else []
  if x.isZero then sign ++ "0.0".toList
  else
    let d := (shortest x).stripZeros
    let digits := natText d.digits
    let place : Int := digits.length + d.exponent
    sign ++ if -5 < place && place ≤ 16 then positional digits place
      else scientific digits (place - 1)

end Binary64

end Explainer
