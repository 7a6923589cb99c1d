/-!
# Binary floating point numbers

A double is kept as its 64 bits and read as `± m · 2 ^ q`, so that all arithmetic here is exact
arithmetic of natural numbers followed by one rounding.

* `Double.ofRatio` rounds a quotient to the nearest double, a tie to the even neighbour.
* `Double.ofDecimal?` gives the double of a decimal number read from text.
* `Double.shortest` gives the fewest decimal digits that read back as the same double.
* `Double.text` writes them: positional from `0.00001` up to `10 ^ 16`, with an exponent beyond.
-/

namespace Stageflow

/-- A finite binary64 number, by its bits. -/
structure Double where
  bits : UInt64
deriving DecidableEq, Inhabited

namespace Double

/-- A power of two. -/
def twoTo (n : Nat) : Nat := Nat.pow 2 n

/-- A power of ten. -/
def tenTo (n : Nat) : Nat := Nat.pow 10 n

/-- The value of the sign bit, `2 ^ 63`. -/
def signBit : Nat := 0x8000000000000000

/-- The least mantissa of a number that has all 53 digits, `2 ^ 52`. -/
def fullMantissa : Nat := 0x10000000000000

/-- How many of the least positive double make one: `2 ^ 1074`. -/
def unit : Nat := twoTo 1074

/-- The double with some magnitude bits and a sign. -/
def ofMagnitude (negative : Bool) (magnitude : Nat) : Double :=
  ⟨UInt64.ofNat (if negative then signBit + magnitude else magnitude)⟩

/-- Zero below zero. -/
def negativeZero : Double := ofMagnitude true 0

/-- Whether the sign bit is set. -/
def negative (d : Double) : Bool := signBit ≤ d.bits.toNat

/-- The bits without the sign. -/
def magnitude (d : Double) : Nat := d.bits.toNat % signBit

/-- The whole number `m` of `m · 2 ^ (k - 1074)`. -/
def mantissa (d : Double) : Nat :=
  if d.magnitude < fullMantissa then d.magnitude else d.magnitude % fullMantissa + fullMantissa

/-- The shift `k` of `m · 2 ^ (k - 1074)`. -/
def shift (d : Double) : Nat := d.magnitude / fullMantissa - 1

/-- Numerator of the absolute value over `2 ^ 1074`. -/
def scaled (d : Double) : Nat := d.mantissa * twoTo d.shift

def isZero (d : Double) : Bool := d.magnitude = 0

/-- Numeric equality, for which the two zeros are one number. -/
def same (a b : Double) : Bool := a.bits = b.bits || (a.isZero && b.isZero)

/-- Quotient rounded to the nearest whole number, a tie to the even one. -/
def roundDiv (num den : Nat) : Nat :=
  let q := num / den
  let r := num % den
  if 2 * r < den then q
  else if den < 2 * r then q + 1
  else if q % 2 = 0 then q else q + 1

/-- The bits of infinity, the first magnitude that is no finite number. -/
def infiniteMagnitude : Nat := 2047 * fullMantissa

/-- Magnitude bits of the double nearest to `num / den`. -/
def magnitudeOfRatio (num den : Nat) : Nat :=
  -- Scaled by 2 ^ 1074 the quotient is `n / den`; the shift leaves 53 digits of it.
  let n := num * unit
  let k := Nat.log2 (n / den) - 52
  let q := roundDiv n (den * twoTo k)
  k * fullMantissa + q

/-- The double nearest to `± num / den`; `none` where that is infinite. -/
def ofRatio (negative : Bool) (num den : Nat) : Option Double :=
  let m := magnitudeOfRatio num den
  if m < infiniteMagnitude then some (ofMagnitude negative m) else none

/-- Numerator, over `2 ^ 1074`, of the double nearest to a quotient. -/
def nearest (num den : Nat) : Nat := (ofRatio false num den).elim 0 scaled

/--
The double read from `± m · 10 ^ e`, where `m` fits 64 bits. The significand is first rounded to a
double and then multiplied or divided, by one power of ten up to `10 ^ 308`; a smaller number is
divided twice. `none` where the result is out of range.
-/
def ofDecimal? (negative : Bool) (m : Nat) (e : Int) : Option Double :=
  let f := nearest m 1
  let power (e : Int) : Nat := nearest (tenTo e.toNat) 1
  if m = 0 then some (ofMagnitude negative 0)
  else if 308 < e then none
  else if 0 ≤ e then ofRatio negative (f * power e) (unit * unit)
  else if -308 ≤ e then ofRatio negative f (power (-e))
  else if -616 ≤ e then ofRatio negative (nearest f (power 308)) (power (-e - 308))
  else some (ofMagnitude negative 0)

/-- Whether the decimal `c · 10 ^ e` is rounded to the double with mantissa `m` and shift `k`. -/
def roundsTo (m k : Nat) (c : Nat) (e : Int) : Bool :=
  -- Compared over the common denominator 4 · 2 ^ 1074 · 10 ^ 400.
  let x := c * 4 * unit * tenTo (e + 400).toNat
  let step := twoTo k * tenTo 400
  let below := if m = fullMantissa ∧ k ≠ 0 then (4 * m - 1) * step else (4 * m - 2) * step
  let above := (4 * m + 2) * step
  if m % 2 = 0 then below ≤ x ∧ x ≤ above else below < x ∧ x < above

/-- The decimal exponent of the first digit: `10 ^ e ≤ num / den < 10 ^ (e + 1)`. -/
def leadingExponent (num den : Nat) : Int :=
  if den ≤ num then ((Nat.toDigits 10 (num / den)).length : Int) - 1
  else
    let n := (Nat.toDigits 10 (den / num)).length
    -- `10 ^ n` times the number is at least one; it may be one digit more.
    if den ≤ num * tenTo (n - 1) then -((n : Int) - 1) else -(n : Int)

/--
The fewest digits that read back, tried from some number of digits upwards, as a whole number and
its decimal exponent. Of the two numbers with so many digits around the double the nearer one is
preferred. Seventeen digits always read back.
-/
def shortestFrom (m k num den : Nat) (first : Int) : (fuel digits : Nat) → Nat × Int
  | 0, digits =>
    let e := first - (digits : Int) + 1
    (roundDiv (num * tenTo (-e).toNat) (den * tenTo e.toNat), e)
  | fuel + 1, digits =>
    let e := first - (digits : Int) + 1
    let low := (num * tenTo (-e).toNat) / (den * tenTo e.toNat)
    let near := roundDiv (num * tenTo (-e).toNat) (den * tenTo e.toNat)
    let other := if near = low then low + 1 else low
    if roundsTo m k near e then (near, e)
    else if roundsTo m k other e then (other, e)
    else shortestFrom m k num den first fuel (digits + 1)

/-- Drops zeros at the end of a digit list given backwards, and raises the exponent for each. -/
def trimZeros : List Char → Int → List Char × Int
  | '0' :: cs, e => trimZeros cs (e + 1)
  | cs, e => (cs, e)

/-- The shortest digits of a nonzero double and the decimal exponent of the first of them. -/
def shortest (d : Double) : List Char × Int :=
  let num := d.scaled
  let (c, e) := shortestFrom d.mantissa d.shift num unit (leadingExponent num unit) 17 1
  let (backwards, e') := trimZeros (Nat.toDigits 10 c).reverse e
  (backwards.reverse, e' + backwards.length - 1)

/-- Written without sign: digits `ds`, of which the first stands for `10 ^ e`. -/
def layout (ds : List Char) (e : Int) : List Char :=
  if e < -5 ∨ 16 ≤ e then
    let tail := if ds.length ≤ 1 then [] else '.' :: ds.drop 1
    let sign := if e < 0 then '-' else '+'
    ds.take 1 ++ tail ++ 'e' :: sign :: Nat.toDigits 10 e.natAbs
  else if e < 0 then
    '0' :: '.' :: List.replicate (-e - 1).toNat '0' ++ ds
  else
    let whole := e.toNat + 1
    if ds.length ≤ whole then ds ++ List.replicate (whole - ds.length) '0' ++ ['.', '0']
    else ds.take whole ++ '.' :: ds.drop whole

/-- The shortest text that reads back as the same number; it always shows a point or an exponent. -/
def text (d : Double) : List Char :=
  let body := if d.isZero then ['0', '.', '0'] else
    let (ds, e) := d.shortest
    layout ds e
  if d.negative then '-' :: body else body

end Double

end Stageflow
