import LedgerCheck.Text.Digits
/-!
# Binary64 numbers

Coverage, completion and rate are binary64 numbers.  They are held as their 64 bits and every
operation is stated over exact natural numbers, so that rounding can be reasoned about: a finite
number is `± significand · 2 ^ unitExponent`, and an operation rounds its exact result once, to the
nearest number, a tie going to the even significand.

* `magnitudeOfRatio` — the bits of the number nearest to a ratio of natural numbers.
* `ofRat` — the number nearest to a rational.
* `mul`, `div` — the rounded product and quotient.
* `le` — the order of the numbers, in which NaN is comparable to nothing.
-/

namespace LedgerCheck

/-- A binary64 number, given by its 64 bits. -/
structure Binary64 where
  bits : UInt64
deriving DecidableEq, Repr

namespace Binary64

/-! ## Parts of a number -/

/-- The bits without the sign bit; the order of magnitudes is the order of these numbers. -/
def magnitude (x : Binary64) : Nat := x.bits.toNat % Nat.pow 2 63

/-- The sign bit is set. -/
def isNegative (x : Binary64) : Bool := decide (Nat.pow 2 63 ≤ x.bits.toNat)

/-- The magnitude of the infinities; every larger one is a NaN. -/
def infinityMagnitude : Nat := 2047 * Nat.pow 2 52

/-- The number is neither infinite nor a NaN. -/
def isFinite (x : Binary64) : Bool := decide (x.magnitude < infinityMagnitude)

/-- The bits stand for no number. -/
def isNaN (x : Binary64) : Bool := decide (infinityMagnitude < x.magnitude)

/-- The number is one of the two zeros. -/
def isZero (x : Binary64) : Bool := x.magnitude == 0

/-- The integer significand of a finite number. -/
def significand (x : Binary64) : Nat :=
  if x.magnitude < Nat.pow 2 52 then x.magnitude else Nat.pow 2 52 + x.magnitude % Nat.pow 2 52

/-- The exponent of the unit of a finite number's significand. -/
def unitExponent (x : Binary64) : Int :=
  if x.magnitude < Nat.pow 2 52 then -1074 else (x.magnitude / Nat.pow 2 52 : Nat) - 1075

/-- Numerator of the exact magnitude of a finite number. -/
def numerator (x : Binary64) : Nat := x.significand * Nat.pow 2 x.unitExponent.toNat

/-- Denominator of the exact magnitude of a finite number, a power of two. -/
def denominator (x : Binary64) : Nat := Nat.pow 2 (-x.unitExponent).toNat

/-- The exact value of a finite number. -/
def toRat (x : Binary64) : Rat :=
  mkRat (if x.isNegative then -(x.numerator : Int) else x.numerator) x.denominator

/-! ## Rounding -/

/-- The quotient to the nearest natural number, a half going to the even neighbour. -/
def divHalfEven (n d : Nat) : Nat :=
  if 2 * (n % d) < d then n / d
  else if d < 2 * (n % d) then n / d + 1
  else n / d + n / d % 2

/-- The exponent `k` with `2 ^ k ≤ n / d < 2 ^ (k + 1)`, for a positive ratio. -/
def binade (n d : Nat) : Int :=
  let k : Int := (n.log2 : Int) - (d.log2 : Int)
  if d * Nat.pow 2 k.toNat ≤ n * Nat.pow 2 (-k).toNat then k else k - 1

/-- The unit in which a positive ratio is rounded: 53 significant bits, or the smallest unit. -/
def unitOfRatio (n d : Nat) : Int := max (binade n d - 52) (-1074)

/-- The magnitude nearest to `n / d`.  Counting units on top of the exponent field carries into it
when the significand rounds up to a power of two, and overflow ends at infinity. -/
def magnitudeOfRatio (n d : Nat) : Nat :=
  if n = 0 then 0
  else
    let e := unitOfRatio n d
    min infinityMagnitude
      ((e + 1074).toNat * Nat.pow 2 52 +
        divHalfEven (n * Nat.pow 2 (-e).toNat) (d * Nat.pow 2 e.toNat))

/-- The number with a given sign and magnitude. -/
def ofMagnitude (negative : Bool) (m : Nat) : Binary64 :=
  ⟨UInt64.ofNat ((if negative then Nat.pow 2 63 else 0) + m)⟩

/-- The number nearest to `n / d`, under a given sign. -/
def ofRatio (negative : Bool) (n d : Nat) : Binary64 :=
  ofMagnitude negative (magnitudeOfRatio n d)

/-- The number nearest to a rational. -/
def ofRat (q : Rat) : Binary64 := ofRatio (decide (q < 0)) q.num.natAbs q.den

/-- The number nearest to an integer. -/
def ofInt (i : Int) : Binary64 := ofRatio (decide (i < 0)) i.natAbs 1

/-- The positive zero. -/
def zero : Binary64 := ofMagnitude false 0

/-- The infinity of a given sign. -/
def infinity (negative : Bool) : Binary64 := ofMagnitude negative infinityMagnitude

/-- The quiet NaN without a payload. -/
def nan : Binary64 := ofMagnitude false (infinityMagnitude + Nat.pow 2 51)

/-! ## Arithmetic and order -/

/-- The exact product, rounded once. -/
def mul (x y : Binary64) : Binary64 :=
  let negative := xor x.isNegative y.isNegative
  if x.isNaN || y.isNaN then nan
  else if x.isFinite && y.isFinite then
    ofRatio negative (x.numerator * y.numerator) (x.denominator * y.denominator)
  else if x.isZero || y.isZero then nan
  else infinity negative

/-- The exact quotient, rounded once. -/
def div (x y : Binary64) : Binary64 :=
  let negative := xor x.isNegative y.isNegative
  if x.isNaN || y.isNaN then nan
  else if x.isFinite then
    if !y.isFinite then ofMagnitude negative 0
    else if y.isZero then if x.isZero then nan else infinity negative
    else ofRatio negative (x.numerator * y.denominator) (x.denominator * y.numerator)
  else if y.isFinite then infinity negative
  else nan

/-- An integer that orders the numbers; the two zeros share one. -/
def rank (x : Binary64) : Int := if x.isNegative then -(x.magnitude : Int) else x.magnitude

/-- The order of the numbers; a NaN is comparable to nothing. -/
def le (x y : Binary64) : Bool := !x.isNaN && !y.isNaN && decide (x.rank ≤ y.rank)

/-- The number lies between zero and one, both included. -/
def inUnitInterval (x : Binary64) : Bool := zero.le x && x.le (ofInt 1)

/-- The bits as sixteen hexadecimal digits. -/
def hex (x : Binary64) : String := String.ofList (Digits.padded 16 16 x.bits.toNat)

end Binary64
end LedgerCheck
