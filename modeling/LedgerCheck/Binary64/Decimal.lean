import LedgerCheck.Binary64.Basic
/-!
# Decimal text of binary64 numbers

A finite number is written with the fewest digits that read back as the same number, the nearest
such digits if there are several, and the even last digit on a tie.  Digits are positional while
the exponent of the first digit is between -5 and 15, and scientific otherwise.

* `shortest` — the chosen digits, as a decimal coefficient and exponent.
* `text` — the number in that form.
* `debugText` — the number as a log shows it.
* `fixed` — the number with a fixed count of digits after the point, rounded half to even.
* `ofDecimal` — the number nearest to a decimal.
* `ofDecimalChars?` — reading a decimal numeral, correctly rounded.
-/

namespace LedgerCheck

/-- The decimal `coefficient · 10 ^ exponent`. -/
structure Decimal where
  coefficient : Nat
  exponent : Int
deriving DecidableEq, Repr

/-- How many decimal digits a natural number has; zero has none. -/
def digitCount (n : Nat) : Nat := if n = 0 then 0 else (Nat.toDigits 10 n).length

namespace Decimal

/-- Numerator of the decimal as a ratio. -/
def numerator (d : Decimal) : Nat := d.coefficient * Nat.pow 10 d.exponent.toNat

/-- Denominator of the decimal as a ratio. -/
def denominator (d : Decimal) : Nat := Nat.pow 10 (-d.exponent).toNat

end Decimal

namespace Binary64

/-! ## Fewest digits -/

/-- The exponent of the first decimal digit of the positive ratio `n / d`. -/
def leadingExponent (n d : Nat) : Int :=
  if d ≤ n then (digitCount (n / d) : Int) - 1 else -(digitCount ((d - 1) / n) : Int)

/-- The decimal rounds back to the magnitude. -/
def roundsTo (d : Decimal) (m : Nat) : Bool :=
  magnitudeOfRatio d.numerator d.denominator == m

/-- The neighbour of `n / d` on the grid of `count` significant digits that rounds to the magnitude
`m`: of two the nearer, and on a tie the even one. -/
def onGrid? (n d m : Nat) (count : Nat) : Option Decimal :=
  let exponent : Int := leadingExponent n d + 1 - count
  let scaled := n * Nat.pow 10 (-exponent).toNat
  let unit := d * Nat.pow 10 exponent.toNat
  let below : Decimal := ⟨scaled / unit, exponent⟩
  let above : Decimal := ⟨scaled / unit + 1, exponent⟩
  match roundsTo below m, roundsTo above m with
  | true, true => some ⟨divHalfEven scaled unit, exponent⟩
  | true, false => some below
  | false, true => some above
  | false, false => none

/-- The first grid, from `count` digits on, that has a decimal rounding to `m`. -/
def shortestFrom (n d m : Nat) (count : Nat) : Nat → Decimal
  | 0 => ⟨divHalfEven (n * Nat.pow 10 (-(leadingExponent n d + 1 - count)).toNat)
      (d * Nat.pow 10 (leadingExponent n d + 1 - count).toNat), leadingExponent n d + 1 - count⟩
  | more + 1 => (onGrid? n d m count).getD (shortestFrom n d m (count + 1) more)

/-- The shortest decimal of a finite number's magnitude; seventeen digits always suffice. -/
def shortest (x : Binary64) : Decimal :=
  if x.isZero then ⟨0, 0⟩ else shortestFrom x.numerator x.denominator x.magnitude 1 16

/-! ## Layout -/

/-- The digits of a coefficient without the zeros at its end. -/
def significantDigits (n : Nat) : List Char :=
  ((Nat.toDigits 10 n).reverse.dropWhile (· == '0')).reverse

/-- Digits, of which the first has the given exponent, in positional notation with a point. -/
def positional (digits : List Char) (exponent : Int) : List Char :=
  if exponent < 0 then
    '0' :: '.' :: (List.replicate (-exponent - 1).toNat '0' ++ digits)
  else
    let whole := digits.take (exponent.toNat + 1)
    let rest := digits.drop (exponent.toNat + 1)
    whole ++ List.replicate (exponent.toNat + 1 - whole.length) '0' ++
      '.' :: (if rest.isEmpty then ['0'] else rest)

/-- Digits, of which the first has the given exponent, in scientific notation. -/
def scientific (digits : List Char) (exponent : Int) : List Char :=
  let mantissa := match digits with
    | first :: second :: rest => first :: '.' :: second :: rest
    | short => short
  mantissa ++ 'e' :: (if exponent < 0 then '-' else '+') :: Nat.toDigits 10 exponent.natAbs

/-- The text of a finite number: positional while the first digit's exponent is between -5 and 15,
scientific otherwise; zero keeps its sign. -/
def chars (x : Binary64) : List Char :=
  let sign := if x.isNegative then ['-'] else []
  if x.isZero then sign ++ ['0', '.', '0']
  else
    let d := x.shortest
    let exponent := (digitCount d.coefficient : Int) - 1 + d.exponent
    let digits := significantDigits d.coefficient
    sign ++ if -5 ≤ exponent ∧ exponent ≤ 15 then positional digits exponent
      else scientific digits exponent

/-- The text of a finite number. -/
def text (x : Binary64) : String := String.ofList x.chars

/-- The number as a log shows it, also if it is not finite.  The digits are those of `text`, but
positional only while the first digit's exponent is between -4 and 15, and an exponent has no plus
sign. -/
def debugText (x : Binary64) : String :=
  if x.isNaN then "NaN"
  else
    let sign := if x.isNegative then ['-'] else []
    if !x.isFinite then String.ofList (sign ++ ['i', 'n', 'f'])
    else if x.isZero then String.ofList (sign ++ ['0', '.', '0'])
    else
      let d := x.shortest
      let exponent := (digitCount d.coefficient : Int) - 1 + d.exponent
      let digits := significantDigits d.coefficient
      String.ofList (sign ++ if -4 ≤ exponent ∧ exponent ≤ 15 then positional digits exponent
        else (scientific digits exponent).filter (· != '+'))

/-- The number with a fixed count of digits after the point.  The exact value is rounded, a half
going to the even neighbour, and the sign is shown even of a zero. -/
def fixed (places : Nat) (x : Binary64) : String :=
  if x.isNaN then "NaN"
  else
    let sign := if x.isNegative then "-" else ""
    if x.isFinite then
      let scaled := divHalfEven (x.numerator * Nat.pow 10 places) x.denominator
      sign ++ toString (scaled / Nat.pow 10 places) ++ "." ++
        String.ofList (Digits.padded 10 places (scaled % Nat.pow 10 places))
    else sign ++ "inf"

/-! ## Reading -/

/-- The number nearest to a decimal.  A decimal far above the largest number is infinite and one
far below the smallest is zero, so that no huge power of ten is ever formed. -/
def ofDecimal (negative : Bool) (d : Decimal) : Binary64 :=
  let size := (digitCount d.coefficient : Int) + d.exponent
  if d.coefficient = 0 ∨ size < -400 then ofMagnitude negative 0
  else if 400 < size then infinity negative
  else ofRatio negative d.numerator d.denominator

/-- An exponent: an optional sign and at least one digit, and nothing after them. -/
def exponentOf? : List Char → Option Int
  | '-' :: ds => (Digits.natural? 10 ds).map fun n => -(n : Int)
  | '+' :: ds => (Digits.natural? 10 ds).map fun n => (n : Int)
  | ds => (Digits.natural? 10 ds).map fun n => (n : Int)

/-- The exponent part that may end a numeral. -/
def exponentPart? : List Char → Option Int
  | [] => some 0
  | 'e' :: rest => exponentOf? rest
  | 'E' :: rest => exponentOf? rest
  | _ => none

/-- The decimal of a numeral without sign: digits with an optional point, at least one digit in
all, and an optional exponent. -/
def decimalOf? (cs : List Char) : Option Decimal :=
  let whole := cs.takeWhile Char.isDigit
  let rest := cs.dropWhile Char.isDigit
  let (fraction, rest) := match rest with
    | '.' :: rest => (rest.takeWhile Char.isDigit, rest.dropWhile Char.isDigit)
    | rest => ([], rest)
  if whole.isEmpty && fraction.isEmpty then none
  else do
    let exponent ← exponentPart? rest
    some ⟨Digits.decimal (whole ++ fraction), exponent - fraction.length⟩

/-- The number nearest to a numeral with an optional sign. -/
def ofDecimalChars? : List Char → Option Binary64
  | '-' :: cs => (decimalOf? cs).map (ofDecimal true)
  | '+' :: cs => (decimalOf? cs).map (ofDecimal false)
  | cs => (decimalOf? cs).map (ofDecimal false)

/-- The number written by a text: a decimal numeral, or the name of an infinity or of NaN. -/
def ofText? (s : String) : Option Binary64 :=
  match s with
  | "nan" => some nan
  | "inf" => some (infinity false)
  | "-inf" => some (infinity true)
  | s => ofDecimalChars? s.toList

end Binary64
end LedgerCheck
