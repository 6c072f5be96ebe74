import LedgerCheck.Json.Basic
/-!
# Numerals

A numeral as written, and the number it is read as.  An integer numeral is an integer as long as
it fits 64 bits.  Every other numeral is a binary64 number, for which the leading digits are
gathered into a 64-bit significand and scaled once by a rounded power of ten; the digits that no
longer fit only count towards the exponent.  A numeral too large for binary64 has no value.

* `Numeral` — sign, whole digits, fraction digits and exponent.
* `Numeral.read` — the numeral at the head of a text.
* `Numeral.number?` — its value.
-/

namespace LedgerCheck

/-- A numeral as written.  Without a point the fraction is empty. -/
structure Numeral where
  negative : Bool
  whole : List Char
  fraction : List Char
  exponent : Option (Bool × List Char)
deriving DecidableEq, Repr

namespace Numeral

/-! ## Reading -/

/-- The whole digits at the head of a text: a lone zero, or digits that start with no zero. -/
def readWhole : List Char → Option (List Char × List Char)
  | '0' :: rest => if (rest.head?.map Char.isDigit).getD false then none else some (['0'], rest)
  | cs =>
    let digits := cs.takeWhile Char.isDigit
    if digits.isEmpty then none else some (digits, cs.dropWhile Char.isDigit)

/-- The fraction at the head of a text, with at least one digit after its point. -/
def readFraction : List Char → Option (List Char × List Char)
  | '.' :: rest =>
    let digits := rest.takeWhile Char.isDigit
    if digits.isEmpty then none else some (digits, rest.dropWhile Char.isDigit)
  | cs => some ([], cs)

/-- The digits of an exponent, at least one, under its sign. -/
def readExponentDigits (negative : Bool) (cs : List Char) :
    Option (Option (Bool × List Char) × List Char) :=
  let digits := cs.takeWhile Char.isDigit
  if digits.isEmpty then none else some (some (negative, digits), cs.dropWhile Char.isDigit)

/-- The signed digits after the mark of an exponent. -/
def readSignedExponent : List Char → Option (Option (Bool × List Char) × List Char)
  | '-' :: rest => readExponentDigits true rest
  | '+' :: rest => readExponentDigits false rest
  | cs => readExponentDigits false cs

/-- The exponent at the head of a text. -/
def readExponent : List Char → Option (Option (Bool × List Char) × List Char)
  | 'e' :: rest => readSignedExponent rest
  | 'E' :: rest => readSignedExponent rest
  | cs => some (none, cs)

/-- The numeral after its sign. -/
def readUnsigned (negative : Bool) (cs : List Char) : Option (Numeral × List Char) := do
  let (whole, cs) ← readWhole cs
  let (fraction, cs) ← readFraction cs
  let (exponent, cs) ← readExponent cs
  some (⟨negative, whole, fraction, exponent⟩, cs)

/-- The numeral at the head of a text. -/
def read : List Char → Option (Numeral × List Char)
  | '-' :: rest => readUnsigned true rest
  | cs => readUnsigned false cs

/-! ## Value -/

/-- Appends digits to a significand while it stays below `2 ^ 64`; the digits left over are
returned. -/
def gather (significand : Nat) : List Char → Nat × List Char
  | [] => (significand, [])
  | c :: rest =>
    let next := 10 * significand + (c.toNat - '0'.toNat)
    if next < Nat.pow 2 64 then gather next rest else (significand, c :: rest)

/-- The binary64 number nearest to a power of ten. -/
def powerOfTen (k : Nat) : Binary64 := Binary64.ofRatio false (Nat.pow 10 k) 1

/-- Divides by a power of ten, at most 308 digits at a time. -/
def scaleDown (x : Binary64) (k : Nat) : Binary64 :=
  if k ≤ 308 then x.div (powerOfTen k)
  else if x.isZero then x
  else scaleDown (x.div (powerOfTen 308)) (k - 308)
termination_by k

/-- Multiplies by a power of ten; a result above the largest number has no value. -/
def scaleUp? (x : Binary64) (k : Nat) : Option Binary64 :=
  if k ≤ 308 then
    let product := x.mul (powerOfTen k)
    if product.isFinite then some product else none
  else if x.isZero then some x
  else none

/-- A non-negative significand scaled by a power of ten. -/
def scale? (significand : Nat) (exponent : Int) : Option Binary64 :=
  let x := Binary64.ofRatio false significand 1
  if exponent < 0 then some (scaleDown x exponent.natAbs) else scaleUp? x exponent.toNat

/-- The largest magnitude an exponent may have; beyond it only zero keeps a value. -/
def exponentLimit : Nat := Nat.pow 2 31 - 1

/-- The magnitude of the numeral as a binary64 number. -/
def magnitude? (n : Numeral) : Option Binary64 :=
  let (significand, left) := gather 0 n.whole
  let (significand, ignored) := gather significand n.fraction
  let point : Int := (left.length : Int) - (n.fraction.length - ignored.length : Nat)
  match n.exponent with
  | none => scale? significand point
  | some (negative, digits) =>
    let e := Digits.decimal digits
    if exponentLimit < e then
      if significand ≠ 0 ∧ ¬ negative then none else some Binary64.zero
    else scale? significand (if negative then point - e else point + e)

/-- The sign of the numeral put on a magnitude. -/
def signed (n : Numeral) (x : Binary64) : Binary64 :=
  Binary64.ofMagnitude n.negative x.magnitude

/-- The number a numeral is read as.  A negative zero is a binary64 number. -/
def number? (n : Numeral) : Option JsonNumber :=
  let value := Digits.decimal n.whole
  if n.fraction.isEmpty && n.exponent.isNone && decide (value < Nat.pow 2 64) then
    if !n.negative then some (.int value)
    else if 0 < value ∧ value ≤ Nat.pow 2 63 then some (.int (-value))
    else some (.float (Binary64.ofRatio true value 1))
  else n.magnitude?.map fun x => .float (n.signed x)

end Numeral
end LedgerCheck
