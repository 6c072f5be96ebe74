/-!
# Digits

Natural numbers written in digits.  Letters are the digits from ten on; they are written small and
read in either case.

* `Digits.value?` — the value of a digit.
* `Digits.natural?` — the number that digits of a base write.
* `Digits.padded` — the digits of a number, with zeros in front up to a width.
-/

namespace LedgerCheck
namespace Digits

/-! ## Reading -/

/-- The value of a digit, letters being the digits from ten on. -/
def value? (c : Char) : Option Nat :=
  if '0' ≤ c ∧ c ≤ '9' then some (c.toNat - '0'.toNat)
  else if 'a' ≤ c ∧ c ≤ 'z' then some (c.toNat - 'a'.toNat + 10)
  else if 'A' ≤ c ∧ c ≤ 'Z' then some (c.toNat - 'A'.toNat + 10)
  else none

/-- The number that is written once a digit of a base stands behind a number. -/
def append? (base n : Nat) (c : Char) : Option Nat :=
  (value? c).bind fun d => if d < base then some (base * n + d) else none

/-- The natural number that digits of a base write; there has to be a digit. -/
def natural? (base : Nat) (digits : List Char) : Option Nat :=
  if digits.isEmpty then none else digits.foldlM (append? base) 0

/-- The value of a list of decimal digits. -/
def decimal (digits : List Char) : Nat :=
  digits.foldl (fun n c => 10 * n + (c.toNat - '0'.toNat)) 0

/-! ## Writing -/

/-- The digits of a number, with zeros in front up to a width. -/
def padded (base width n : Nat) : List Char :=
  let digits := Nat.toDigits base n
  List.replicate (width - digits.length) '0' ++ digits

end Digits
end LedgerCheck
