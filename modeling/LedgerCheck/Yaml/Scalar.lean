import LedgerCheck.Binary64.Decimal
/-!
# Plain scalars as values

What a scalar that is written without quotes stands for: nothing, a boolean, an integer, a number,
or else the text itself.

* `nullText`, `bool?`, `integer?`, `float?` — the texts of each kind of value.
* `Plain.ofText` — the value of a text.
-/

namespace LedgerCheck
namespace Yaml

/-- The value of a scalar. -/
inductive Plain where
  | null
  | bool (value : Bool)
  | int (value : Int)
  | float (value : Binary64)
  | string (value : String)
deriving DecidableEq, Repr

namespace Plain

/-! ## Nothing and booleans -/

/-- The text is a word for nothing. -/
def nullText (s : String) : Bool := ["null", "Null", "NULL", "~"].contains s

/-- The boolean that a text names. -/
def bool? (s : String) : Option Bool :=
  if ["true", "True", "TRUE"].contains s then some true
  else if ["false", "False", "FALSE"].contains s then some false
  else none

/-! ## Integers -/

/-- Digits that start with a needless zero; such a text is no number. -/
def hasNeedlessZero : List Char → Bool
  | '0' :: rest => !rest.isEmpty && rest.all Char.isDigit
  | _ => false

/-- The text of a number without its sign. -/
def withoutSign : List Char → List Char
  | '-' :: rest => rest
  | '+' :: rest => rest
  | cs => cs

/-- The natural number of a text without sign: with a mark in base 16, 8 or 2, and otherwise
decimal. -/
def unsigned? : List Char → Option Nat
  | '0' :: 'x' :: digits => Digits.natural? 16 digits
  | '0' :: 'o' :: digits => Digits.natural? 8 digits
  | '0' :: 'b' :: digits => Digits.natural? 2 digits
  | digits => if hasNeedlessZero digits then none else Digits.natural? 10 digits

/-- The integer of a text with an optional sign. -/
def signed? : List Char → Option Int
  | '-' :: digits => (unsigned? digits).map fun n => -(n : Int)
  | '+' :: digits => (unsigned? digits).map fun n => (n : Int)
  | digits => (unsigned? digits).map fun n => (n : Int)

/-- How the integer of a text can be represented. -/
inductive Integer where
  | fits (value : Int)
  | tooWide
  | beyond
deriving DecidableEq, Repr

/-- The integer of a text.  One that needs more than 64 bits but no more than 128 is too wide; one
beyond that is left to be read as a number of another kind. -/
def integer? (s : String) : Option Integer :=
  (signed? s.toList).map fun i =>
    if -Int.pow 2 63 ≤ i ∧ i < Int.pow 2 64 then .fits i
    else if -Int.pow 2 127 ≤ i ∧ i < Int.pow 2 128 then .tooWide
    else .beyond

/-! ## Numbers -/

/-- The finite number of a decimal text. -/
def finite? (cs : List Char) : Option Binary64 :=
  (Binary64.ofDecimalChars? cs).bind fun x => if x.isFinite then some x else none

/-- The number of a text: an infinity, no number, or a decimal that is not too large. -/
def float? (s : String) : Option Binary64 :=
  if [".inf", ".Inf", ".INF", "+.inf", "+.Inf", "+.INF"].contains s then
    some (Binary64.infinity false)
  else if ["-.inf", "-.Inf", "-.INF"].contains s then some (Binary64.infinity true)
  else if [".nan", ".NaN", ".NAN"].contains s then some Binary64.nan
  else
    match s.toList with
    | '+' :: '+' :: _ => none
    | '+' :: '-' :: _ => none
    | '+' :: rest => finite? rest
    | cs => finite? cs

/-! ## Values -/

/-- The value of a text that is no integer of at most 128 bits. -/
def ofOther (s : String) : Plain :=
  if hasNeedlessZero (withoutSign s.toList) then .string s
  else
    match float? s with
    | some x => .float x
    | none => .string s

/-- The value of a text.  An integer that is too wide has none. -/
def ofText (s : String) : Option Plain :=
  if s.isEmpty || nullText s then some .null
  else
    match bool? s with
    | some b => some (.bool b)
    | none =>
      match integer? s with
      | some (.fits i) => some (.int i)
      | some .tooWide => none
      | _ => some (ofOther s)

end Plain
end Yaml
end LedgerCheck
