import LedgerCheck.Text.Digits
/-!
# Durations

A number of seconds is shown in hours, minutes and seconds, to the millisecond: `2h0m5s`, `3m12.5s`,
`45s`, `250ms`, `0s`.  Units that are zero are left out from the front, and what rounds to less than
one millisecond is no time at all.

* `roundHalfAway` — the nearest integer, a half going away from zero.
* `Duration.chars` — the text of a whole number of milliseconds.
* `Duration.text` — the text of a rational number of seconds.
-/

namespace LedgerCheck

/-- The integer nearest to a rational, a half going away from zero. -/
def roundHalfAway (q : Rat) : Int :=
  if q < 0 then -(-q + 1 / 2).floor else (q + 1 / 2).floor

namespace Duration

/-- Whole seconds and milliseconds below one second, which are shown without zeros at their end. -/
def secondsChars (seconds millis : Nat) : List Char :=
  Nat.toDigits 10 seconds ++
    if millis = 0 then []
    else '.' :: ((Digits.padded 10 3 millis).reverse.dropWhile (· == '0')).reverse

/-- The text of a whole number of milliseconds. -/
def chars (millis : Nat) : List Char :=
  if millis = 0 then ['0', 's']
  else if millis < 1000 then Nat.toDigits 10 millis ++ ['m', 's']
  else
    let total := millis / 1000
    let hours := total / 3600
    let minutes := total % 3600 / 60
    let seconds := secondsChars (total % 60) (millis % 1000) ++ ['s']
    if hours = 0 then
      if minutes = 0 then seconds else Nat.toDigits 10 minutes ++ 'm' :: seconds
    else Nat.toDigits 10 hours ++ 'h' :: (Nat.toDigits 10 minutes ++ 'm' :: seconds)

/-- The milliseconds nearest to a number of seconds; there is no negative duration. -/
def millis (seconds : Rat) : Nat := (roundHalfAway (seconds * 1000)).toNat

/-- The text of a number of seconds. -/
def text (seconds : Rat) : String := String.ofList (chars (millis seconds))

end Duration
end LedgerCheck
