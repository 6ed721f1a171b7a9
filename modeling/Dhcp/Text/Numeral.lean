/-!
# Numerals inside a text

Addresses, ports and command-line numbers are read by one rule with a few choices: the base, how
many digits may stand in a row, whether a numeral may begin with a spare zero, and the first number
that is too large. A `Numeral` holds the choices, and `Numeral.read?` takes the longest run of
digits and leaves the rest of the text.

Nothing but a digit of ASCII is a digit.
-/

namespace Dhcp.Text

/-- The value of a digit in a base of at most sixteen. -/
def digit? (base : Nat) (c : Char) : Option Nat :=
  let value :=
    if '0' ≤ c ∧ c ≤ '9' then c.toNat - '0'.toNat
    else if 'a' ≤ c ∧ c ≤ 'f' then c.toNat - 'a'.toNat + 10
    else if 'A' ≤ c ∧ c ≤ 'F' then c.toNat - 'A'.toNat + 10
    else base
  if value < base then some value else none

/-- How a numeral is written and how large it may be. -/
structure Numeral where
  base : Nat := 10
  /-- The longest run of digits that is still a numeral, if there is such a bound. -/
  maxDigits : Option Nat := none
  /-- Whether a numeral of several digits may begin with a zero. -/
  leadingZeros : Bool := true
  /-- The first number that is too large. -/
  limit : Nat

namespace Numeral

/-- The number that a run of digits spells. -/
def value (base : Nat) (digits : List Char) : Nat :=
  digits.foldl (fun n c => n * base + (digit? base c).getD 0) 0

/-- The numeral at the front of a text and what follows it. -/
def read? (f : Numeral) (text : List Char) : Option (Nat × List Char) :=
  let (digits, rest) := text.span fun c => (digit? f.base c).isSome
  let tooLong := f.maxDigits.any (· < digits.length)
  let spareZero := digits.head? = some '0' ∧ 1 < digits.length ∧ ¬f.leadingZeros
  if digits = [] ∨ tooLong ∨ spareZero ∨ f.limit ≤ value f.base digits then none
  else some (value f.base digits, rest)

/-- The number of a text that is one numeral and nothing else. -/
def readAll? (f : Numeral) (text : List Char) : Option Nat :=
  match f.read? text with
  | some (n, []) => some n
  | _ => none

end Numeral

end Dhcp.Text
