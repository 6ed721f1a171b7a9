/-!
# Durations and their text

A duration is a number of nanoseconds. Its text takes the largest unit of seconds, milliseconds,
microseconds and nanoseconds of which there is at least one, and writes what is left over as a
decimal fraction without zeros at its end.
-/

namespace Dhcp

/-- A length of time in whole nanoseconds. -/
structure Duration where
  nanos : Nat
deriving DecidableEq

namespace Duration

def ofSeconds (n : Nat) : Duration := ⟨n * 1000000000⟩

def ofMillis (n : Nat) : Duration := ⟨n * 1000000⟩

/-- The whole seconds of a duration. -/
def seconds (d : Duration) : Nat := d.nanos / 1000000000

/-- The decimal point and the digits behind it for `n` parts of a unit that has `places` places; no
text if there is no part. -/
def fractionText (places n : Nat) : String :=
  let digits := Nat.toDigits 10 n
  let padded := List.replicate (places - digits.length) '0' ++ digits
  let kept := (padded.reverse.dropWhile (· = '0')).reverse
  if kept = [] then "" else String.ofList ('.' :: kept)

/-- The duration in units of `size` nanoseconds, which have `places` places. -/
def textIn (d : Duration) (size places : Nat) (unit : String) : String :=
  toString (d.nanos / size) ++ fractionText places (d.nanos % size) ++ unit

/-- The duration in the largest unit of which it holds at least one. -/
def text (d : Duration) : String :=
  if 1000000000 ≤ d.nanos then d.textIn 1000000000 9 "s"
  else if 1000000 ≤ d.nanos then d.textIn 1000000 6 "ms"
  else if 1000 ≤ d.nanos then d.textIn 1000 3 "µs"
  else d.textIn 1 0 "ns"

end Duration

end Dhcp
