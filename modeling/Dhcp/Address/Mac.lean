import Dhcp.Octets
import Dhcp.Text.Numeral

/-!
# Ethernet addresses

An Ethernet address is six octets. Its own text has upper-case digits and colons; `Mac.ofText?`
reads more than that: an octet may have a delimiter in front of it, and the first delimiter of the
text decides which of `-`, `:` and `.` all the others are.
-/

namespace Dhcp

/-- An Ethernet address. -/
structure Mac where
  octets : Octets
  length_octets : octets.length = 6
deriving DecidableEq

namespace Mac

/-- The address with these octets, if there are six of them. -/
def ofOctets? (data : Octets) : Option Mac :=
  if h : data.length = 6 then some ⟨data, h⟩ else none

/-- The text of an address: upper-case digits, colons between the octets. -/
def text (m : Mac) : String :=
  (m.octets.hex ":").map Char.toUpper

/-- A delimiter at the front of a text, where it may still be chosen or has been. -/
def skipDelimiter (chosen : Option Char) : List Char → Option Char × List Char
  | [] => (chosen, [])
  | c :: rest =>
    if c ∈ ['-', ':', '.'] ∧ chosen.all (· = c) then (some c, rest) else (chosen, c :: rest)

/-- The last `count` octets of an address, where `chosen` is the delimiter in use. -/
def readOctets? : (count : Nat) → (chosen : Option Char) → List Char → Option Octets
  | 0, _, [] => some []
  | 0, _, _ => none
  | count + 1, chosen, text =>
    match skipDelimiter chosen text with
    | (chosen, high :: low :: rest) => do
      let high ← Text.digit? 16 high
      let low ← Text.digit? 16 low
      let octets ← readOctets? count chosen rest
      pure (UInt8.ofNat (high * 16 + low) :: octets)
    | _ => none

/-- The address that a text is, all of it. -/
def ofText? (text : String) : Option Mac :=
  (readOctets? 6 none text.toList).bind ofOctets?

end Mac

end Dhcp
