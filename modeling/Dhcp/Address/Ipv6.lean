import Dhcp.Address.Ipv4

/-!
# IPv6 addresses and their text

Datagrams are IPv4 here, but the place a request came from may be written as an IPv6 endpoint. An
address is eight groups of 16 bits.

Its text writes the groups in hexadecimal without spare zeros and puts `::` for the first of the
longest runs of at least two zero groups; an address that only wraps an IPv4 address is written
with the points of that. Reading takes `::` for any number of groups but none, and an IPv4 address
for the last two groups.
-/

namespace Dhcp

/-- An IPv6 address. -/
structure Ipv6 where
  groups : List UInt16
  length_groups : groups.length = 8
deriving DecidableEq

namespace Ipv6

/-! ## Writing -/

/-- The start and length of the first of the longest runs of zeros, where `index` is the place of
the first group. -/
def longestZeros (index : Nat) : List UInt16 → Nat × Nat
  | [] => (index, 0)
  | g :: groups =>
    let here := ((g :: groups).takeWhile (· = 0)).length
    let later := longestZeros (index + 1) groups
    if later.2 ≤ here then (index, here) else later

/-- Groups in hexadecimal with colons between them. -/
def groupsText (groups : List UInt16) : String :=
  ":".intercalate (groups.map fun g => String.ofList (Nat.toDigits 16 g.toNat))

/-- The IPv4 address that an address wraps. -/
def wrapped? (a : Ipv6) : Option Ipv4 :=
  match a.groups with
  | [0, 0, 0, 0, 0, 0xFFFF, high, low] => some ⟨UInt32.ofNat (high.toNat * 65536 + low.toNat)⟩
  | _ => none

/-- The text of an address. -/
def text (a : Ipv6) : String :=
  match a.wrapped? with
  | some inner => "::ffff:" ++ inner.text
  | none =>
    let (start, length) := longestZeros 0 a.groups
    if 1 < length then
      groupsText (a.groups.take start) ++ "::" ++ groupsText (a.groups.drop (start + length))
    else groupsText a.groups

/-! ## Reading -/

/-- A numeral of one group. -/
def groupNumeral : Text.Numeral := { base := 16, maxDigits := some 4, limit := UInt16.size }

/-- The text behind the colon that stands before every group but the first. -/
def skipColon? (first : Bool) : List Char → Option (List Char)
  | ':' :: text => if first then some (':' :: text) else some text
  | text => if first then some text else none

/-- As many groups as the front of a text holds, at most `count`; whether the last two came from an
IPv4 address; and what follows. -/
def readGroups (first : Bool) : (count : Nat) → List Char → List UInt16 × Bool × List Char
  | 0, text => ([], false, text)
  | count + 1, text =>
    let inner := if count = 0 then none else (skipColon? first text).bind Ipv4.read?
    match inner with
    | some (a, rest) =>
      ([UInt16.ofNat (a.bits.toNat / 65536), UInt16.ofNat a.bits.toNat], true, rest)
    | none =>
      match (skipColon? first text).bind groupNumeral.read? with
      | none => ([], false, text)
      | some (g, rest) =>
        let (groups, inner, rest) := readGroups false count rest
        (UInt16.ofNat g :: groups, inner, rest)

/-- The address with these groups, if there are eight of them. -/
def ofGroups? (groups : List UInt16) : Option Ipv6 :=
  if h : groups.length = 8 then some ⟨groups, h⟩ else none

/-- The address at the front of a text and what follows it. -/
def read? (text : List Char) : Option (Ipv6 × List Char) :=
  match readGroups true 8 text with
  | (head, inner, rest) =>
    if head.length = 8 then (ofGroups? head).map (·, rest)
    else if inner then none
    else
      match rest with
      | ':' :: ':' :: rest =>
        let (tail, _, rest) := readGroups true (7 - head.length) rest
        let zeros := List.replicate (8 - head.length - tail.length) 0
        (ofGroups? (head ++ zeros ++ tail)).map (·, rest)
      | _ => none

end Ipv6

end Dhcp
