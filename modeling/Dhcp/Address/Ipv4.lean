import Dhcp.Octets
import Dhcp.Text.Numeral

/-!
# IPv4 addresses

An address is a number of 32 bits. It travels as four octets, most significant first, and is
written as those octets in decimal with points between them.

**The law** (`ofOctets_octets`, `octets_ofOctets`): an address and its four octets determine each
other.

Reading a text is strict: four numerals of at most three digits, none above 255 and none with a
spare zero in front.
-/

namespace Dhcp

/-- An IPv4 address. -/
structure Ipv4 where
  bits : UInt32
deriving DecidableEq, Inhabited

namespace Ipv4

/-- The address that stands for none. -/
def unspecified : Ipv4 := ⟨0⟩

/-- The address of every host on the link. -/
def everyone : Ipv4 := ⟨0xFFFFFFFF⟩

/-! ## Octets -/

/-- The four octets of an address. -/
def octets (a : Ipv4) : Octets := Octets.ofNat 4 a.bits.toNat

/-- The address that octets spell; only four octets spell an address. -/
def ofOctets (data : Octets) : Ipv4 := ⟨UInt32.ofNat data.toNat⟩

@[simp] theorem length_octets (a : Ipv4) : a.octets.length = 4 := Octets.length_ofNat ..

/-- An address is read back from its octets. -/
theorem ofOctets_octets (a : Ipv4) : ofOctets a.octets = a := by
  have h : a.bits.toNat < Octets.limit 4 := a.bits.toNat_lt
  simp [ofOctets, octets, Octets.toNat_ofNat h]

theorem octets_ofOctets {data : Octets} (h : data.length = 4) : (ofOctets data).octets = data := by
  have hlt := Octets.toNat_lt data
  rw [h] at hlt
  have hmod : data.toNat % 2 ^ 32 = data.toNat := Nat.mod_eq_of_lt hlt
  simp only [ofOctets, octets, UInt32.toNat_ofNat', hmod]
  rw [← h, Octets.ofNat_toNat]

/-! ## Text -/

/-- The text of an address. -/
def text (a : Ipv4) : String :=
  ".".intercalate (a.octets.map fun b => toString b.toNat)

/-- A numeral of one octet. -/
def octetNumeral : Text.Numeral := { maxDigits := some 3, leadingZeros := false, limit := 256 }

/-- The last `count` numerals of an address at the front of a text, each behind a point. -/
def readPoints? : (count : Nat) → List Char → Option (List Nat × List Char)
  | 0, text => some ([], text)
  | count + 1, '.' :: text => do
    let (n, text) ← octetNumeral.read? text
    let (ns, text) ← readPoints? count text
    pure (n :: ns, text)
  | _ + 1, _ => none

/-- The address at the front of a text and what follows it. -/
def read? (text : List Char) : Option (Ipv4 × List Char) := do
  let (n, text) ← octetNumeral.read? text
  let (ns, text) ← readPoints? 3 text
  pure (ofOctets ((n :: ns).map UInt8.ofNat), text)

/-- The address that a text is, all of it. -/
def ofText? (text : String) : Option Ipv4 :=
  match read? text.toList with
  | some (a, []) => some a
  | _ => none

end Ipv4

end Dhcp
