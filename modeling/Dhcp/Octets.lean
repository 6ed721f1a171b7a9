/-!
# Octet strings

Every field of a datagram is a string of octets. This module holds the readings the rest of the
library needs of such a string: the number that its octets spell with the most significant first,
a slot of fixed width that a shorter string is padded into, and the text that shows it in
hexadecimal.

**The law of numbers**: `toNat_ofNat` and `ofNat_toNat` say that a number below `limit width` and a
string of `width` octets determine each other, so reading and writing a fixed-width number lose
nothing. **The law of slots**: `length_fit` says that a slot always has its width.
-/

namespace Dhcp

/-- A string of octets, as a datagram or one of its fields carries it. -/
abbrev Octets := List UInt8

namespace Octets

/-! ## Numbers -/

/-- The number that the octets spell in base 256, most significant first. -/
def toNat (data : Octets) : Nat :=
  data.foldl (fun n b => n * 256 + b.toNat) 0

/-- The last `width` digits of a number in base 256, most significant first. -/
def ofNat : (width : Nat) → Nat → Octets
  | 0, _ => []
  | width + 1, n => ofNat width (n / 256) ++ [UInt8.ofNat n]

/-- The first number that does not fit in `width` octets. -/
def limit : (width : Nat) → Nat
  | 0 => 1
  | width + 1 => limit width * 256

@[simp] theorem length_ofNat (width n : Nat) : (ofNat width n).length = width := by
  induction width generalizing n with
  | zero => rfl
  | succ width ih => simp [ofNat, ih]

@[simp] theorem toNat_nil : toNat [] = 0 := rfl

/-- An octet that is appended becomes the lowest digit. -/
theorem toNat_append_singleton (data : Octets) (b : UInt8) :
    toNat (data ++ [b]) = toNat data * 256 + b.toNat := by
  simp [toNat, List.foldl_append]

/-- A number is below the limit of its octets. -/
theorem toNat_lt (data : Octets) : toNat data < limit data.length := by
  suffices h : ∀ rev : Octets, toNat rev.reverse < limit rev.length by
    simpa using h data.reverse
  intro rev
  induction rev with
  | nil => decide
  | cons b rev ih =>
    have hb := b.toNat_lt
    rw [List.reverse_cons, toNat_append_singleton, List.length_cons, limit]
    omega

/-- A number that fits in `width` octets is what those octets spell. -/
theorem toNat_ofNat {width n : Nat} (h : n < limit width) : toNat (ofNat width n) = n := by
  induction width generalizing n with
  | zero =>
    rw [limit] at h
    simp [ofNat]
    omega
  | succ width ih =>
    rw [limit] at h
    have hq : n / 256 < limit width := by omega
    rw [ofNat, toNat_append_singleton, ih hq, UInt8.toNat_ofNat']
    omega

/-- Octets are what the number they spell is written with at their own width. -/
theorem ofNat_toNat (data : Octets) : ofNat data.length (toNat data) = data := by
  suffices h : ∀ rev : Octets, ofNat rev.length (toNat rev.reverse) = rev.reverse by
    simpa using h data.reverse
  intro rev
  induction rev with
  | nil => rfl
  | cons b rev ih =>
    have hb := b.toNat_lt
    rw [List.length_cons, List.reverse_cons, ofNat, toNat_append_singleton]
    have hq : (toNat rev.reverse * 256 + b.toNat) / 256 = toNat rev.reverse := by omega
    have hr : UInt8.ofNat (toNat rev.reverse * 256 + b.toNat) = b := by
      apply UInt8.toNat_inj.1
      rw [UInt8.toNat_ofNat']
      omega
    rw [hq, hr, ih]

/-! ## Slots -/

/-- The `width` octets from `offset` on, or as many of them as there are. -/
def slice (data : Octets) (offset width : Nat) : Octets :=
  (data.drop offset).take width

/-- The octets cut to `width`, or padded with zero octets up to it. -/
def fit (data : Octets) (width : Nat) : Octets :=
  data.take width ++ List.replicate (width - data.length) 0

/-- The octets without the zero octets at their end. -/
def trim (data : Octets) : Octets :=
  (data.reverse.dropWhile (· = 0)).reverse

@[simp] theorem length_fit (data : Octets) (width : Nat) : (data.fit width).length = width := by
  simp only [fit, List.length_append, List.length_take, List.length_replicate]
  omega

/-! ## Hexadecimal text -/

/-- The two lower-case hexadecimal digits of an octet. -/
def octetText (b : UInt8) : String :=
  String.ofList [Nat.digitChar (b.toNat / 16), Nat.digitChar (b.toNat % 16)]

/-- Two lower-case hexadecimal digits an octet, with `separator` between the octets. -/
def hex (data : Octets) (separator : String) : String :=
  separator.intercalate (data.map octetText)

end Octets

end Dhcp
