import Dhcp.Octets

/-!
# Text in octets

Texts travel as UTF-8. There are two readings of octets as text: `Octets.text?` answers only when
the octets are the encoding of a text, and `Octets.lossyText` always answers, with `U+FFFD` in the
place of each ill-formed piece.

**The law** (`text?_ofText`, `ofText_of_text?`): the octets of a text read back as that text, and
octets that read as a text are the octets of it.

An ill-formed piece is as long as it could have been the beginning of a character, and at least one
octet; reading goes on right behind it.
-/

namespace Dhcp.Octets

/-! ## Exact reading -/

/-- The octets of a text. -/
def ofText (text : String) : Octets :=
  text.toByteArray.data.toList

/-- The text that the octets are the encoding of. -/
def text? (data : Octets) : Option String :=
  String.fromUTF8? ⟨data.toArray⟩

/-- A text is read back from its octets. -/
theorem text?_ofText (text : String) : text? (ofText text) = some text := by
  have h : (⟨(ofText text).toArray⟩ : ByteArray) = text.toByteArray := by simp [ofText]
  rw [text?, h, String.fromUTF8?, dif_pos text.isValidUTF8]
  rfl

theorem ofText_of_text? {data : Octets} {text : String} (h : text? data = some text) :
    ofText text = data := by
  unfold text? String.fromUTF8? at h
  split at h
  · cases h
    simp [ofText, String.fromUTF8]
  · cases h

/-- Octets are read as a text exactly if they are its octets. -/
theorem text?_eq_some_iff {data : Octets} {text : String} :
    text? data = some text ↔ data = ofText text :=
  ⟨fun h => (ofText_of_text? h).symm, fun h => h ▸ text?_ofText text⟩

/-! ## Reading with replacements -/

/-- What must follow the first octet of a character of several octets: how many octets, and the
range of the first of them. The others lie between `0x80` and `0xBF`. -/
structure Continuation where
  count : Nat
  low : UInt8
  high : UInt8

/-- What must follow `lead`, unless no character of several octets begins with it. -/
def continuation? (lead : UInt8) : Option Continuation :=
  if lead < 0xC2 then none
  else if lead < 0xE0 then some ⟨1, 0x80, 0xBF⟩
  else if lead = 0xE0 then some ⟨2, 0xA0, 0xBF⟩
  else if lead = 0xED then some ⟨2, 0x80, 0x9F⟩
  else if lead < 0xF0 then some ⟨2, 0x80, 0xBF⟩
  else if lead = 0xF0 then some ⟨3, 0x90, 0xBF⟩
  else if lead < 0xF4 then some ⟨3, 0x80, 0xBF⟩
  else if lead = 0xF4 then some ⟨3, 0x80, 0x8F⟩
  else none

/-- The octets at the front of `rest` that can go on a character. -/
def Continuation.run (c : Continuation) : Octets → Octets
  | [] => []
  | b :: rest =>
    if 0 < c.count ∧ c.low ≤ b ∧ b ≤ c.high then
      b :: (rest.take (c.count - 1)).takeWhile fun b => 0x80 ≤ b && b ≤ 0xBF
    else []

/-- The character that a first octet and all that must follow it stand for. -/
def character (lead : UInt8) (tail : Octets) : Char :=
  let high := lead.toNat % (64 >>> tail.length)
  Char.ofNat (tail.foldl (fun n b => n * 64 + b.toNat % 64) high)

/-- The characters of the octets, with a replacement character for each ill-formed piece. -/
def lossyChars : Octets → List Char
  | [] => []
  | lead :: rest =>
    if lead < 0x80 then Char.ofNat lead.toNat :: lossyChars rest
    else match continuation? lead with
      | none => '\uFFFD' :: lossyChars rest
      | some c =>
        let tail := c.run rest
        let char := if tail.length = c.count then character lead tail else '\uFFFD'
        char :: lossyChars (rest.drop tail.length)
termination_by data => data.length

/-- The text of the octets, with a replacement character for each ill-formed piece. -/
def lossyText (data : Octets) : String :=
  String.ofList (lossyChars data)

end Dhcp.Octets
