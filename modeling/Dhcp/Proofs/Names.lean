import Dhcp.Proofs.NormalForm

/-!
# Names on the wire

The name of the server and that of the boot file travel in slots of 64 and 128 octets. A name that
is longer than its slot is cut at the last octet of the slot, wherever that stands in a character,
and the reader takes a slot for a name only if it is well-formed text.

**The law** (`Message.names_read_back`): a name that is put into a message which can be written and
read is read back as a prefix of itself, if it fits its slot or is cut between two characters.

**What does not hold** (`Message.name_lost_inside_character`): a name that is cut inside a
character is not read back as what is left of it, but as no name at all.
-/

namespace Dhcp

/-! ## Prefixes of a text and of its octets -/

namespace Octets

theorem ofText_append (s t : String) : ofText (s ++ t) = ofText s ++ ofText t := by
  simp [ofText, String.toByteArray_append]

theorem length_ofText (s : String) : (ofText s).length = s.utf8ByteSize := by
  simp [ofText]

/-- Characters of code zero are octets that are zero. -/
theorem ofText_zeros (n : Nat) : ofText (String.ofList (List.replicate n '\x00')) =
    List.replicate n 0 := by
  induction n with
  | zero => rfl
  | succ n ih =>
    rw [List.replicate_succ, ← List.singleton_append, String.ofList_append, ofText_append, ih]
    rfl

/-- The octets of a text from one place to another. -/
theorem extract_toByteArray {text : String} {front mid back : Octets}
    (split : ofText text = front ++ (mid ++ back)) :
    text.toByteArray.extract front.length (front.length + mid.length) = ⟨mid.toArray⟩ := by
  have whole : text.toByteArray = ⟨(ofText text).toArray⟩ := by simp [ofText]
  rw [whole, split]
  apply ByteArray.ext
  simp

/-- The octets of a text are valid. -/
theorem isValidUTF8_of_text {data : Octets} {text : String} (same : ofText text = data) :
    (⟨data.toArray⟩ : ByteArray).IsValidUTF8 := by
  have whole : text.toByteArray = ⟨data.toArray⟩ := by simp [← same, ofText]
  exact whole ▸ text.isValidUTF8

variable {text : String} {front back : Octets} (split : ofText text = front ++ back)

include split

/-- A text is cut in two at a place between characters. -/
theorem exists_append_of_isValid (valid : (⟨front.length⟩ : String.Pos.Raw).IsValid text) :
    ∃ kept rest, text = kept ++ rest ∧ ofText kept = front ∧ ofText rest = back := by
  obtain ⟨kept, rest, rfl, place⟩ := String.Pos.Raw.isValid_iff_exists_append.mp valid
  have same : front.length = kept.utf8ByteSize := congrArg String.Pos.Raw.byteIdx place
  rw [ofText_append] at split
  obtain ⟨kept_eq, rest_eq⟩ := List.append_inj split ((length_ofText kept).trans same.symm)
  exact ⟨kept, rest, rfl, kept_eq, rest_eq⟩

theorem length_add_length : front.length + back.length = text.utf8ByteSize := by
  rw [← length_ofText, split, List.length_append]

theorem place_le : (⟨front.length⟩ : String.Pos.Raw) ≤ text.rawEndPos := by
  rw [String.Pos.Raw.le_iff, String.byteIdx_rawEndPos, ← length_add_length split]
  exact Nat.le_add_right ..

/-- If the front of the octets of a text is a text, so is what is left of them. -/
theorem exists_append_of_front {s : String} (here : ofText s = front) :
    ∃ kept rest, text = kept ++ rest ∧ ofText kept = front ∧ ofText rest = back := by
  apply exists_append_of_isValid split
  refine String.Pos.Raw.isValid_iff_isValidUTF8_extract_zero.mpr ⟨place_le split, ?_⟩
  have octets := extract_toByteArray (show ofText text = [] ++ (front ++ back) from split)
  rw [List.length_nil, Nat.zero_add] at octets
  exact octets ▸ isValidUTF8_of_text here

/-- If what is left is a text, so is the front. -/
theorem exists_append_of_back {s : String} (here : ofText s = back) :
    ∃ kept rest, text = kept ++ rest ∧ ofText kept = front ∧ ofText rest = back := by
  apply exists_append_of_isValid split
  refine String.Pos.Raw.isValid_iff_isValidUTF8_extract_utf8ByteSize.mpr ⟨place_le split, ?_⟩
  have octets := extract_toByteArray
    (show ofText text = front ++ (back ++ []) by rw [List.append_nil, split])
  rw [length_add_length split] at octets
  exact octets ▸ isValidUTF8_of_text here

omit split

/-! ## Texts that are cut to a slot -/

/-- A text fits a slot, or the end of the slot falls between two of its characters. -/
def CutsCleanly (name : String) (width : Nat) : Prop :=
  name.utf8ByteSize ≤ width ∨ ∃ kept rest, name = kept ++ rest ∧ kept.utf8ByteSize = width

/-- A name is cut between characters exactly if what is left are the octets of a text. -/
theorem cutsCleanly_iff {name : String} {width : Nat} :
    CutsCleanly name width ↔ ∃ kept, ofText kept = (ofText name).take width := by
  constructor
  · rintro (fits | ⟨kept, rest, rfl, rfl⟩)
    · exact ⟨name, (List.take_of_length_le (length_ofText name ▸ fits)).symm⟩
    · rw [ofText_append, ← length_ofText, List.take_left]
      exact ⟨kept, rfl⟩
  · rintro ⟨s, here⟩
    obtain ⟨kept, rest, whole, front, -⟩ :=
      exists_append_of_front (List.take_append_drop width (ofText name)).symm here
    by_cases fits : name.utf8ByteSize ≤ width
    · exact .inl fits
    · refine .inr ⟨kept, rest, whole, ?_⟩
      rw [← length_ofText, front, List.length_take, length_ofText]
      omega

/-- The padding is text, so taking it away makes no difference to what is text. -/
theorem exists_ofText_trim_iff (data : Octets) :
    (∃ t, ofText t = data.trim) ↔ ∃ s, ofText s = data := by
  obtain ⟨n, padded⟩ := eq_trim_append data
  constructor
  · rintro ⟨t, here⟩
    refine ⟨t ++ String.ofList (List.replicate n '\x00'), ?_⟩
    rw [ofText_append, here, ofText_zeros, ← padded]
  · rintro ⟨s, rfl⟩
    obtain ⟨kept, -, -, front, -⟩ := exists_append_of_back padded (ofText_zeros n)
    exact ⟨kept, front⟩

/-- What is read of a text that was put into a slot: the part that the slot holds, without the zero
octets at its end, or nothing where the slot ends inside a character. -/
structure ReadsBack (name : String) (width : Nat) (found : Option String) : Prop where
  kept : CutsCleanly name width → ∃ t, found = some t ∧ ∃ n rest,
    name = t ++ String.ofList (List.replicate n '\x00') ++ rest ∧
      t.utf8ByteSize + n = min width name.utf8ByteSize
  lost : ¬CutsCleanly name width → found = none

/-- What is read of a name that was cut and filled up is said by how it was cut. -/
theorem readsBack (name : String) (width : Nat) :
    ReadsBack name width (text? (trim ((ofText name).take width))) := by
  have clean : CutsCleanly name width ↔
      ∃ t, text? (trim ((ofText name).take width)) = some t := by
    rw [cutsCleanly_iff, ← exists_ofText_trim_iff]
    exact exists_congr fun t => eq_comm.trans text?_eq_some_iff.symm
  constructor
  · intro cut
    obtain ⟨t, read⟩ := clean.mp cut
    refine ⟨t, read, ?_⟩
    obtain ⟨n, padded⟩ := eq_trim_append ((ofText name).take width)
    rw [text?_eq_some_iff.mp read, ← ofText_zeros, ← ofText_append] at padded
    obtain ⟨kept, rest, whole, front, -⟩ :=
      exists_append_of_front (List.take_append_drop width (ofText name)).symm padded.symm
    have same : some kept = some (t ++ String.ofList (List.replicate n '\x00')) := by
      rw [← text?_ofText kept, front, padded, text?_ofText]
    obtain rfl := Option.some.inj same
    refine ⟨n, rest, whole, ?_⟩
    calc t.utf8ByteSize + n
        = (ofText (t ++ String.ofList (List.replicate n '\x00'))).length := by
          rw [ofText_append, ofText_zeros, List.length_append, length_ofText, List.length_replicate]
      _ = min width name.utf8ByteSize := by
          rw [front, List.length_take, length_ofText]
  · intro torn
    exact Option.eq_none_iff_forall_ne_some.mpr fun t read => torn (clean.mpr ⟨t, read⟩)

end Octets

/-! ## Names in a message -/

namespace Message

variable {r : Registry} {m k n : Message}

/-- A message whose options can be written and read can be written and read with any other header
that has the same hardware length. -/
theorem decodeWith_octets_of_same_options (read : decodeWith r m.octets = .ok n)
    (options : k.options = m.options) (hlen : k.hlen = m.hlen) :
    decodeWith r k.octets = .ok { k.toHeader.normal with options := n.options } := by
  obtain ⟨-, fits⟩ := header_of_decodeWith read
  have fits' : (k.octets.getD 2 0).toNat ≤ hardwareWidth := by
    rw [hlen_octets, hlen, ← hlen_octets]
    exact fits
  have area : k.octets.drop Header.size = m.octets.drop Header.size := by
    rw [drop_octets, drop_octets, options]
  rw [decodeWith_of_header (size_le_octets m) fits] at read
  rw [decodeWith_of_header (size_le_octets k) fits', area, ofOctets_octets]
  cases made : (Area.read (m.octets.drop Header.size)).decode r with
  | error fault =>
    rw [made] at read
    cases read
  | ok os =>
    rw [made] at read
    cases read
    rfl

/-- So it comes through writing and reading with its own header. -/
theorem exists_read_of_same_options {d : Octets} (written : m.encode = .ok d)
    (read : decode d = .ok n) (options : k.options = m.options) (hlen : k.hlen = m.hlen) :
    ∃ d' n', k.encode = .ok d' ∧ decode d' = .ok n' ∧ n'.toHeader = k.toHeader.normal := by
  obtain ⟨writable, rfl⟩ := encode_eq_ok_iff.mp written
  have written' : k.encode = .ok k.octets := encode_eq_ok_iff.mpr ⟨options ▸ writable, rfl⟩
  exact ⟨k.octets, _, written', decodeWith_octets_of_same_options read options hlen, rfl⟩

/-- A name that is put into a message which can be written and read does not keep the message from
being written and read. If the name fits its slot, or the slot ends between two of its characters,
it is read back as what the slot holds of it, without the zero octets at the end; and if the slot
ends inside a character, no name is read. This holds of the name of the server with its slot of 64
octets and of that of the boot file with its slot of 128, and of every text. -/
theorem names_read_back (m : Message) {d : Octets} {n : Message} (written : m.encode = .ok d)
    (read : decode d = .ok n) (name : String) :
    (∃ d' n', (m.withServerName name).encode = .ok d' ∧ decode d' = .ok n' ∧
      Octets.ReadsBack name 64 n'.serverName?) ∧
    ∃ d' n', (m.withBootFile name).encode = .ok d' ∧ decode d' = .ok n' ∧
      Octets.ReadsBack name 128 n'.bootFile? := by
  constructor
  · obtain ⟨d', n', written', read', header⟩ :=
      exists_read_of_same_options (k := m.withServerName name) written read rfl rfl
    refine ⟨d', n', written', read', ?_⟩
    rw [serverName?, header]
    exact Octets.readsBack name 64
  · obtain ⟨d', n', written', read', header⟩ :=
      exists_read_of_same_options (k := m.withBootFile name) written read rfl rfl
    refine ⟨d', n', written', read', ?_⟩
    rw [bootFile?, header]
    exact Octets.readsBack name 128

/-- A name of three octets with a zero octet behind it. -/
theorem names_read_back_short :
    let name := "srv\x00"
    ∃ d n t rest, ((Message.new .bootReply 1).withServerName name).encode = .ok d ∧
      decode d = .ok n ∧ n.serverName? = some t ∧ name = t ++ rest := by
  intro name
  have written : (Message.new .bootReply 1).encode = .ok (Message.new .bootReply 1).octets :=
    encode_eq_ok_iff.mpr ⟨nofun, rfl⟩
  obtain ⟨n, read⟩ : ∃ n, decode (Message.new .bootReply 1).octets = .ok n :=
    exists_of_readable (by decide +kernel)
  obtain ⟨⟨d', n', written', read', back⟩, -⟩ := names_read_back _ written read name
  obtain ⟨t, found, zeros, rest, whole, -⟩ := back.kept (.inl (by decide))
  exact ⟨d', n', t, _, written', read', found, whole.trans (String.append_assoc ..)⟩

/-- The last character of a name begins in the last octet of the slot, and the name is lost: what
the slot holds is no text, though 63 characters of the name stand in it. -/
theorem name_lost_inside_character :
    let m := Message.new .bootReply 1
    let name := String.ofList (List.replicate 63 'a') ++ "é"
    (m.encode.bind decode).toOption.isSome = true ∧
      (((m.withServerName name).encode.bind decode).map serverName?) = .ok none := by
  decide +kernel

end Message

end Dhcp
