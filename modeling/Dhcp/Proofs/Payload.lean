import Dhcp.Opt.Registry
import Dhcp.Proofs.Octets

/-!
# Payloads of options

What the known formats make of a payload has that payload, and what they make of the payload of an
option is that option, unless it was built in a form that the wire does not tell apart from another
one.

**The laws** (`decodeKnown_sound`, `decodeKnown_payload_iff`): whatever the known formats decode
carries the code it was asked for, has the payload it was decoded from and has a shape to be written
in; and the options that come back as they were are the `Plain` ones.
-/

namespace Dhcp

/-! ## Message types -/

/-- The types with names have the numbers from 1 to 18. -/
theorem MessageType.mem_named_iff {n : UInt8} :
    (∃ t ∈ named, t.toOctet = n) ↔ 1 ≤ n ∧ n ≤ 18 := by
  simp only [named, List.mem_cons, List.not_mem_nil, or_false, exists_eq_or_imp, exists_eq_left,
    toOctet, UInt8.le_iff_toNat_le, ← UInt8.toNat_inj, UInt8.reduceToNat]
  omega

/-- A number is read as an unknown type exactly if no type with a name has it. -/
theorem MessageType.ofOctet_eq_unknown_iff {n : UInt8} :
    ofOctet n = .unknown n ↔ ¬∃ t ∈ named, t.toOctet = n := by
  unfold ofOctet
  cases found : named.find? fun t => t.toOctet = n with
  | none => simpa using List.find?_eq_none.mp found
  | some t =>
    have mem := List.mem_of_find?_eq_some found
    have octet : t.toOctet = n := by simpa using List.find?_some found
    have known : t ≠ .unknown n := by
      rintro rfl
      simp [named] at mem
    simpa [known] using ⟨t, mem, octet⟩

/-- A message type keeps its meaning on the wire unless it is built as unknown where it is named. -/
theorem MessageType.ofOctet_toOctet_iff {t : MessageType} :
    ofOctet t.toOctet = t ↔ ∀ n, 1 ≤ n → n ≤ 18 → t ≠ .unknown n := by
  cases t with
  | unknown n =>
    rw [toOctet, ofOctet_eq_unknown_iff, mem_named_iff]
    constructor
    · rintro outside m low high ⟨⟩
      exact outside ⟨low, high⟩
    · rintro apart ⟨low, high⟩
      exact apart n low high rfl
  | _ => exact iff_of_true rfl fun _ _ _ => MessageType.noConfusion

/-! ## Writing -/

namespace Opt

/-- An option is written exactly if it has a shape and its length fits the length octet. -/
theorem encode_eq_ok_iff {o : Opt} {written : Octets} :
    o.encode = .ok written ↔
      o.defect? = none ∧ o.payload.length ≤ maxPayload ∧
        written = o.code :: UInt8.ofNat o.payload.length :: o.payload := by
  unfold encode
  cases o.defect? with
  | some defect => simp
  | none =>
    by_cases long : maxPayload < o.payload.length
    · simp [long, Nat.not_le_of_lt long]
    · simp [long, Nat.le_of_not_lt long, eq_comm]

/-- What has no shape to be written in is an empty list of addresses or an empty identifier. -/
theorem defect?_eq_some_iff {o : Opt} {defect : Defect} :
    o.defect? = some defect ↔
      ((∃ use, o = .addresses use []) ∧ defect = .emptyAddressList) ∨
        (∃ kind, o = .clientIdentifier kind []) ∧ defect = .emptyIdentifier := by
  cases o with
  | addresses use addrs => cases addrs <;> simp [defect?, eq_comm]
  | clientIdentifier kind id => cases id <;> simp [defect?, eq_comm]
  | _ => simp [defect?]

/-- An option that has a shape can only be too long. -/
theorem encode_eq_error_iff {o : Opt} (shaped : o.defect? = none) {fault : WireFault} :
    o.encode = .error fault ↔
      255 < o.payload.length ∧ fault = .optionTooLong o.code o.payload.length := by
  unfold encode
  rw [shaped]
  by_cases long : maxPayload < o.payload.length
  · simp only [if_pos long, Except.error.injEq, eq_comm, iff_and_self]
    exact fun _ => long
  · simp only [if_neg long, reduceCtorEq, false_iff]
    exact fun h => long h.1

end Opt

/-! ## Addresses -/

/-- Addresses are read back from their octets. -/
theorem addressesOf_octets (addrs : List Ipv4) :
    addressesOf (addrs.flatMap Ipv4.octets) = addrs := by
  induction addrs with
  | nil => rfl
  | cons addr addrs ih =>
    obtain ⟨a, b, c, d, four⟩ := List.length_eq_four.mp addr.length_octets
    rw [List.flatMap_cons, four]
    show Ipv4.ofOctets [a, b, c, d] :: addressesOf (addrs.flatMap Ipv4.octets) = addr :: addrs
    rw [ih, ← four, Ipv4.ofOctets_octets]

/-- Whole addresses are written back as the octets that they were read from. -/
theorem flatMap_addressesOf {data : Octets} (whole : data.length % 4 = 0) :
    (addressesOf data).flatMap Ipv4.octets = data := by
  fun_induction addressesOf data with
  | case1 a b c d rest ih =>
    have behind : rest.length % 4 = 0 := by
      simp only [List.length_cons] at whole
      omega
    rw [List.flatMap_cons, ih behind, Ipv4.octets_ofOctets rfl]
    rfl
  | case2 data few =>
    match data, few with
    | [], _ => rfl
    | [_], _ => simp at whole
    | [_, _], _ => simp at whole
    | [_, _, _], _ => simp at whole
    | a :: b :: c :: d :: rest, few => exact absurd rfl (few a b c d rest)

theorem length_flatMap_octets (addrs : List Ipv4) :
    (addrs.flatMap Ipv4.octets).length = 4 * addrs.length := by
  simp [List.length_flatMap, Nat.mul_comm]

/-! ## Reading -/

theorem exactly_eq_ok_iff {code : UInt8} {size : Nat} {data found : Octets} :
    exactly code size data = .ok found ↔ data.length = size ∧ found = data := by
  unfold exactly
  split
  · next h => simp [h, eq_comm]
  · next h => simp [h]

/-- A computation of two parts succeeds exactly if both do. -/
theorem bind_eq_ok_iff {ε α β : Type} {x : Except ε α} {f : α → Except ε β} {b : β} :
    (x >>= f) = .ok b ↔ ∃ a, x = .ok a ∧ f a = .ok b := by
  cases x with
  | error e => simp [bind, Except.bind]
  | ok a => simp [bind, Except.bind]

/-- What a known format decodes has the payload it was decoded from and a shape to be written in. It
is of that format, unless it is a text that is not UTF-8, which is kept raw. -/
theorem Format.decode_sound {f : Format} {data : Octets} {o : Opt} (h : f.decode data = .ok o) :
    o.payload = data ∧ o.defect? = none ∧
      (o.format? = some f ∨ (∃ use, f = .text use) ∧ data.text? = none ∧ o = .raw f.code data) := by
  cases f with
  | address use =>
    obtain ⟨found, exact, made⟩ := bind_eq_ok_iff.mp h
    obtain ⟨four, rfl⟩ := exactly_eq_ok_iff.mp exact
    cases made
    exact ⟨Ipv4.octets_ofOctets four, rfl, .inl rfl⟩
  | addresses use =>
    simp only [decode] at h
    split at h
    · cases h
    · next whole =>
      cases h
      obtain ⟨filled, four⟩ := not_or.mp whole
      have same := flatMap_addressesOf (not_not.mp four)
      refine ⟨same, ?_, .inl rfl⟩
      cases addrs : addressesOf data with
      | nil =>
        rw [addrs] at same
        exact absurd same.symm filled
      | cons addr rest => rfl
  | text use =>
    simp only [decode] at h
    split at h
    · next value text =>
      cases h
      exact ⟨Octets.ofText_of_text? text, rfl, .inl rfl⟩
    · next ill =>
      cases h
      exact ⟨rfl, rfl, .inr ⟨⟨use, rfl⟩, ill, rfl⟩⟩
  | seconds use =>
    obtain ⟨found, exact, made⟩ := bind_eq_ok_iff.mp h
    obtain ⟨four, rfl⟩ := exactly_eq_ok_iff.mp exact
    cases made
    exact ⟨Octets.ofNat_uint32 four, rfl, .inl rfl⟩
  | messageType =>
    obtain ⟨found, exact, made⟩ := bind_eq_ok_iff.mp h
    obtain ⟨one, rfl⟩ := exactly_eq_ok_iff.mp exact
    cases made
    obtain ⟨b, rfl⟩ := List.length_eq_one_iff.mp one
    refine ⟨?_, rfl, .inl rfl⟩
    rw [Octets.toNat_singleton, UInt8.ofNat_toNat, Opt.payload, MessageType.toOctet_ofOctet]
  | parameterRequestList =>
    cases h
    exact ⟨rfl, rfl, .inl rfl⟩
  | maximumMessageSize =>
    obtain ⟨found, exact, made⟩ := bind_eq_ok_iff.mp h
    obtain ⟨two, rfl⟩ := exactly_eq_ok_iff.mp exact
    cases made
    exact ⟨Octets.ofNat_uint16 two, rfl, .inl rfl⟩
  | clientIdentifier =>
    simp only [decode] at h
    split at h
    · cases h
      exact ⟨rfl, rfl, .inl rfl⟩
    · cases h

/-- What a format decodes has the code of the format. -/
theorem Format.code_of_decode {f : Format} {data : Octets} {o : Opt} (h : f.decode data = .ok o) :
    o.code = f.code := by
  obtain ⟨-, -, same | ⟨-, -, rfl⟩⟩ := decode_sound h
  · exact Opt.code_of_format? same
  · rfl

/-- What the known decoders accept has the code and the payload that it was read from, and no
defect. -/
theorem decodeKnown_sound {code : UInt8} {data : Octets} {o : Opt}
    (h : decodeKnown code data = .ok o) : o.code = code ∧ o.payload = data ∧ o.defect? = none := by
  unfold decodeKnown at h
  split at h
  · next f found =>
    obtain ⟨payload, shaped, -⟩ := Format.decode_sound h
    exact ⟨(Format.code_of_decode h).trans (Format.code_of_ofCode? found), payload, shaped⟩
  · cases h
    exact ⟨rfl, rfl, rfl⟩

@[simp] theorem decodeKnown_code (f : Format) (data : Octets) :
    decodeKnown f.code data = f.decode data := by
  simp only [decodeKnown, Format.ofCode?_code]

theorem exactly_of_length {code : UInt8} {size : Nat} {data : Octets} (h : data.length = size) :
    exactly code size data = .ok data :=
  exactly_eq_ok_iff.mpr ⟨h, rfl⟩

/-- A list of whole addresses that is not empty is decoded as that list. -/
theorem Format.decode_addresses {use : AddressListUse} {data : Octets} (filled : data ≠ [])
    (whole : data.length % 4 = 0) :
    (Format.addresses use).decode data = .ok (.addresses use (addressesOf data)) := by
  simp [decode, filled, whole]

/-- An option that is not raw and has a shape is read back as it was, unless it is a message type.
-/
theorem Opt.decode_payload {o : Opt} {f : Format} (known : o.format? = some f)
    (shaped : o.defect? = none) (type : f ≠ .messageType) : f.decode o.payload = .ok o := by
  cases o with
  | address use addr =>
    cases known
    simp only [Format.decode, payload, exactly_of_length addr.length_octets]
    exact congrArg (fun a => Except.ok (Opt.address use a)) (Ipv4.ofOctets_octets addr)
  | addresses use addrs =>
    cases known
    cases addrs with
    | nil => cases shaped
    | cons addr addrs =>
      have length := length_flatMap_octets (addr :: addrs)
      have filled : (addr :: addrs).flatMap Ipv4.octets ≠ [] := by
        intro empty
        simp [empty] at length
      rw [payload, Format.decode_addresses filled (by omega), addressesOf_octets]
  | text use value =>
    cases known
    simp [Format.decode, payload, Octets.text?_ofText]
  | seconds use secs =>
    cases known
    simp only [Format.decode, payload, exactly_of_length (Octets.length_ofNat 4 _)]
    exact congrArg (fun n => Except.ok (Opt.seconds use n)) (Octets.uint32_ofNat secs)
  | messageType value =>
    cases known
    exact absurd rfl type
  | parameterRequestList codes =>
    cases known
    rfl
  | maximumMessageSize size =>
    cases known
    simp only [Format.decode, payload, exactly_of_length (Octets.length_ofNat 2 _)]
    exact congrArg (fun n => Except.ok (Opt.maximumMessageSize n)) (Octets.uint16_ofNat size)
  | clientIdentifier kind id =>
    cases known
    cases id with
    | nil => cases shaped
    | cons b id => rfl
  | raw code data => cases known

/-- The options that keep everything on the wire: those of a known format, unless they are a message
type built as unknown where it is named, and raw ones whose code has no format, or has that of a
text that their octets are not. -/
def Opt.Plain : Opt → Prop
  | .messageType type => ∀ n, 1 ≤ n → n ≤ 18 → type ≠ .unknown n
  | .raw code data =>
    ∀ f, Format.ofCode? code = some f → (∃ use, f = .text use) ∧ data.text? = none
  | _ => True

/-- A format leaves octets as they are exactly if it is for texts and they are none. -/
theorem Format.decode_eq_raw_iff {f : Format} {data : Octets} {code : UInt8} {left : Octets} :
    f.decode data = .ok (.raw code left) ↔
      code = f.code ∧ left = data ∧ (∃ use, f = .text use) ∧ data.text? = none := by
  constructor
  · intro h
    obtain ⟨rfl, -, same | ⟨text, ill, same⟩⟩ := decode_sound h
    · cases same
    · cases same
      exact ⟨rfl, rfl, text, ill⟩
  · rintro ⟨rfl, rfl, ⟨use, rfl⟩, ill⟩
    simp only [decode, ill]

/-- Every octet is decoded as the message type that it stands for. -/
theorem Format.decode_messageType (octet : UInt8) :
    Format.messageType.decode [octet] = .ok (.messageType (MessageType.ofOctet octet)) := by
  have read : Format.messageType.decode [octet] =
      .ok (.messageType (MessageType.ofOctet (UInt8.ofNat (Octets.toNat [octet])))) := rfl
  rw [Octets.toNat_singleton, UInt8.ofNat_toNat] at read
  exact read

/-- The options that the known formats read back as they were are the plain ones. -/
theorem Opt.decodeKnown_payload_iff {o : Opt} (shaped : o.defect? = none) :
    decodeKnown o.code o.payload = .ok o ↔ o.Plain := by
  cases o with
  | messageType value =>
    rw [Opt.code, payload, decodeKnown_code, Format.decode_messageType]
    simp [Plain, MessageType.ofOctet_toOctet_iff]
  | raw code data =>
    simp only [decodeKnown, Opt.code, payload, Plain]
    cases found : Format.ofCode? code with
    | none => simp
    | some f =>
      have same := Format.code_of_ofCode? found
      simp [Format.decode_eq_raw_iff, same]
  | _ =>
    refine iff_of_true ?_ trivial
    exact (decodeKnown_code _ _).trans (decode_payload rfl shaped nofun)

/-- The standard registry decodes as the known formats do, also the codes that have none. -/
theorem Registry.decode_standard (code : UInt8) (data : Octets) :
    standard.decode code data = decodeKnown code data := by
  simp only [decode, standard]
  cases found : Format.ofCode? code with
  | none => simp [decodeKnown, found]
  | some f =>
    simp only [Option.map_some]
    cases read : decodeKnown code data with
    | error fault => rfl
    | ok o => simp [(decodeKnown_sound read).1]

end Dhcp
