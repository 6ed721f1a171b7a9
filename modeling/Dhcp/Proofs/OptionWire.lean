import Dhcp.Proofs.Payload

/-!
# Options on the wire

Under each code, the standard registry takes payloads of certain lengths and refuses all others, and
nothing but the length decides. `PayloadFits` is the table of these lengths. What is taken is kept
whole: it is written again as the octets it was read from, also where it is kept raw for being no
text.

Writing an option of a known format asks for a shape, and the shapes that it refuses are those whose
payloads would be refused on the way back. So such an option is written exactly if its payload is
short enough and can be read. It is then read as it was, but for a message type that was built as
unknown though it has a name.

A raw option has no shape to be refused for, so only its length keeps it from being written, and it
is written under every code, also under one where its payload would be refused. These are the only
options that are written and cannot be read.

**The laws** (`decode_standard_exact`, `writeTo_typed`, `writeTo_readable`): the standard registry
takes exactly the payloads that fit and loses no octet of them; for known formats the refusals of
the writer are those of the reader; and of all that is written, the reader refuses the raw options
whose payloads do not fit under their codes, and nothing else.
-/

namespace Dhcp

/-! ## The lengths of payloads -/

/-- The lengths that a payload under a code may have. -/
def PayloadFits (code : UInt8) (length : Nat) : Prop :=
  if code ∈ [1, 28, 50, 51, 54, 58, 59, 108] then length = 4
  else if code = 57 then length = 2
  else if code = 53 then length = 1
  else if code ∈ [3, 6, 138] then 0 < length ∧ 4 ∣ length
  else if code = 61 then 2 ≤ length
  else True

/-- The lengths that the payload of a format may have. -/
def Format.Takes : Format → Nat → Prop
  | .address _, length => length = 4
  | .addresses _, length => 0 < length ∧ 4 ∣ length
  | .text _, _ => True
  | .seconds _, length => length = 4
  | .messageType, length => length = 1
  | .parameterRequestList, _ => True
  | .maximumMessageSize, length => length = 2
  | .clientIdentifier, length => 2 ≤ length

/-- A length fits a code with a format exactly if the format takes it. -/
theorem Format.payloadFits_code (f : Format) (length : Nat) :
    PayloadFits f.code length ↔ f.Takes length := by
  cases f with
  | address use => cases use <;> rfl
  | addresses use => cases use <;> rfl
  | text use => cases use <;> rfl
  | seconds use => cases use <;> rfl
  | messageType => rfl
  | parameterRequestList => rfl
  | maximumMessageSize => rfl
  | clientIdentifier => rfl

/-- The codes without a format are those that are not in the table. -/
theorem Format.unknown_iff {code : UInt8} :
    (∀ f : Format, f.code ≠ code) ↔
      code ∉ [1, 3, 6, 12, 15, 28, 50, 51, 53, 54, 55, 56, 57, 58, 59, 61, 108, 138] := by
  have table : [1, 3, 6, 12, 15, 28, 50, 51, 53, 54, 55, 56, 57, 58, 59, 61, 108, 138] =
      all.map Format.code := rfl
  rw [table, List.mem_map]
  simp only [mem_all, true_and, not_exists]

/-- Every length fits a code without a format. -/
theorem payloadFits_of_unknown {code : UInt8} (unknown : ∀ f : Format, f.code ≠ code)
    (length : Nat) : PayloadFits code length := by
  have apart := Format.unknown_iff.mp unknown
  simp only [List.mem_cons, not_or] at apart
  simp [PayloadFits, apart]

theorem Format.ofCode?_eq_none_iff {code : UInt8} :
    Format.ofCode? code = none ↔ ∀ f : Format, f.code ≠ code := by
  rw [Option.eq_none_iff_forall_ne_some]
  exact forall_congr' fun f => not_congr Format.ofCode?_eq_some_iff

/-! ## What is taken and what is refused -/

/-- A payload is taken, or its option is malformed. -/
def TakesOrRefuses (takes : Prop) (code : UInt8) (result : Except WireFault Opt) : Prop :=
  (takes ∧ ∃ o, result = .ok o) ∨
    (¬takes ∧ ∃ defect, result = .error (.malformedOption code defect))

/-- A decoder for a fixed length takes that length and refuses every other. -/
theorem takesOrRefuses_exactly (code : UInt8) (size : Nat) (data : Octets) (make : Octets → Opt) :
    TakesOrRefuses (data.length = size) code
      (exactly code size data >>= fun data => pure (make data)) := by
  by_cases whole : data.length = size
  · have taken : exactly code size data = .ok data := exactly_of_length whole
    exact .inl ⟨whole, make data, by rw [taken]; rfl⟩
  · have refused : exactly code size data = .error _ := if_neg whole
    exact .inr ⟨whole, _, by rw [refused]; rfl⟩

/-- A format decodes the lengths that it takes, and refuses the others. -/
theorem Format.takesOrRefuses_decode (f : Format) (data : Octets) :
    TakesOrRefuses (f.Takes data.length) f.code (f.decode data) := by
  cases f with
  | address use => exact takesOrRefuses_exactly ..
  | addresses use =>
    have broken : ¬(0 < data.length ∧ 4 ∣ data.length) ↔ data = [] ∨ data.length % 4 ≠ 0 := by
      rw [← List.length_eq_zero_iff]
      omega
    by_cases takes : 0 < data.length ∧ 4 ∣ data.length
    · exact .inl ⟨takes, _, if_neg (not_not.mpr takes ∘ broken.mpr)⟩
    · exact .inr ⟨takes, _, if_pos (broken.mp takes)⟩
  | text use =>
    cases text : data.text? with
    | some value => exact .inl ⟨trivial, .text use value, by simp only [decode, text]⟩
    | none => exact .inl ⟨trivial, .raw (Format.text use).code data, by simp only [decode, text]⟩
  | seconds use => exact takesOrRefuses_exactly ..
  | messageType => exact takesOrRefuses_exactly ..
  | parameterRequestList => exact .inl ⟨trivial, _, rfl⟩
  | maximumMessageSize => exact takesOrRefuses_exactly ..
  | clientIdentifier =>
    cases data with
    | nil => exact .inr ⟨Nat.not_succ_le_zero 1, _, rfl⟩
    | cons kind rest =>
      cases rest with
      | nil => exact .inr ⟨Nat.lt_irrefl 1, _, rfl⟩
      | cons b id => exact .inl ⟨Nat.le_add_left .., _, rfl⟩

/-- The known decoders decode the lengths that fit their codes, and refuse the others. -/
theorem takesOrRefuses_decodeKnown (code : UInt8) (data : Octets) :
    TakesOrRefuses (PayloadFits code data.length) code (decodeKnown code data) := by
  cases found : Format.ofCode? code with
  | none =>
    have fits := payloadFits_of_unknown (Format.ofCode?_eq_none_iff.mp found) data.length
    exact .inl ⟨fits, .raw code data, by simp only [decodeKnown, found]⟩
  | some f =>
    obtain rfl := Format.code_of_ofCode? found
    rw [decodeKnown_code, Format.payloadFits_code]
    exact f.takesOrRefuses_decode data

/-! ## What is kept raw -/

/-- Octets are no text exactly if they are the octets of none. -/
theorem Octets.text?_eq_none_iff {data : Octets} :
    data.text? = none ↔ ∀ text, Octets.ofText text ≠ data := by
  rw [Option.eq_none_iff_forall_ne_some]
  exact forall_congr' fun text => not_congr (text?_eq_some_iff.trans eq_comm)

/-- Texts stand under three codes. -/
theorem Format.exists_text_iff {code : UInt8} :
    (∃ use, (Format.text use).code = code) ↔ code ∈ [12, 15, 56] := by
  constructor
  · rintro ⟨use, rfl⟩
    cases use <;> decide
  · intro mem
    simp only [List.mem_cons, List.not_mem_nil, or_false] at mem
    rcases mem with rfl | rfl | rfl
    · exact ⟨.hostName, rfl⟩
    · exact ⟨.domainName, rfl⟩
    · exact ⟨.message, rfl⟩

/-- What is kept raw has a code without a format, or that of a text and is none. -/
theorem decodeKnown_raw_iff {code : UInt8} {data : Octets} {o : Opt}
    (made : decodeKnown code data = .ok o) :
    (∃ c d, o = .raw c d) ↔
      (∀ f : Format, f.code ≠ code) ∨ (∃ use, (Format.text use).code = code) ∧ data.text? = none := by
  cases found : Format.ofCode? code with
  | none =>
    simp only [decodeKnown, found] at made
    cases made
    exact iff_of_true ⟨code, data, rfl⟩ (.inl (Format.ofCode?_eq_none_iff.mp found))
  | some f =>
    obtain rfl := Format.code_of_ofCode? found
    rw [decodeKnown_code] at made
    constructor
    · rintro ⟨c, d, rfl⟩
      obtain ⟨-, -, ⟨use, rfl⟩, ill⟩ := Format.decode_eq_raw_iff.mp made
      exact .inr ⟨⟨use, rfl⟩, ill⟩
    · rintro (unknown | ⟨⟨use, same⟩, ill⟩)
      · exact absurd rfl (unknown f)
      · have text : f = .text use := by
          have back := Format.ofCode?_eq_some_iff.mpr same
          rw [found] at back
          exact Option.some.inj back
        subst text
        have raw := Format.decode_eq_raw_iff.mpr ⟨rfl, rfl, ⟨use, rfl⟩, ill⟩
        cases made.symm.trans raw
        exact ⟨_, _, rfl⟩

/-- Under every code, the standard registry takes exactly the payloads of a length that fits, and
finds the option malformed otherwise. What it takes carries the code, has exactly the payload that
it was read from, and is kept raw exactly if the code has no format, or has one for a text and the
payload is the encoding of none. -/
theorem decode_standard_exact (code : UInt8) (data : Octets) :
    ((∃ o, Registry.standard.decode code data = .ok o) ↔ PayloadFits code data.length) ∧
    (¬PayloadFits code data.length →
      ∃ defect, Registry.standard.decode code data = .error (.malformedOption code defect)) ∧
    ∀ o, Registry.standard.decode code data = .ok o →
      o.code = code ∧ o.payload = data ∧
        ((∃ c d, o = .raw c d) ↔
          code ∉ [1, 3, 6, 12, 15, 28, 50, 51, 53, 54, 55, 56, 57, 58, 59, 61, 108, 138] ∨
            code ∈ [12, 15, 56] ∧ ∀ text, Octets.ofText text ≠ data) := by
  rw [Registry.decode_standard]
  refine ⟨?_, ?_, fun o made => ?_⟩
  · rcases takesOrRefuses_decodeKnown code data with ⟨fits, taken⟩ | ⟨misfit, defect, refused⟩
    · exact iff_of_true taken fits
    · refine iff_of_false ?_ misfit
      rintro ⟨o, made⟩
      cases made.symm.trans refused
  · intro misfit
    rcases takesOrRefuses_decodeKnown code data with ⟨fits, -⟩ | ⟨-, refused⟩
    · exact absurd fits misfit
    · exact refused
  · obtain ⟨same, payload, -⟩ := decodeKnown_sound made
    refine ⟨same, payload, ?_⟩
    rw [decodeKnown_raw_iff made, Format.unknown_iff, Format.exists_text_iff,
      Octets.text?_eq_none_iff]

/-- A payload that fits under one code and not under another, and a text that is none. -/
theorem decode_standard_exact_misfit :
    (∃ defect, Registry.standard.decode 51 [0, 60] = .error (.malformedOption 51 defect)) ∧
      (∃ o, Registry.standard.decode 57 [0, 60] = .ok o ∧ o.payload = [0, 60]) ∧
      ∃ o, Registry.standard.decode 12 [104, 255] = .ok o ∧ o.payload = [104, 255] := by
  obtain ⟨-, refused, -⟩ := decode_standard_exact 51 [0, 60]
  obtain ⟨size, -, sized⟩ := decode_standard_exact 57 [0, 60]
  obtain ⟨name, -, named⟩ := decode_standard_exact 12 [104, 255]
  obtain ⟨o, made⟩ := size.mpr rfl
  obtain ⟨p, kept⟩ := name.mpr trivial
  exact ⟨refused nofun, ⟨o, made, (sized o made).2.1⟩, p, kept, (named p kept).2.1⟩

/-! ## Writing what can be read -/

namespace Opt

/-- An option is written behind a buffer, or refused for its shape or its length, and then the
buffer is as it was. -/
theorem writeTo_cases (o : Opt) (buffer : Octets) :
    (o.defect? = none ∧ o.payload.length ≤ 255 ∧
      o.writeTo buffer =
        (.ok (), buffer ++ o.code :: UInt8.ofNat o.payload.length :: o.payload)) ∨
    (o.defect? = none ∧ 255 < o.payload.length ∧
      o.writeTo buffer = (.error (.optionTooLong o.code o.payload.length), buffer)) ∨
    ∃ defect, o.defect? = some defect ∧
      o.writeTo buffer = (.error (.malformedOption o.code defect), buffer) := by
  cases shape : o.defect? with
  | none =>
    rcases Nat.lt_or_ge 255 o.payload.length with long | fits
    · have refused := (encode_eq_error_iff shape).mpr ⟨long, rfl⟩
      exact .inr (.inl ⟨rfl, long, by simp only [writeTo, refused]⟩)
    · have written := encode_eq_ok_iff.mpr ⟨shape, fits, rfl⟩
      exact .inl ⟨rfl, fits, by simp only [writeTo, written]⟩
  | some defect =>
    have refused : o.encode = .error (.malformedOption o.code defect) := by
      rw [encode, shape]
    exact .inr (.inr ⟨defect, rfl, by simp only [writeTo, refused]⟩)

/-- What is left of an option of a known format that is written and read again. -/
def normal : Opt → Opt
  | .messageType type => .messageType (MessageType.ofOctet type.toOctet)
  | o => o

/-- Only a type that is called unknown and has a name is not in normal form. -/
theorem normal_eq_self {o : Opt} (apart : ∀ n, 1 ≤ n → n ≤ 18 → o ≠ .messageType (.unknown n)) :
    o.normal = o := by
  cases o with
  | messageType type =>
    have same : MessageType.ofOctet type.toOctet = type :=
      MessageType.ofOctet_toOctet_iff.mpr fun n low high unknown =>
        apart n low high (congrArg messageType unknown)
    rw [normal, same]
  | _ => rfl

/-- An option of a known format that has a shape is read in its normal form. -/
theorem decodeKnown_of_shaped {o : Opt} (typed : ∀ code data, o ≠ .raw code data)
    (shaped : o.defect? = none) : decodeKnown o.code o.payload = .ok o.normal := by
  cases o with
  | messageType type => exact (decodeKnown_code ..).trans (Format.decode_messageType _)
  | raw code data => exact absurd rfl (typed code data)
  | _ => exact (decodeKnown_code ..).trans (decode_payload rfl shaped nofun)

/-- What has no shape to be written in has a payload that is refused. -/
theorem decodeKnown_of_defect {o : Opt} {defect : Defect} (bad : o.defect? = some defect) :
    ∃ fault, decodeKnown o.code o.payload = .error fault := by
  rcases defect?_eq_some_iff.mp bad with ⟨⟨use, rfl⟩, -⟩ | ⟨⟨kind, rfl⟩, -⟩
  · exact ⟨_, decodeKnown_code (.addresses use) []⟩
  · exact ⟨_, decodeKnown_code .clientIdentifier [kind]⟩

end Opt

/-- The types with low numbers have names. -/
theorem MessageType.ofOctet_mem_named {n : UInt8} (low : 1 ≤ n) (high : n ≤ 18) :
    ofOctet n ∈ named := by
  obtain ⟨type, mem, octet⟩ := mem_named_iff.mpr ⟨low, high⟩
  unfold ofOctet
  cases found : named.find? fun t => t.toOctet = n with
  | none => exact absurd octet (by simpa using List.find?_eq_none.mp found type mem)
  | some t => exact List.mem_of_find?_eq_some found

/-- An option of a known format is written exactly if its payload has at most 255 octets and can be
read. Then the buffer grows by the code, the length and the payload, and the option is read as it
was, but for a message type that is built as unknown though it has a name, which is read by its
name. Otherwise the buffer is as it was, and the option is refused for an empty list of addresses or
an empty identifier, or else for the length that its payload has. -/
theorem writeTo_typed (o : Opt) (typed : ∀ code data, o ≠ .raw code data) (buffer : Octets) :
    ((o.writeTo buffer).1 = .ok () ↔
      o.payload.length ≤ 255 ∧ ∃ p, Registry.standard.decode o.code o.payload = .ok p) ∧
    ((o.writeTo buffer).1 = .ok () →
      (∃ length : UInt8, length.toNat = o.payload.length ∧
        (o.writeTo buffer).2 = buffer ++ o.code :: length :: o.payload) ∧
      ((∀ n, 1 ≤ n → n ≤ 18 → o ≠ .messageType (.unknown n)) →
        Registry.standard.decode o.code o.payload = .ok o) ∧
      ∀ n, 1 ≤ n → n ≤ 18 → o = .messageType (.unknown n) →
        ∃ type ∈ MessageType.named, type.toOctet = n ∧
          Registry.standard.decode o.code o.payload = .ok (.messageType type)) ∧
    ∀ fault, (o.writeTo buffer).1 = .error fault →
      (o.writeTo buffer).2 = buffer ∧
      ((∃ use, o = .addresses use []) → fault = .malformedOption o.code .emptyAddressList) ∧
      ((∃ kind, o = .clientIdentifier kind []) →
        fault = .malformedOption o.code .emptyIdentifier) ∧
      ((∀ use, o ≠ .addresses use []) → (∀ kind, o ≠ .clientIdentifier kind []) →
        fault = .optionTooLong o.code o.payload.length) := by
  rw [Registry.decode_standard]
  rcases o.writeTo_cases buffer with
    ⟨shaped, fits, result⟩ | ⟨shaped, long, result⟩ | ⟨defect, bad, result⟩
  · have read := Opt.decodeKnown_of_shaped typed shaped
    rw [result]
    refine ⟨iff_of_true rfl ⟨fits, _, read⟩, fun _ => ⟨?_, ?_, ?_⟩, nofun⟩
    · exact ⟨_, UInt8.toNat_ofNat_of_lt' (Nat.lt_succ_of_le fits), rfl⟩
    · intro apart
      rw [read, Opt.normal_eq_self apart]
    · rintro n low high rfl
      exact ⟨_, MessageType.ofOctet_mem_named low high, MessageType.toOctet_ofOctet n, read⟩
  · rw [result]
    refine ⟨iff_of_false nofun fun h => Nat.not_le_of_lt long h.1, nofun, ?_⟩
    rintro fault ⟨⟩
    refine ⟨rfl, ?_, ?_, fun _ _ => rfl⟩
    · rintro ⟨use, rfl⟩
      cases shaped
    · rintro ⟨kind, rfl⟩
      cases shaped
  · obtain ⟨cause, refused⟩ := Opt.decodeKnown_of_defect bad
    rw [result, refused]
    refine ⟨iff_of_false nofun ?_, nofun, ?_⟩
    · rintro ⟨-, p, ⟨⟩⟩
    rintro fault ⟨⟩
    rcases Opt.defect?_eq_some_iff.mp bad with ⟨⟨use, rfl⟩, rfl⟩ | ⟨⟨kind, rfl⟩, rfl⟩
    · exact ⟨rfl, fun _ => rfl, nofun, fun filled => absurd rfl (filled use)⟩
    · exact ⟨rfl, nofun, fun _ => rfl, fun _ filled => absurd rfl (filled kind)⟩

/-- A message type that is built as unknown though it is that of a request, written behind two
octets, and a list of addresses that is not. -/
theorem writeTo_typed_disguised :
    ((Opt.messageType (.unknown 3)).writeTo [7, 7]).1 = .ok () ∧
      (∃ type, type.toOctet = 3 ∧ Registry.standard.decode 53 [3] = .ok (.messageType type)) ∧
      ((Opt.addresses .router []).writeTo [7, 7]).2 = [7, 7] := by
  obtain ⟨written, reads, -⟩ := writeTo_typed (.messageType (.unknown 3)) nofun [7, 7]
  have done := written.mpr ⟨by decide, .messageType .request, by decide⟩
  obtain ⟨-, -, named⟩ := reads done
  obtain ⟨type, -, octet, back⟩ := named 3 (by decide) (by decide) rfl
  obtain ⟨-, -, refused⟩ := writeTo_typed (.addresses .router []) nofun [7, 7]
  exact ⟨done, ⟨type, octet, back⟩, (refused _ rfl).1⟩

/-! ## Writing what cannot be read -/

/-- The payload of an option of a known format that has a shape fits under its code. -/
theorem Opt.payloadFits_of_shaped {o : Opt} (typed : ∀ code data, o ≠ .raw code data)
    (shaped : o.defect? = none) : PayloadFits o.code o.payload.length := by
  rcases takesOrRefuses_decodeKnown o.code o.payload with ⟨fits, -⟩ | ⟨-, defect, refused⟩
  · exact fits
  · cases (decodeKnown_of_shaped typed shaped).symm.trans refused

/-- The payload of an option that has a shape fits under its code exactly if it does so where the
option is raw. -/
theorem Opt.payloadFits_iff {o : Opt} (shaped : o.defect? = none) :
    PayloadFits o.code o.payload.length ↔
      ∀ code data, o = .raw code data → PayloadFits code data.length := by
  by_cases raw : ∃ code data, o = .raw code data
  · obtain ⟨code, data, rfl⟩ := raw
    constructor
    · rintro fits _ _ ⟨⟩
      exact fits
    · intro fits
      exact fits code data rfl
  · have typed : ∀ code data, o ≠ .raw code data := fun code data same => raw ⟨code, data, same⟩
    refine iff_of_true (payloadFits_of_shaped typed shaped) ?_
    intro code data same
    exact absurd same (typed code data)

/-- A raw option is written under every code, as long as it is not too long. -/
theorem Opt.writeTo_raw_iff (code : UInt8) (data buffer : Octets) :
    ((raw code data).writeTo buffer).1 = .ok () ↔ data.length ≤ 255 := by
  rcases (raw code data).writeTo_cases buffer with
    ⟨-, fits, result⟩ | ⟨-, long, result⟩ | ⟨defect, bad, -⟩
  · rw [result]
    exact iff_of_true rfl fits
  · rw [result]
    exact iff_of_false nofun (Nat.not_le_of_lt long)
  · cases bad

/-- Whatever is written behind a buffer is a code, a length and a payload of that length. The
standard registry reads this payload under this code exactly if the option was not raw or its
payload fits under its code; what it reads has the code and the payload again, and otherwise it
finds the option malformed. Only its length keeps a raw option from being written. -/
theorem writeTo_readable (o : Opt) (buffer : Octets) :
    (∀ code data, o = .raw code data → ((o.writeTo buffer).1 = .ok () ↔ data.length ≤ 255)) ∧
    ((o.writeTo buffer).1 = .ok () →
      ∃ (length : UInt8) (payload : Octets), length.toNat = payload.length ∧
        (o.writeTo buffer).2 = buffer ++ o.code :: length :: payload ∧
        ((∃ p, Registry.standard.decode o.code payload = .ok p) ↔
          ∀ code data, o = .raw code data → PayloadFits code data.length) ∧
        (∀ p, Registry.standard.decode o.code payload = .ok p →
          p.code = o.code ∧ p.payload = payload) ∧
        ∀ fault, Registry.standard.decode o.code payload = .error fault →
          ∃ defect, fault = .malformedOption o.code defect) := by
  constructor
  · rintro code data rfl
    exact Opt.writeTo_raw_iff code data buffer
  intro written
  rcases o.writeTo_cases buffer with ⟨shaped, short, result⟩ | ⟨-, -, result⟩ | ⟨_, -, result⟩
  · refine ⟨_, o.payload, UInt8.toNat_ofNat_of_lt' (Nat.lt_succ_of_le short), by rw [result], ?_⟩
    rw [Registry.decode_standard, ← Opt.payloadFits_iff shaped]
    refine ⟨?_, ?_, ?_⟩
    · rcases takesOrRefuses_decodeKnown o.code o.payload with
        ⟨fits, taken⟩ | ⟨misfit, defect, refused⟩
      · exact iff_of_true taken fits
      · rw [refused]
        exact iff_of_false nofun misfit
    · intro p made
      obtain ⟨same, payload, -⟩ := decodeKnown_sound made
      exact ⟨same, payload⟩
    · intro fault refused
      rcases takesOrRefuses_decodeKnown o.code o.payload with
        ⟨-, p, taken⟩ | ⟨-, defect, malformed⟩
      · cases taken.symm.trans refused
      · cases malformed.symm.trans refused
        exact ⟨defect, rfl⟩
  · rw [result] at written
    cases written
  · rw [result] at written
    cases written

/-- Four raw octets under the code of a subnet mask, which are read as one, and none, which are
written all the same. -/
theorem writeTo_readable_mask :
    ((Opt.raw 1 [255, 255, 0, 0]).writeTo [7]).1 = .ok () ∧
      (∃ p, Registry.standard.decode 1 [255, 255, 0, 0] = .ok p) ∧
      ((Opt.raw 1 []).writeTo [7]).1 = .ok () ∧
      ¬∃ p, Registry.standard.decode 1 [] = .ok p := by
  obtain ⟨whole, reads⟩ := writeTo_readable (.raw 1 [255, 255, 0, 0]) [7]
  obtain ⟨empty, misses⟩ := writeTo_readable (.raw 1 []) [7]
  have written := (whole _ _ rfl).mpr (by decide)
  have written' := (empty _ _ rfl).mpr (by decide)
  obtain ⟨_, payload, -, octets, read, -⟩ := reads written
  obtain ⟨_, payload', -, octets', read', -⟩ := misses written'
  cases octets
  cases octets'
  refine ⟨written, read.mpr ?_, written', fun back => ?_⟩
  · rintro _ _ ⟨⟩
    exact rfl
  · cases read'.mp back _ _ rfl

/-- Not all that is written can be read: a raw option under the code of a subnet mask is written
without a payload, which the standard registry refuses for its size. -/
theorem written_unreadable :
    (Opt.raw 1 []).writeTo [] = (.ok (), [1, 0]) ∧
      Registry.standard.decode 1 [] = .error (.malformedOption 1 (.wrongSize 4 0)) := by
  decide

end Dhcp
