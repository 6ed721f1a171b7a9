import Dhcp.Proofs.MessageGrammar
import Dhcp.Proofs.Payload
import Mathlib.Algebra.Ring.Nat

/-!
# The normal form of a message

A message that is written and read again is its normal form: the header keeps what fits its slots,
and each option becomes what the registry makes of its payload. Since the fields of a message can be
set freely, this says of every message what the other side of the wire sees of it.

**The laws** (`encode_eq_ok_iff`, `encode_eq_error_iff`, `decodeWith_encode`): a message is written
exactly if each of its options is, as its header, the triples of its options in ascending order of
their codes and the octet 255, and is refused for the first option that is not; and what was written
is read as the normal form, or fails with the first thing that has none.
-/

namespace Dhcp

/-! ## Options as triples -/

/-- The triple that an option is written as. -/
def Opt.toTriple (o : Opt) : Triple := ⟨o.code, o.payload⟩

/-- An option that can be written. -/
structure Opt.Writable (o : Opt) : Prop where
  shaped : o.defect? = none
  fits : o.payload.length ≤ 255

/-- An option that can be written is written as its triple. -/
theorem Opt.encode_of_writable {o : Opt} (writable : o.Writable) :
    o.encode = .ok o.toTriple.octets :=
  encode_eq_ok_iff.mpr ⟨writable.shaped, writable.fits, rfl⟩

namespace Message

/-- Options are written exactly if each of them can be, as their triples in order. -/
theorem encodeOptions_eq_ok_iff {os : List Opt} {area : Octets} :
    encodeOptions os = .ok area ↔
      (∀ o ∈ os, o.Writable) ∧ area = os.flatMap fun o => o.toTriple.octets := by
  induction os generalizing area with
  | nil => simp [encodeOptions, eq_comm]
  | cons o os ih =>
    constructor
    · intro written
      unfold encodeOptions at written
      split at written
      · cases written
      · next triple first =>
        split at written
        · cases written
        · next rest behind =>
          cases written
          obtain ⟨shaped, fits, rfl⟩ := Opt.encode_eq_ok_iff.mp first
          obtain ⟨writable, rfl⟩ := ih.mp behind
          exact ⟨List.forall_mem_cons.mpr ⟨⟨shaped, fits⟩, writable⟩, rfl⟩
    · rintro ⟨writable, rfl⟩
      obtain ⟨first, behind⟩ := List.forall_mem_cons.mp writable
      simp only [encodeOptions, Opt.encode_of_writable first, ih.mpr ⟨behind, rfl⟩,
        List.flatMap_cons]

/-- Options are not written exactly if one of them is refused, and then for the first of these. -/
theorem encodeOptions_eq_error_iff {os : List Opt} {fault : WireFault} :
    encodeOptions os = .error fault ↔ ∃ before o after,
      os = before ++ o :: after ∧ (∀ p ∈ before, p.Writable) ∧ o.encode = .error fault := by
  induction os with
  | nil => simp [encodeOptions]
  | cons o os ih =>
    constructor
    · intro refused
      unfold encodeOptions at refused
      split at refused
      · next first =>
        cases refused
        exact ⟨[], o, os, rfl, nofun, first⟩
      · next triple first =>
        split at refused
        · next behind =>
          cases refused
          obtain ⟨shaped, fits, -⟩ := Opt.encode_eq_ok_iff.mp first
          obtain ⟨before, p, after, rfl, writable, refused⟩ := ih.mp behind
          exact ⟨o :: before, p, after, rfl, List.forall_mem_cons.mpr ⟨⟨shaped, fits⟩, writable⟩,
            refused⟩
        · cases refused
    · rintro ⟨before, p, after, split, writable, refused⟩
      cases before with
      | nil =>
        cases split
        simp only [encodeOptions, refused]
      | cons q before =>
        cases split
        obtain ⟨first, writable⟩ := List.forall_mem_cons.mp writable
        have behind := ih.mpr ⟨before, p, after, rfl, writable, refused⟩
        simp only [encodeOptions, Opt.encode_of_writable first, behind]

/-- The octets of a message whose options can be written. -/
def octets (m : Message) : Octets :=
  m.toHeader.octets ++ ((m.options.toList.flatMap fun o => o.toTriple.octets) ++ [255])

/-- A message is written exactly if each of its options is. -/
theorem encode_eq_ok_iff {m : Message} {datagram : Octets} :
    m.encode = .ok datagram ↔
      (∀ o ∈ m.options.toList, o.Writable) ∧ datagram = m.octets := by
  unfold encode
  constructor
  · intro written
    split at written
    · cases written
    · next area options =>
      cases written
      obtain ⟨writable, rfl⟩ := encodeOptions_eq_ok_iff.mp options
      exact ⟨writable, List.append_assoc ..⟩
  · rintro ⟨writable, rfl⟩
    simp only [encodeOptions_eq_ok_iff.mpr ⟨writable, rfl⟩, octets, List.append_assoc]

/-- A message is not written exactly if one of its options is refused, and then for the one with the
lowest code. -/
theorem encode_eq_error_iff {m : Message} {fault : WireFault} :
    m.encode = .error fault ↔ ∃ before o after, m.options.toList = before ++ o :: after ∧
      (∀ p ∈ before, p.Writable) ∧ o.encode = .error fault := by
  rw [← encodeOptions_eq_error_iff]
  unfold encode
  cases encodeOptions m.options.toList with
  | error cause => simp only [Except.error.injEq]
  | ok area => simp only [reduceCtorEq]

/-! ## The length of a message -/

/-- A message takes the octets of its header, of the triples of its options and of the end. -/
theorem length_octets_eq (m : Message) :
    m.octets.length = 241 + (m.options.toList.map fun o => 2 + o.payload.length).sum := by
  have triples : (m.options.toList.flatMap fun o => o.toTriple.octets).length =
      (m.options.toList.map fun o => 2 + o.payload.length).sum := by
    rw [List.length_flatMap]
    exact congrArg List.sum (List.map_congr_left fun o _ => o.toTriple.length_octets)
  have header : m.toHeader.octets.length = 240 := m.toHeader.length_octets
  simp only [octets, List.length_append, List.length_singleton, header, triples]
  omega

/-- An option that can be written takes its code, its length and at most 255 octets. -/
theorem sum_lengths_le {os : List Opt} (writable : ∀ o ∈ os, o.Writable) :
    (os.map fun o => 2 + o.payload.length).sum ≤ 257 * os.length := by
  induction os with
  | nil => exact Nat.le_refl 0
  | cons o os ih =>
    obtain ⟨first, writable⟩ := List.forall_mem_cons.mp writable
    have fits := first.fits
    have behind := ih writable
    simp only [List.map_cons, List.sum_cons, List.length_cons]
    omega

/-- The length of a message is bounded by the number of its options. -/
theorem length_octets_le {m : Message} (writable : ∀ o ∈ m.options.toList, o.Writable) :
    m.octets.length ≤ 241 + 257 * m.options.toList.length := by
  rw [length_octets_eq]
  exact Nat.add_le_add_left (sum_lengths_le writable) 241

/-! ## The area of a message -/

/-- A message none of whose options has a code that frames the option area. -/
def Unframed (m : Message) : Prop := ∀ o ∈ m.options.toList, o.code ≠ 0 ∧ o.code ≠ 255

/-- Options that can be written are items of an area. -/
theorem exists_items_of_options {os : List Opt} (writable : ∀ o ∈ os, o.Writable)
    (unframed : ∀ o ∈ os, o.code ≠ 0 ∧ o.code ≠ 255) :
    ∃ items, Item.write items = (os.flatMap fun o => o.toTriple.octets) ∧
      Item.triples items = os.map Opt.toTriple := by
  induction os with
  | nil => exact ⟨[], rfl, rfl⟩
  | cons o os ih =>
    obtain ⟨first, writable⟩ := List.forall_mem_cons.mp writable
    obtain ⟨⟨notPad, notEnd⟩, unframed⟩ := List.forall_mem_cons.mp unframed
    obtain ⟨items, write, triples⟩ := ih writable unframed
    refine ⟨.triple o.toTriple ⟨notPad, notEnd, first.fits⟩ :: items, ?_, ?_⟩
    · rw [Item.write_cons, write, List.flatMap_cons, Item.octets]
    · rw [Item.triples_triple, triples, List.map_cons]

/-- Under each code a message has one option, so the last triple is its triple. -/
theorem lastUnder_map_toTriple (m : Message) (code : UInt8) :
    Area.lastUnder code (m.options.toList.map Opt.toTriple) =
      (m.option? code).map Opt.toTriple := by
  have once : m.options.toList.reverse.find? (fun o => o.code = code) = m.option? code := by
    ext o
    rw [find?_reverse_key_eq_some_iff m.options.distinct, ← m.options.distinct.find?_eq_some_iff]
    rfl
  rw [Area.lastUnder, ← List.map_reverse, List.find?_map, ← once]
  rfl

/-! ## Reading what was written -/

variable {m : Message}

theorem size_le_octets (m : Message) : Header.size ≤ m.octets.length := by
  rw [octets, List.length_append, Header.length_octets]
  exact Nat.le_add_right ..

/-- The header that is read is the normal form of the one that was written. -/
theorem ofOctets_octets (m : Message) : Header.ofOctets m.octets = m.toHeader.normal :=
  Header.ofOctets_octets _ _

theorem hlen_octets (m : Message) : m.octets.getD 2 0 = m.hlen := by
  rw [← Header.hlen_ofOctets, ofOctets_octets, Header.normal]

/-- Behind the header stand the triples of the options, and an end. -/
theorem drop_octets (m : Message) :
    m.octets.drop Header.size =
      (m.options.toList.flatMap fun o => o.toTriple.octets) ++ [255] := by
  rw [octets, ← Header.length_octets m.toHeader, List.drop_left]

/-- The items of a message that was written are the triples of its options. -/
theorem exists_cut_octets (writable : ∀ o ∈ m.options.toList, o.Writable) (unframed : m.Unframed) :
    ∃ items, Cut m.octets items [255] ∧ Item.triples items = m.options.toList.map Opt.toTriple := by
  obtain ⟨items, write, triples⟩ := exists_items_of_options writable unframed
  exact ⟨items, by rw [Cut, drop_octets, write], triples⟩

/-- A message whose options the registry makes something of is read as its normal form. -/
theorem decodeWith_octets (r : Registry) (writable : ∀ o ∈ m.options.toList, o.Writable)
    (unframed : m.Unframed) (fits : m.hlen.toNat ≤ hardwareWidth)
    (accepted : ∀ o ∈ m.options.toList, r.Accepts o.toTriple) :
    ∃ n, decodeWith r m.octets = .ok n ∧ n.toHeader = m.toHeader.normal ∧
      ∀ code, n.option? code =
        (m.option? code).bind fun o => (r.decode code o.payload).toOption := by
  obtain ⟨items, cut, triples⟩ := exists_cut_octets writable unframed
  have taken : ∀ t ∈ Item.triples items, r.Accepts t := by
    rw [triples]
    exact List.forall_mem_map.mpr accepted
  obtain ⟨n, decoded, header, found⟩ := decodeWith_of_ends (size_le_octets m)
    (hlen_octets m ▸ fits) cut (.marker []) taken
  refine ⟨n, decoded, header.trans (ofOctets_octets m), fun code => ?_⟩
  rw [found, triples, lastUnder_map_toTriple, Option.bind_map]
  cases here : m.option? code with
  | none => rfl
  | some o => rw [← Options.code_of_get? here]; rfl

/-- Where what was written is read at all, the registry makes something of every option. -/
theorem accepts_of_decodeWith_octets {r : Registry}
    (writable : ∀ o ∈ m.options.toList, o.Writable) (unframed : m.Unframed)
    (fits : m.hlen.toNat ≤ hardwareWidth) {n : Message} (decoded : decodeWith r m.octets = .ok n) :
    ∀ o ∈ m.options.toList, r.Accepts o.toTriple := by
  obtain ⟨items, cut, triples⟩ := exists_cut_octets writable unframed
  have taken := accepts_of_decodeWith (size_le_octets m) (hlen_octets m ▸ fits) cut decoded
  rw [triples] at taken
  exact List.forall_mem_map.mp taken

/-- A message that has an option of which the registry makes nothing fails with the first such
option. -/
theorem decodeWith_octets_refused (r : Registry) (writable : ∀ o ∈ m.options.toList, o.Writable)
    (unframed : m.Unframed) (fits : m.hlen.toNat ≤ hardwareWidth)
    {before after : List Opt} {o : Opt} (split : m.options.toList = before ++ o :: after)
    (accepted : ∀ p ∈ before, r.Accepts p.toTriple) {fault : WireFault}
    (refused : r.decode o.code o.payload = .error fault) :
    decodeWith r m.octets = .error fault := by
  rw [split] at writable
  have unframed : ∀ p ∈ before ++ o :: after, p.code ≠ 0 ∧ p.code ≠ 255 := split ▸ unframed
  obtain ⟨writable, behind⟩ := List.forall_mem_append.mp writable
  obtain ⟨unframed, notFraming⟩ := List.forall_mem_append.mp unframed
  obtain ⟨items, write, triples⟩ := exists_items_of_options writable unframed
  have framed : o.toTriple.Framed :=
    ⟨(notFraming o List.mem_cons_self).1, (notFraming o List.mem_cons_self).2,
      (behind o List.mem_cons_self).fits⟩
  have cut : Cut m.octets items
      (o.toTriple.octets ++ ((after.flatMap fun o => o.toTriple.octets) ++ [255])) := by
    rw [Cut, drop_octets, split, List.flatMap_append, List.flatMap_cons, write]
    simp only [List.append_assoc]
  have taken : ∀ t ∈ Item.triples items, r.Accepts t := by
    rw [triples]
    exact List.forall_mem_map.mpr accepted
  exact decodeWith_of_fails (size_le_octets m) (hlen_octets m ▸ fits) cut
    (.refused framed refused) taken

/-- A message with a normal header whose options the registry keeps is read as it was. -/
theorem decodeWith_octets_self (r : Registry) (writable : ∀ o ∈ m.options.toList, o.Writable)
    (unframed : m.Unframed) (fits : m.hlen.toNat ≤ hardwareWidth)
    (plain : m.toHeader.Plain)
    (kept : ∀ o ∈ m.options.toList, r.decode o.code o.payload = .ok o) :
    decodeWith r m.octets = .ok m := by
  obtain ⟨n, decoded, header, found⟩ := decodeWith_octets r writable unframed fits
    fun o mem => ⟨o, kept o mem⟩
  have same : n = m := by
    apply eq_of_option? (header.trans ((Header.normal_eq_self_iff fits).mpr plain))
    intro code
    rw [found]
    cases here : m.option? code with
    | none => rfl
    | some o =>
      have mem := List.mem_of_find?_eq_some here
      rw [Option.bind_some, ← Options.code_of_get? here, kept o mem]
      rfl
  rw [decoded, same]

/-- With the standard registry, what comes back as it was is a plain header with plain options. -/
theorem decode_octets_eq_self_iff (writable : ∀ o ∈ m.options.toList, o.Writable)
    (unframed : m.Unframed) (fits : m.hlen.toNat ≤ hardwareWidth) :
    decodeWith .standard m.octets = .ok m ↔
      m.toHeader.Plain ∧ ∀ o ∈ m.options.toList, o.Plain := by
  have plain_iff (o : Opt) (mem : o ∈ m.options.toList) :
      o.Plain ↔ Registry.standard.decode o.code o.payload = .ok o := by
    rw [Registry.decode_standard, Opt.decodeKnown_payload_iff (writable o mem).shaped]
  constructor
  · intro decoded
    have accepted := accepts_of_decodeWith_octets writable unframed fits decoded
    obtain ⟨n, decoded', header, found⟩ :=
      decodeWith_octets .standard writable unframed fits accepted
    cases decoded.symm.trans decoded'
    refine ⟨(Header.normal_eq_self_iff fits).mp header.symm, fun o mem => (plain_iff o mem).mpr ?_⟩
    obtain ⟨p, made⟩ := accepted o mem
    have here : m.option? o.code = some o := Options.mem_toList_iff.mp mem
    have back := found o.code
    rw [here, Option.bind_some, show Registry.standard.decode o.code o.payload = .ok p from made]
      at back
    cases back
    exact made
  · rintro ⟨header, plain⟩
    exact decodeWith_octets_self .standard writable unframed fits header fun o mem =>
      (plain_iff o mem).mp (plain o mem)

/-- What was written is read as the normal form of the message, for every message whose options have
no framing code and for every registry: a hardware length beyond its slot fails, then the option
with the lowest code of which the registry makes nothing, and otherwise the header is in normal form
and each option is what the registry makes of its payload. With the standard registry a message
comes back as it was exactly if its operation code is not built as unknown where it is known, its
hardware length tells the length of its hardware address and that fits its slot, its names fit their
slots and do not end in a zero octet, and its options are plain. -/
theorem decodeWith_encode (r : Registry) {m : Message}
    (unframed : ∀ o ∈ m.options.toList, o.code ≠ 0 ∧ o.code ≠ 255) {datagram : Octets}
    (written : m.encode = .ok datagram) :
    (16 < m.hlen.toNat → decodeWith r datagram = .error (.invalidHardwareLength m.hlen)) ∧
    (m.hlen.toNat ≤ 16 →
      (∀ o ∈ m.options.toList, ∀ fault, r.decode o.code o.payload = .error fault →
        (∀ p ∈ m.options.toList, p.code < o.code → ∃ q, r.decode p.code p.payload = .ok q) →
          decodeWith r datagram = .error fault) ∧
      ((∀ o ∈ m.options.toList, ∃ p, r.decode o.code o.payload = .ok p) →
        ∃ n, decodeWith r datagram = .ok n ∧
          n.toHeader = { m.toHeader with
            op := OpCode.ofOctet m.op.toOctet
            chaddr := (m.chaddr.fit 16).take m.hlen.toNat
            sname := Octets.trim (m.sname.take 64)
            file := Octets.trim (m.file.take 128) } ∧
          ∀ code, n.option? code =
            (m.option? code).bind fun o => (r.decode code o.payload).toOption)) ∧
    (decodeWith .standard datagram = .ok m ↔
      m.op ≠ .unknown 1 ∧ m.op ≠ .unknown 2 ∧ m.hlen.toNat = m.chaddr.length ∧
        m.chaddr.length ≤ 16 ∧ m.sname.length ≤ 64 ∧ m.sname.getLast? ≠ some 0 ∧
        m.file.length ≤ 128 ∧ m.file.getLast? ≠ some 0 ∧ ∀ o ∈ m.options.toList, o.Plain) := by
  obtain ⟨writable, rfl⟩ := encode_eq_ok_iff.mp written
  have refused (wide : 16 < m.hlen.toNat) (r : Registry) :
      decodeWith r m.octets = .error (.invalidHardwareLength m.hlen) := by
    rw [decodeWith_of_wide (size_le_octets m) (hlen_octets m ▸ wide), hlen_octets]
  refine ⟨fun wide => refused wide r, fun fits => ⟨?_, ?_⟩, ?_⟩
  · intro o mem fault refused lower
    obtain ⟨before, after, split⟩ := List.append_of_mem mem
    have ascending := m.options.ascending
    rw [split, List.pairwise_append] at ascending
    refine decodeWith_octets_refused r writable unframed fits split ?_ refused
    intro p first
    exact lower p (split ▸ List.mem_append_left _ first)
      (ascending.2.2 p first o List.mem_cons_self)
  · intro accepted
    exact decodeWith_octets r writable unframed fits accepted
  · by_cases fits : m.hlen.toNat ≤ hardwareWidth
    · rw [decode_octets_eq_self_iff writable unframed fits]
      constructor
      · rintro ⟨plain, options⟩
        exact ⟨plain.notRequest, plain.notReply, plain.hlen, plain.hlen ▸ fits, plain.sname,
          plain.snameEnd, plain.file, plain.fileEnd, options⟩
      · rintro ⟨notRequest, notReply, hlen, -, sname, snameEnd, file, fileEnd, options⟩
        exact ⟨⟨notRequest, notReply, hlen, sname, snameEnd, file, fileEnd⟩, options⟩
    · have wide := Nat.lt_of_not_le fits
      rw [refused wide]
      constructor
      · intro impossible
        cases impossible
      · rintro ⟨-, -, same, short, -⟩
        exact absurd (same ▸ short) fits

/-- A message that is built as nothing a datagram holds: its operation code and its message type are
known ones in disguise, its hardware address is longer than it tells, and its name ends in zero. -/
theorem decodeWith_encode_disguised :
    let m : Message :=
      { new (.unknown 2) 7 with
        hlen := 2
        chaddr := [1, 2, 3]
        sname := [65, 0]
        options := Options.empty.insert (.raw 53 [1]) }
    ∃ n, decodeWith .standard m.octets = .ok n ∧ n.op = .bootReply ∧ n.chaddr = [1, 2] ∧
      n.sname = [65] ∧ n.option? 53 = some (.messageType .discover) := by
  intro m
  have sole : ∀ o ∈ m.options.toList, o = .raw 53 [1] := fun o => List.mem_singleton.mp
  have unframed : ∀ o ∈ m.options.toList, o.code ≠ 0 ∧ o.code ≠ 255 := by
    intro o mem
    rw [sole o mem]
    decide
  have written : m.encode = .ok m.octets := by
    refine encode_eq_ok_iff.mpr ⟨fun o mem => ?_, rfl⟩
    rw [sole o mem]
    exact ⟨rfl, by decide⟩
  have known : Registry.standard.decode 53 [1] = .ok (.messageType .discover) := by
    decide
  obtain ⟨-, reads, -⟩ := decodeWith_encode .standard unframed written
  obtain ⟨n, decoded, header, found⟩ := (reads (by decide)).2 fun o mem => by
    rw [sole o mem]
    exact ⟨_, known⟩
  refine ⟨n, decoded, ?_, ?_, ?_, ?_⟩
  · rw [header]
    rfl
  · rw [header]
    rfl
  · rw [header]
    rfl
  · rw [found]
    exact congrArg Except.toOption known

end Message

end Dhcp
