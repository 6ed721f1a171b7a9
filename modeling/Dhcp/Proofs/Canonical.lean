import Dhcp.Proofs.NormalForm

/-!
# Canonical datagrams

Many datagrams hold the same message: pads may stand between the options, a code may come more than
once, octets may stand behind the end, and the hardware slot may hold more than the address. Reading
a datagram and writing the message gives the canonical one among them, which is a function of the
datagram alone as long as the registry is faithful: no decoder loses or changes an octet of the
payloads it makes options of.

**The law** (`encode_decodeWith_canonical`): a faithful registry writes what it read as the
canonical form, and reads that as the same message again.
-/

namespace Dhcp

/-! ## Faithful registries -/

namespace Registry

/-- A registry is faithful if an option that one of its decoders makes under the code it is asked
for has exactly the payload it was made of, and can be written. -/
def Faithful (r : Registry) : Prop :=
  ∀ code decoder, r.decoder? code = some decoder → ∀ data : Octets, data.length ≤ 255 →
    ∀ o, decoder code data = .ok o → o.code = code →
      o.payload = data ∧ ∃ triple, o.encode = .ok triple

/-- The registry with the decoders of some codes taken out of force. -/
def without (r : Registry) (codes : List UInt8) : Registry :=
  codes.foldl (fun r code => (r.unregister code).2) r

/-- Without decoders every payload is kept as it is. -/
theorem faithful_empty : empty.Faithful := by
  intro code decoder found
  cases found

/-- The standard decoders keep every payload that they accept. -/
theorem faithful_standard : standard.Faithful := by
  intro code decoder found data short o made _
  obtain ⟨f, -, rfl⟩ := Option.map_eq_some_iff.mp found
  obtain ⟨-, payload, shaped⟩ := decodeKnown_sound made
  exact ⟨payload, _, Opt.encode_of_writable ⟨shaped, payload ▸ short⟩⟩

/-- Taking decoders away leaves a registry faithful. -/
theorem Faithful.without {r : Registry} (faithful : r.Faithful) (codes : List UInt8) :
    (r.without codes).Faithful := by
  induction codes generalizing r with
  | nil => exact faithful
  | cons gone codes ih =>
    apply ih
    intro code decoder found
    simp only [unregister, set] at found
    split at found
    · cases found
    · exact faithful code decoder found

/-- What a faithful registry makes of a payload has that payload and can be written. -/
theorem Faithful.decode {r : Registry} (faithful : r.Faithful) {code : UInt8} {data : Octets}
    (short : data.length ≤ 255) {o : Opt} (made : r.decode code data = .ok o) :
    o.payload = data ∧ o.Writable := by
  have raw : (Opt.raw code data).payload = data ∧ (Opt.raw code data).Writable :=
    ⟨rfl, rfl, short⟩
  unfold Registry.decode at made
  split at made
  · cases made
    exact raw
  · next decoder found =>
    split at made
    · cases made
    · next p decoded =>
      cases made
      split
      · next same =>
        obtain ⟨payload, triple, written⟩ := faithful code decoder found data short p decoded same
        obtain ⟨shaped, fits, -⟩ := Opt.encode_eq_ok_iff.mp written
        exact ⟨payload, shaped, fits⟩
      · exact raw

end Registry

/-! ## Canonical forms -/

namespace Message

/-- The last triple of each code, in ascending order of the codes. -/
def lastTriples (ts : List Triple) : Octets :=
  everyCode.flatMap fun code =>
    match Area.lastUnder code ts with
    | some t => t.octets
    | none => []

/-- A datagram is the canonical form of another: it has its header, but for zero octets behind the
hardware address, then the last triple of each code that stands before the end of its options, in
ascending order, and then the octet 255. -/
def CanonicalForm (data canonical : Octets) : Prop :=
  ∃ items tail, data.drop 240 = Item.write items ++ tail ∧ Area.Ends tail ∧
    canonical = data.take 28 ++ (data.slice 28 (data.getD 2 0).toNat).fit 16 ++ data.slice 44 196
      ++ lastTriples (Item.triples items) ++ [255]

/-- A datagram has one canonical form, whatever its items are taken to be. -/
theorem CanonicalForm.unique {data e e' : Octets} (h : CanonicalForm data e)
    (h' : CanonicalForm data e') : e' = e := by
  obtain ⟨items, tail, cut, ends, rfl⟩ := h
  obtain ⟨items', tail', cut', ends', rfl⟩ := h'
  have area : Area.read (data.drop 240) = ⟨Item.triples items, none⟩ := Cut.read cut ends
  have area' : Area.read (data.drop 240) = ⟨Item.triples items', none⟩ := Cut.read cut' ends'
  have same : Item.triples items' = Item.triples items :=
    congrArg Area.triples (area'.symm.trans area)
  rw [same]

/-- Options that are under each code what the last triple of the code is are written as the last
triples. -/
theorem flatMap_toTriple_eq_lastTriples {os : Options} {ts : List Triple}
    (last : ∀ code, (os.get? code).map Opt.toTriple = Area.lastUnder code ts) :
    (os.toList.flatMap fun o => o.toTriple.octets) = lastTriples ts := by
  have one (code : UInt8) : ((os.get? code).toList.flatMap fun o => o.toTriple.octets) =
      match Area.lastUnder code ts with
      | some t => t.octets
      | none => [] := by
    rw [← last code]
    cases os.get? code <;> simp
  rw [os.toList_eq_filterMap, List.filterMap_eq_flatMap_toList, List.flatMap_assoc, lastTriples]
  simp only [one]

section Kept

variable {r : Registry} (faithful : r.Faithful) {items : List Item}
  (accepted : ∀ t ∈ Item.triples items, r.Accepts t) {m : Message}
  (found : ∀ code, m.option? code = (Area.lastUnder code (Item.triples items)).bind fun t =>
    (r.decode t.code t.payload).toOption)

include faithful accepted found

/-- Under each code, a faithful registry keeps the last triple of the code. -/
theorem toTriple_of_lastUnder {code : UInt8} {t : Triple}
    (last : Area.lastUnder code (Item.triples items) = some t) :
    ∃ o, m.option? code = some o ∧ o.toTriple = t ∧ o.Writable ∧
      r.decode o.code o.payload = .ok o := by
  obtain ⟨mem, -⟩ := Area.mem_of_lastUnder last
  obtain ⟨o, made⟩ := accepted t mem
  obtain ⟨payload, writable⟩ := faithful.decode (Item.framed_of_mem mem).fits made
  have same := Registry.code_decode made
  refine ⟨o, ?_, ?_, writable, ?_⟩
  · rw [found, last, Option.bind_some, made]
    rfl
  · rw [Opt.toTriple, same, payload]
  · rw [same, payload, made]

/-- The options that a faithful registry reads are written as the last triples again. -/
theorem map_toTriple_option? (code : UInt8) :
    (m.option? code).map Opt.toTriple = Area.lastUnder code (Item.triples items) := by
  cases under : Area.lastUnder code (Item.triples items) with
  | none => rw [found, under, Option.bind_none, Option.map_none]
  | some t =>
    obtain ⟨o, here, same, -⟩ := toTriple_of_lastUnder faithful accepted found under
    rw [here, Option.map_some, same]

/-- The options that a faithful registry reads can be written, and it reads them again as they
are. -/
theorem kept_of_faithful {o : Opt} (mem : o ∈ m.options.toList) :
    o.Writable ∧ (o.code ≠ 0 ∧ o.code ≠ 255) ∧ r.decode o.code o.payload = .ok o := by
  have here : m.option? o.code = some o := Options.mem_toList_iff.mp mem
  have under := map_toTriple_option? faithful accepted found o.code
  rw [here, Option.map_some] at under
  obtain ⟨p, here', -, writable, made⟩ :=
    toTriple_of_lastUnder faithful accepted found under.symm
  cases here.symm.trans here'
  have framed := Item.framed_of_mem (Area.mem_of_lastUnder under.symm).1
  exact ⟨writable, ⟨framed.notPad, framed.notEnd⟩, made⟩

end Kept

/-- A message that a registry reads of its own octets as it is. -/
structure Settled (m : Message) (r : Registry) : Prop where
  header : m.toHeader.Plain
  fits : m.hlen.toNat ≤ hardwareWidth
  writable : ∀ o ∈ m.options.toList, o.Writable
  unframed : m.Unframed
  kept : ∀ o ∈ m.options.toList, r.decode o.code o.payload = .ok o

/-- What a faithful registry reads is settled. -/
theorem settled_of_decodeWith {r : Registry} (faithful : r.Faithful) {data : Octets} {m : Message}
    (decoded : decodeWith r data = .ok m) : m.Settled r := by
  obtain ⟨long, fits⟩ := header_of_decodeWith decoded
  obtain ⟨items, tail, -, -, accepted, header, found⟩ :=
    (decodeWith_eq_ok_iff long fits).mp decoded
  have kept (o : Opt) (mem : o ∈ m.options.toList) :=
    kept_of_faithful faithful accepted found mem
  refine ⟨header ▸ Header.plain_ofOctets long fits, ?_, fun o mem => (kept o mem).1,
    fun o mem => (kept o mem).2.1, fun o mem => (kept o mem).2.2⟩
  rw [header]
  exact fits

theorem Settled.encode {r : Registry} {m : Message} (settled : m.Settled r) :
    m.encode = .ok m.octets :=
  encode_eq_ok_iff.mpr ⟨settled.writable, rfl⟩

/-- A settled message is read back from its octets as it is. -/
theorem Settled.decodeWith_octets {r : Registry} {m : Message} (settled : m.Settled r) :
    decodeWith r m.octets = .ok m :=
  decodeWith_octets_self r settled.writable settled.unframed settled.fits settled.header
    settled.kept

/-- A faithful registry, such as the standard one, the empty one and the standard one with any codes
taken out, writes what it read of a datagram as the canonical form of the datagram, which does not
depend on the registry, and reads the canonical form as the same message. -/
theorem encode_decodeWith_canonical :
    (Registry.standard.Faithful ∧ Registry.empty.Faithful ∧
      ∀ codes, (Registry.standard.without codes).Faithful) ∧
    ∀ (r : Registry) (data : Octets) (m : Message), r.Faithful → decodeWith r data = .ok m →
      ∃ e, CanonicalForm data e ∧ (∀ e', CanonicalForm data e' → e' = e) ∧
        m.encode = .ok e ∧ decodeWith r e = .ok m := by
  refine ⟨⟨Registry.faithful_standard, Registry.faithful_empty,
    Registry.faithful_standard.without⟩, ?_⟩
  intro r data m faithful decoded
  obtain ⟨long, fits⟩ := header_of_decodeWith decoded
  obtain ⟨items, tail, cut, ends, accepted, header, found⟩ :=
    (decodeWith_eq_ok_iff long fits).mp decoded
  have last := map_toTriple_option? faithful accepted found
  have kept (o : Opt) (mem : o ∈ m.options.toList) :=
    kept_of_faithful faithful accepted found mem
  have canonical : CanonicalForm data m.octets := by
    refine ⟨items, tail, cut, ends, ?_⟩
    rw [octets, flatMap_toTriple_eq_lastTriples last, header, Header.octets_ofOctets long fits,
      ← List.append_assoc]
    rfl
  refine ⟨m.octets, canonical, fun e' other => canonical.unique other, ?_, ?_⟩
  · exact encode_eq_ok_iff.mpr ⟨fun o mem => (kept o mem).1, rfl⟩
  · apply decodeWith_octets_self r (fun o mem => (kept o mem).1) (fun o mem => (kept o mem).2.1)
    · rw [header]
      exact fits
    · rw [header]
      exact Header.plain_ofOctets long fits
    · exact fun o mem => (kept o mem).2.2

/-- A datagram with a pad, a host name that comes twice, and an octet behind the end. -/
theorem encode_decodeWith_canonical_hostName :
    let head : Octets := [1, 1, 6, 0] ++ List.replicate 236 0
    ∃ m, decodeWith .standard (head ++ [0, 12, 1, 104, 12, 2, 104, 105, 255, 7]) = .ok m ∧
      m.encode = .ok (head ++ [12, 2, 104, 105, 255]) ∧
      decodeWith .standard (head ++ [12, 2, 104, 105, 255]) = .ok m := by
  intro head
  have cut : Cut (head ++ [0, 12, 1, 104, 12, 2, 104, 105, 255, 7])
      [.pad, .triple ⟨12, [104]⟩ ⟨by decide, by decide, by decide⟩,
        .triple ⟨12, [104, 105]⟩ ⟨by decide, by decide, by decide⟩] [255, 7] := by
    rfl
  have accepted : ∀ t ∈ [Triple.mk 12 [104], ⟨12, [104, 105]⟩], Registry.standard.Accepts t := by
    refine List.forall_mem_cons.mpr ⟨⟨.text .hostName "h", ?_⟩, List.forall_mem_cons.mpr
      ⟨⟨.text .hostName "hi", ?_⟩, nofun⟩⟩
    · decide
    · decide
  have long : 240 ≤ (head ++ [0, 12, 1, 104, 12, 2, 104, 105, 255, 7]).length := by
    decide +kernel
  have short : ((head ++ [0, 12, 1, 104, 12, 2, 104, 105, 255, 7]).getD 2 0).toNat ≤ 16 := by
    decide
  obtain ⟨m, decoded, -, -⟩ := decodeWith_of_ends long short cut (.marker [7]) accepted
  obtain ⟨e, -, unique, written, again⟩ :=
    encode_decodeWith_canonical.2 .standard _ m Registry.faithful_standard decoded
  have same := unique (head ++ [12, 2, 104, 105, 255]) ⟨_, _, cut, .marker [7], by decide +kernel⟩
  exact ⟨m, decoded, same ▸ written, same ▸ again⟩

end Message

end Dhcp
