import Dhcp.Proofs.NormalForm

/-!
# The layout of a datagram

Where each field of a message stands in its datagram is said here octet by octet, without the
strings that the writer joins: a number has its most significant octet first, a string is cut to its
slot or has zero octets behind it, and the place of a field depends on no other field. Behind the
header stand the triples of the options in ascending order, and one octet ends them.

An option is refused for an empty list of addresses, for an empty identifier or for a payload of
more than 255 octets. `Opt.Refused` names these causes with their faults.

**The law** (`Message.encode_layout`): a message is written exactly if none of its options is
refused, and then as the one datagram that has this layout; otherwise the fault is that of the
refused option with the lowest code. The length of a datagram is known from the payloads, and no
message needs more than 65519 octets.
-/

namespace Dhcp

/-! ## Octets at a place -/

namespace Octets

/-- A number fills as many octets as its width says, the most significant first. -/
def NumberAt (d : Octets) (offset width n : Nat) : Prop :=
  ∀ i < width, d[offset + i]? = some (UInt8.ofNat (n / 256 ^ (width - 1 - i)))

/-- A string fills a slot: it is cut at the end of the slot, or zero octets stand behind it. -/
def FieldAt (d : Octets) (offset width : Nat) (field : Octets) : Prop :=
  ∀ i < width, d[offset + i]? = some (field.getD i 0)

/-- A window holds some octets exactly if it does so at each place. -/
theorem slice_eq_iff {d part : Octets} {offset width : Nat} (whole : part.length = width) :
    d.slice offset width = part ↔ ∀ i < width, d[offset + i]? = part[i]? := by
  have inside (i : Nat) (lt : i < width) : (d.slice offset width)[i]? = d[offset + i]? := by
    rw [slice, List.getElem?_take_of_lt lt, List.getElem?_drop]
  constructor
  · intro same i lt
    rw [← inside i lt, same]
  · intro same
    apply List.ext_getElem?
    intro i
    by_cases lt : i < width
    · rw [inside i lt, same i lt]
    · have behind : (d.slice offset width).length ≤ i := by
        rw [length_slice]
        omega
      rw [List.getElem?_eq_none behind, List.getElem?_eq_none (by omega)]

/-- A number is written with its highest digit first. -/
theorem getElem?_ofNat {width n i : Nat} (lt : i < width) :
    (ofNat width n)[i]? = some (UInt8.ofNat (n / 256 ^ (width - 1 - i))) := by
  induction width generalizing n with
  | zero => omega
  | succ width ih =>
    rw [ofNat]
    by_cases last : i = width
    · subst last
      simp
    · have front : i < width := by omega
      have shift : width + 1 - 1 - i = width - 1 - i + 1 := by omega
      rw [List.getElem?_append_left (by simpa using front), ih front, shift, Nat.pow_succ',
        Nat.div_div_eq_div_mul]

/-- A field that is made to fit has zeros behind its own octets. -/
theorem getElem?_fit {field : Octets} {width i : Nat} (lt : i < width) :
    (field.fit width)[i]? = some (field.getD i 0) := by
  rw [fit]
  by_cases inside : i < field.length
  · have front : i < (field.take width).length := by
      rw [List.length_take]
      omega
    rw [List.getElem?_append_left front, List.getElem?_take_of_lt lt,
      List.getD_eq_getElem?_getD, List.getElem?_eq_getElem inside, Option.getD_some]
  · have cut : (field.take width).length = field.length := by
      rw [List.length_take]
      omega
    rw [List.getElem?_append_right (by omega), List.getElem?_replicate, if_pos (by omega),
      List.getD_eq_getElem?_getD, List.getElem?_eq_none (by omega), Option.getD_none]

/-- A number stands at a place exactly if its octets do. -/
theorem numberAt_iff {d : Octets} {offset width n : Nat} :
    d.NumberAt offset width n ↔ d.slice offset width = ofNat width n := by
  rw [slice_eq_iff (length_ofNat width n)]
  exact forall₂_congr fun i lt => by rw [getElem?_ofNat lt]

/-- A field stands at a place exactly if it does so made to fit. -/
theorem fieldAt_iff {d field : Octets} {offset width : Nat} :
    d.FieldAt offset width field ↔ d.slice offset width = field.fit width := by
  rw [slice_eq_iff (length_fit field width)]
  exact forall₂_congr fun i lt => by rw [getElem?_fit lt]

theorem octetAt_iff {d : Octets} {offset : Nat} {b : UInt8} :
    d[offset]? = some b ↔ d.slice offset 1 = [b] := by
  rw [slice_eq_iff (List.length_singleton : [b].length = 1)]
  constructor
  · intro here i lt
    obtain rfl : i = 0 := by omega
    exact here
  · intro same
    exact same 0 Nat.one_pos

end Octets

/-! ## Headers -/

namespace Header

/-- Each field of a header stands at its place in a datagram. -/
structure StandsIn (h : Header) (d : Octets) : Prop where
  op : d[0]? = some h.op.toOctet
  htype : d[1]? = some h.htype
  hlen : d[2]? = some h.hlen
  hops : d[3]? = some h.hops
  xid : d.NumberAt 4 4 h.xid.toNat
  secs : d.NumberAt 8 2 h.secs.toNat
  flags : d.NumberAt 10 2 h.flags.toNat
  ciaddr : d.NumberAt 12 4 h.ciaddr.bits.toNat
  yiaddr : d.NumberAt 16 4 h.yiaddr.bits.toNat
  siaddr : d.NumberAt 20 4 h.siaddr.bits.toNat
  giaddr : d.NumberAt 24 4 h.giaddr.bits.toNat
  chaddr : d.FieldAt 28 16 h.chaddr
  sname : d.FieldAt 44 64 h.sname
  file : d.FieldAt 108 128 h.file
  cookie : d.NumberAt 236 4 h.cookie.toNat

/-- A header stands in its octets, whatever is behind them. -/
theorem standsIn_append (h : Header) (rest : Octets) : h.StandsIn (h.octets ++ rest) := by
  have front : ∃ behind, h.octets ++ rest =
      h.op.toOctet :: h.htype :: h.hlen :: h.hops :: behind := ⟨_, rfl⟩
  obtain ⟨behind, eq⟩ := front
  refine ⟨by rw [eq]; rfl, by rw [eq]; rfl, by rw [eq]; rfl, by rw [eq]; rfl,
    Octets.numberAt_iff.mpr ?_, Octets.numberAt_iff.mpr ?_, Octets.numberAt_iff.mpr ?_,
    Octets.numberAt_iff.mpr ?_, Octets.numberAt_iff.mpr ?_, Octets.numberAt_iff.mpr ?_,
    Octets.numberAt_iff.mpr ?_, Octets.fieldAt_iff.mpr ?_, Octets.fieldAt_iff.mpr ?_,
    Octets.fieldAt_iff.mpr ?_, Octets.numberAt_iff.mpr ?_⟩
  -- The parts before a field have known lengths, so its slice is peeled off part by part.
  all_goals
    simp (disch := simp) only [octets, Ipv4.octets, List.append_assoc, hardwareWidth,
      Octets.slice_append_right, Octets.slice_append_left, Octets.length_ofNat, Octets.length_fit,
      List.length_cons, List.length_nil, Nat.reduceAdd, Nat.reduceSub]

/-- The places of the fields are the whole header, so they decide the front of a datagram. -/
theorem StandsIn.take_eq {h : Header} {d : Octets} (stands : h.StandsIn d) :
    d.take size = h.octets := by
  have tags : [h.op.toOctet, h.htype, h.hlen, h.hops] = d.slice 0 4 := by
    calc [h.op.toOctet, h.htype, h.hlen, h.hops]
        = [h.op.toOctet] ++ [h.htype] ++ [h.hlen] ++ [h.hops] := rfl
      _ = d.slice 0 4 := by
        rw [← Octets.octetAt_iff.mp stands.op, ← Octets.octetAt_iff.mp stands.htype,
          ← Octets.octetAt_iff.mp stands.hlen, ← Octets.octetAt_iff.mp stands.hops]
        simp only [Octets.slice_append_slice, Nat.reduceAdd]
  rw [← Octets.slice_zero]
  simp only [octets, Ipv4.octets, hardwareWidth, tags, ← Octets.numberAt_iff.mp stands.xid,
    ← Octets.numberAt_iff.mp stands.secs, ← Octets.numberAt_iff.mp stands.flags,
    ← Octets.numberAt_iff.mp stands.ciaddr, ← Octets.numberAt_iff.mp stands.yiaddr,
    ← Octets.numberAt_iff.mp stands.siaddr, ← Octets.numberAt_iff.mp stands.giaddr,
    ← Octets.fieldAt_iff.mp stands.chaddr, ← Octets.fieldAt_iff.mp stands.sname,
    ← Octets.fieldAt_iff.mp stands.file, ← Octets.numberAt_iff.mp stands.cookie,
    Octets.slice_append_slice, Nat.reduceAdd, size]

end Header

/-! ## Refusals -/

namespace Opt

/-- An option that cannot be written, with the fault that it is refused with. -/
inductive Refused : Opt → WireFault → Prop where
  | noAddresses (use : AddressListUse) :
      Refused (.addresses use []) (.malformedOption (Format.addresses use).code .emptyAddressList)
  | noIdentifier (kind : UInt8) :
      Refused (.clientIdentifier kind []) (.malformedOption 61 .emptyIdentifier)
  | tooLong {o : Opt} (long : 255 < o.payload.length) :
      Refused o (.optionTooLong o.code o.payload.length)

/-- An option that is too long has no other defect. -/
theorem defect?_of_long {o : Opt} (long : 255 < o.payload.length) : o.defect? = none := by
  cases shape : o.defect? with
  | none => rfl
  | some defect =>
    rcases defect?_eq_some_iff.mp shape with ⟨⟨use, rfl⟩, -⟩ | ⟨⟨kind, rfl⟩, -⟩
    · cases long
    · simp [payload] at long

/-- An option is refused exactly if encoding it fails, and for the same reason. -/
theorem refused_iff {o : Opt} {fault : WireFault} : o.Refused fault ↔ o.encode = .error fault := by
  constructor
  · rintro (use | kind | long)
    · rfl
    · rfl
    · exact (encode_eq_error_iff (defect?_of_long long)).mpr ⟨long, rfl⟩
  · intro failed
    cases shape : o.defect? with
    | none =>
      obtain ⟨long, rfl⟩ := (encode_eq_error_iff shape).mp failed
      exact .tooLong long
    | some defect =>
      rw [encode, shape] at failed
      cases failed
      rcases defect?_eq_some_iff.mp shape with ⟨⟨use, rfl⟩, rfl⟩ | ⟨⟨kind, rfl⟩, rfl⟩
      · exact .noAddresses use
      · exact .noIdentifier kind

/-- An option can be written exactly if nothing refuses it. -/
theorem writable_iff {o : Opt} : o.Writable ↔ ∀ fault, ¬o.Refused fault := by
  simp only [refused_iff]
  constructor
  · intro writable fault failed
    cases failed.symm.trans (encode_of_writable writable)
  · intro never
    cases written : o.encode with
    | error fault => exact absurd written (never fault)
    | ok triple =>
      obtain ⟨shaped, fits, -⟩ := encode_eq_ok_iff.mp written
      exact ⟨shaped, fits⟩

/-- An option can be written exactly if no list in it is empty that must not be, and its payload is
short enough. -/
theorem writable_iff_shape {o : Opt} : o.Writable ↔
    (∀ use, o ≠ .addresses use []) ∧ (∀ kind, o ≠ .clientIdentifier kind []) ∧
      o.payload.length ≤ 255 := by
  have shaped : o.defect? = none ↔
      (∀ use, o ≠ .addresses use []) ∧ ∀ kind, o ≠ .clientIdentifier kind [] := by
    rw [Option.eq_none_iff_forall_ne_some]
    constructor
    · intro never
      exact ⟨fun use same => never _ (defect?_eq_some_iff.mpr (.inl ⟨⟨use, same⟩, rfl⟩)),
        fun kind same => never _ (defect?_eq_some_iff.mpr (.inr ⟨⟨kind, same⟩, rfl⟩))⟩
    · rintro ⟨addresses, identifier⟩ defect shape
      rcases defect?_eq_some_iff.mp shape with ⟨⟨use, same⟩, -⟩ | ⟨⟨kind, same⟩, -⟩
      · exact addresses use same
      · exact identifier kind same
  constructor
  · intro writable
    obtain ⟨addresses, identifier⟩ := shaped.mp writable.shaped
    exact ⟨addresses, identifier, writable.fits⟩
  · rintro ⟨addresses, identifier, fits⟩
    exact ⟨shaped.mpr ⟨addresses, identifier⟩, fits⟩

end Opt

/-! ## Messages -/

namespace Message

/-- A datagram has the layout of a message: each field of the header stands at its place, and behind
the header stand the triples of the options in ascending order of their codes and the octet that
ends them. -/
structure LaidOut (m : Message) (d : Octets) : Prop where
  header : m.toHeader.StandsIn d
  area : ∃ ts : List Triple, d.drop 240 = ts.flatMap Triple.octets ++ [255] ∧
    ts.Pairwise (fun t u => t.code < u.code) ∧
    ∀ t, t ∈ ts ↔ ∃ o, m.option? t.code = some o ∧ o.payload = t.payload

variable {m : Message} {d : Octets}

/-- A triple of a message is an option under its code, with its payload. -/
theorem mem_map_toTriple_iff {t : Triple} :
    t ∈ m.options.toList.map Opt.toTriple ↔
      ∃ o, m.option? t.code = some o ∧ o.payload = t.payload := by
  rw [List.mem_map]
  constructor
  · rintro ⟨o, mem, rfl⟩
    exact ⟨o, Options.mem_toList_iff.mp mem, rfl⟩
  · rintro ⟨o, found, payload⟩
    have code : o.code = t.code := Options.code_of_get? found
    refine ⟨o, Options.mem_toList_iff.mpr (code ▸ found), ?_⟩
    rw [Opt.toTriple, code, payload]

/-- The triples of a message are in the order of their codes. -/
theorem ascending_triples (m : Message) :
    (m.options.toList.map Opt.toTriple).Pairwise fun t u => t.code < u.code :=
  List.pairwise_map.mpr m.options.ascending

/-- The layout of a message is had by one datagram. -/
theorem laidOut_iff : m.LaidOut d ↔ d = m.octets := by
  constructor
  · rintro ⟨stands, ts, area, ascending, mem⟩
    have same : ts = m.options.toList.map Opt.toTriple := by
      apply eq_of_key_ascending ascending m.ascending_triples
      intro t
      rw [mem, mem_map_toTriple_iff]
    calc d = d.take 240 ++ d.drop 240 := (List.take_append_drop 240 d).symm
      _ = m.toHeader.octets ++ (ts.flatMap Triple.octets ++ [255]) :=
        congrArg₂ (· ++ ·) stands.take_eq area
      _ = m.octets := by rw [same, List.flatMap_map, octets]
  · rintro rfl
    refine ⟨m.toHeader.standsIn_append _, m.options.toList.map Opt.toTriple, ?_,
      m.ascending_triples, fun t => mem_map_toTriple_iff⟩
    rw [List.flatMap_map]
    exact m.drop_octets

/-- A message is refused for the option with the lowest code of those that cannot be written. -/
theorem encode_eq_error_iff_lowest {fault : WireFault} :
    m.encode = .error fault ↔ ∃ o ∈ m.options.toList, o.Refused fault ∧
      ∀ p ∈ m.options.toList, p.code < o.code → p.Writable := by
  rw [encode_eq_error_iff]
  constructor
  · rintro ⟨before, o, after, split, writable, failed⟩
    refine ⟨o, ?_, Opt.refused_iff.mpr failed, ?_⟩
    · rw [split]
      exact List.mem_append_right _ List.mem_cons_self
    · intro p mem lower
      have ascending := m.options.ascending
      rw [split] at mem ascending
      obtain ⟨-, behind, -⟩ := List.pairwise_append.mp ascending
      rcases List.mem_append.mp mem with mem | mem
      · exact writable p mem
      · rcases List.mem_cons.mp mem with rfl | mem
        · exact absurd lower (UInt8.lt_irrefl _)
        · exact absurd lower (UInt8.lt_asymm ((List.pairwise_cons.mp behind).1 p mem))
  · rintro ⟨o, mem, refused, lower⟩
    obtain ⟨before, after, split⟩ := List.append_of_mem mem
    refine ⟨before, o, after, split, ?_, Opt.refused_iff.mp refused⟩
    intro p first
    have ascending := m.options.ascending
    rw [split] at ascending
    obtain ⟨-, -, apart⟩ := List.pairwise_append.mp ascending
    exact lower p (split ▸ List.mem_append_left _ first) (apart p first o List.mem_cons_self)

/-- A message is written exactly if each of its options has a shape and a payload of at most 255
octets. Its datagram is then the one that has the layout of the message; it has 241 octets and for
each option two more than the payload has, ends with the octet 255, and has at most 65519 octets
where no option has a code that frames the area. Otherwise the message is refused for the option
with the lowest code of those that cannot be written, whatever the other options are. -/
theorem encode_layout (m : Message) :
    ((∃ d, m.encode = .ok d) ↔ ∀ o ∈ m.options.toList,
      (∀ use, o ≠ .addresses use []) ∧ (∀ kind, o ≠ .clientIdentifier kind []) ∧
        o.payload.length ≤ 255) ∧
    (∀ fault, m.encode = .error fault ↔ ∃ o ∈ m.options.toList, o.Refused fault ∧
      ∀ p ∈ m.options.toList, p.code < o.code → ∀ other, ¬p.Refused other) ∧
    ∀ d, m.encode = .ok d →
      (∀ e, m.LaidOut e ↔ e = d) ∧
      d.length = 241 + (m.options.toList.map fun o => 2 + o.payload.length).sum ∧
      d.getLast? = some 255 ∧
      ((∀ o ∈ m.options.toList, o.code ≠ 0 ∧ o.code ≠ 255) → d.length ≤ 65519) := by
  refine ⟨?_, fun fault => ?_, fun d written => ?_⟩
  · simp only [encode_eq_ok_iff, exists_and_left, exists_eq, and_true, Opt.writable_iff_shape]
  · simp only [encode_eq_error_iff_lowest, Opt.writable_iff]
  · obtain ⟨writable, rfl⟩ := encode_eq_ok_iff.mp written
    refine ⟨fun e => laidOut_iff, length_octets_eq m, ?_, fun unframed => ?_⟩
    · rw [octets, ← List.append_assoc, List.getLast?_concat]
    · have few := Options.length_toList_le unframed
      have bound := length_octets_le writable
      omega

/-- A name that is too long for its slot does not reach the next one, and of two options that cannot
be written the one with the lower code is the fault. -/
theorem encode_layout_overfull :
    let m : Message :=
      { new .bootReply 7 with
        sname := List.replicate 80 115
        options := Options.empty.insert (.raw 200 [222, 173]) }
    let n := m.withOptions [.text .hostName (String.ofList (List.replicate 256 'h')),
      .addresses .router []]
    (∃ d, m.encode = .ok d ∧ d.length = 245 ∧ d[107]? = some 115 ∧ d[108]? = some 0 ∧
      d.getLast? = some 255) ∧
      n.encode = .error (.malformedOption 3 .emptyAddressList) := by
  intro m n
  obtain ⟨ok, -, layout⟩ := encode_layout m
  obtain ⟨-, refused, -⟩ := encode_layout n
  have sole : ∀ o ∈ m.options.toList, o = .raw 200 [222, 173] := fun o => List.mem_singleton.mp
  constructor
  · obtain ⟨d, written⟩ := ok.mpr fun o mem => by
      rw [sole o mem]
      exact ⟨nofun, nofun, by decide⟩
    obtain ⟨only, length, last, -⟩ := layout d written
    obtain ⟨stands, -⟩ := (only d).mpr rfl
    exact ⟨d, written, length, stands.sname 63 (by decide), stands.file 0 (by decide), last⟩
  · have listed : n.options.toList = [.addresses .router [],
        .text .hostName (String.ofList (List.replicate 256 'h')), .raw 200 [222, 173]] := rfl
    refine (refused _).mpr ⟨.addresses .router [], ?_, .noAddresses .router, ?_⟩
    · rw [listed]
      exact List.mem_cons_self
    · intro p mem lower
      rw [listed] at mem
      simp only [List.mem_cons, List.not_mem_nil, or_false] at mem
      rcases mem with rfl | rfl | rfl
      · exact absurd lower (by decide)
      · exact absurd lower (by decide)
      · exact absurd lower (by decide)

end Message

end Dhcp
