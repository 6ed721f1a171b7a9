import Dhcp.Proofs.AreaGrammar
import Dhcp.Proofs.HeaderWire

/-!
# The grammar of a datagram

A datagram holds a message if it has a whole header, the header tells a hardware length that fits
its slot, and the octets behind the header follow the grammar of an option area. Where one of these
fails, the first that fails is the fault, and within the area the leftmost item that fails.

**The law** (`decodeWith_follows_grammar`): decoding agrees with this description on every datagram
and for every registry.
-/

namespace Dhcp.Message

variable {r : Registry} {data : Octets}

/-! ## The three checks -/

/-- A datagram that is shorter than a header is truncated. -/
theorem decodeWith_of_short (short : data.length < Header.size) :
    decodeWith r data = .error (.truncated Header.size data.length) := by
  rw [decodeWith, if_pos short]

/-- A datagram whose hardware address is wider than its field is refused for that. -/
theorem decodeWith_of_wide (long : Header.size ≤ data.length)
    (wide : hardwareWidth < (data.getD 2 0).toNat) :
    decodeWith r data = .error (.invalidHardwareLength (data.getD 2 0)) := by
  rw [decodeWith, if_neg (Nat.not_lt_of_le long)]
  exact if_pos wide

/-- A datagram that can be read has a whole header with a hardware address that fits. -/
theorem header_of_decodeWith {m : Message} (decoded : decodeWith r data = .ok m) :
    Header.size ≤ data.length ∧ (data.getD 2 0).toNat ≤ hardwareWidth := by
  have long : Header.size ≤ data.length := by
    by_contra short
    cases decoded.symm.trans (decodeWith_of_short (Nat.lt_of_not_le short))
  refine ⟨long, ?_⟩
  by_contra wide
  cases decoded.symm.trans (decodeWith_of_wide long (Nat.lt_of_not_le wide))

/-- What a datagram with a proper header comes to is up to its option area. -/
theorem decodeWith_of_header (long : Header.size ≤ data.length)
    (fits : (data.getD 2 0).toNat ≤ hardwareWidth) :
    decodeWith r data =
      ((Area.read (data.drop Header.size)).decode r).map fun options =>
        { Header.ofOctets data with options := options } := by
  rw [decodeWith, if_neg (Nat.not_lt_of_le long)]
  have narrow : ¬hardwareWidth < (Header.ofOctets data).hlen.toNat := Nat.not_lt_of_le fits
  simp only [if_neg narrow]
  cases (Area.read (data.drop Header.size)).decode r <;> rfl

/-- Two messages with the same header in which the same is found under every code are equal. -/
theorem eq_of_option? {m n : Message} (header : m.toHeader = n.toHeader)
    (same : ∀ code, m.option? code = n.option? code) : m = n := by
  have options := Options.eq_of_get? same
  cases m
  cases n
  cases header
  cases options
  rfl

/-- A datagram that can be seen to decode holds a message. -/
theorem exists_of_readable (readable : (decodeWith r data).toOption.isSome = true) :
    ∃ m, decodeWith r data = .ok m := by
  cases decoded : decodeWith r data with
  | error fault =>
    rw [decoded] at readable
    cases readable
  | ok m => exact ⟨m, rfl⟩

/-! ## Agreement with the grammar -/

/-- The items of a datagram and what stands behind them. -/
def Cut (data : Octets) (items : List Item) (tail : Octets) : Prop :=
  data.drop Header.size = Item.write items ++ tail

/-- The items of a datagram whose area ends behind them are what is read of it. -/
theorem Cut.read {items : List Item} {tail : Octets} (cut : Cut data items tail)
    (ends : Area.Ends tail) : Area.read (data.drop 240) = ⟨Item.triples items, none⟩ :=
  (congrArg Area.read cut).trans (Area.read_write_of_ends items ends)

section Appended

variable {head : Octets} (whole : head.length = Header.size)

include whole

theorem size_le_append (rest : Octets) : Header.size ≤ (head ++ rest).length := by
  rw [List.length_append, whole]
  exact Nat.le_add_right ..

theorem hlen_append (rest : Octets) : (head ++ rest).getD 2 0 = head.getD 2 0 := by
  rw [← Header.hlen_ofOctets, Header.ofOctets_append whole, Header.hlen_ofOctets]

/-- A header, items and a tail that follow each other are cut where they meet. -/
theorem cut_append (items : List Item) (tail : Octets) :
    Cut (head ++ (Item.write items ++ tail)) items tail := by
  rw [Cut, ← whole, List.drop_left]

end Appended

/-- A datagram whose items are all accepted and whose area ends behind them is read, and has the
last option of each code. -/
theorem decodeWith_of_ends (long : Header.size ≤ data.length)
    (fits : (data.getD 2 0).toNat ≤ hardwareWidth) {items : List Item} {tail : Octets}
    (cut : Cut data items tail) (ends : Area.Ends tail)
    (accepted : ∀ t ∈ Item.triples items, r.Accepts t) :
    ∃ m, decodeWith r data = .ok m ∧ m.toHeader = Header.ofOctets data ∧
      ∀ code, m.option? code = (Area.lastUnder code (Item.triples items)).bind fun t =>
        (r.decode t.code t.payload).toOption := by
  obtain ⟨os, decoded, found⟩ := Area.decode_of_ends ends accepted
  refine ⟨{ Header.ofOctets data with options := os }, ?_, rfl, found⟩
  rw [decodeWith_of_header long fits, cut, decoded]
  rfl

/-- A datagram whose area fails behind items that are all accepted is refused for that failure. -/
theorem decodeWith_of_fails (long : Header.size ≤ data.length)
    (fits : (data.getD 2 0).toNat ≤ hardwareWidth) {items : List Item} {tail : Octets}
    {fault : WireFault} (cut : Cut data items tail) (fails : Area.Fails r tail fault)
    (accepted : ∀ t ∈ Item.triples items, r.Accepts t) : decodeWith r data = .error fault := by
  rw [decodeWith_of_header long fits, cut, Area.decode_of_fails fails accepted]
  rfl

/-- Every datagram with a proper header holds a message by the grammar or fails by it. -/
theorem ends_or_fails (r : Registry) (data : Octets) :
    ∃ items tail, Cut data items tail ∧ (∀ t ∈ Item.triples items, r.Accepts t) ∧
      (Area.Ends tail ∨ ∃ fault, Area.Fails r tail fault) :=
  Area.ends_or_fails r (data.drop Header.size)

/-- With a header that can be read, exactly the datagrams that are cut into accepted items and an
end are read, as the message that the last triples of each code make up. -/
theorem decodeWith_eq_ok_iff (long : Header.size ≤ data.length)
    (fits : (data.getD 2 0).toNat ≤ hardwareWidth) {m : Message} :
    decodeWith r data = .ok m ↔
      ∃ items tail, Cut data items tail ∧ Area.Ends tail ∧
        (∀ t ∈ Item.triples items, r.Accepts t) ∧ m.toHeader = Header.ofOctets data ∧
        ∀ code, m.option? code = (Area.lastUnder code (Item.triples items)).bind fun t =>
          (r.decode t.code t.payload).toOption := by
  constructor
  · intro decoded
    obtain ⟨items, tail, cut, accepted, ends | ⟨fault, fails⟩⟩ := ends_or_fails r data
    · obtain ⟨n, decoded', header, found⟩ := decodeWith_of_ends long fits cut ends accepted
      cases decoded.symm.trans decoded'
      exact ⟨items, tail, cut, ends, accepted, header, found⟩
    · cases decoded.symm.trans (decodeWith_of_fails long fits cut fails accepted)
  · rintro ⟨items, tail, cut, ends, accepted, header, found⟩
    obtain ⟨n, decoded, header', found'⟩ := decodeWith_of_ends long fits cut ends accepted
    have same : m = n := eq_of_option? (header.trans header'.symm) fun code =>
      (found code).trans (found' code).symm
    rw [decoded, same]

/-- A message that a datagram holds has the header of the datagram. -/
theorem toHeader_of_decodeWith {m : Message} (decoded : decodeWith r data = .ok m) :
    m.toHeader = Header.ofOctets data := by
  obtain ⟨long, fits⟩ := header_of_decodeWith decoded
  obtain ⟨-, -, -, -, -, header, -⟩ := (decodeWith_eq_ok_iff long fits).mp decoded
  exact header

/-- The first octet of a datagram is the operation code of its message. -/
theorem getElem?_zero_of_decodeWith {m : Message} (decoded : decodeWith r data = .ok m) :
    data[0]? = some m.op.toOctet := by
  obtain ⟨long, -⟩ := header_of_decodeWith decoded
  have op : m.op = OpCode.ofOctet (data.getD 0 0) :=
    congrArg Header.op (toHeader_of_decodeWith decoded)
  cases data with
  | nil => cases long
  | cons octet data => rw [op, OpCode.toOctet_ofOctet, List.getD_cons_zero, List.getElem?_cons_zero]

/-- With a header that can be read, a datagram is refused exactly for what fails behind accepted
items. -/
theorem decodeWith_eq_error_iff (long : Header.size ≤ data.length)
    (fits : (data.getD 2 0).toNat ≤ hardwareWidth) {fault : WireFault} :
    decodeWith r data = .error fault ↔
      ∃ items tail, Cut data items tail ∧ (∀ t ∈ Item.triples items, r.Accepts t) ∧
        Area.Fails r tail fault := by
  constructor
  · intro decoded
    obtain ⟨items, tail, cut, accepted, ends | ⟨fault', fails⟩⟩ := ends_or_fails r data
    · obtain ⟨n, decoded', -, -⟩ := decodeWith_of_ends long fits cut ends accepted
      cases decoded.symm.trans decoded'
    · cases decoded.symm.trans (decodeWith_of_fails long fits cut fails accepted)
      exact ⟨items, tail, cut, accepted, fails⟩
  · rintro ⟨items, tail, cut, accepted, fails⟩
    exact decodeWith_of_fails long fits cut fails accepted

/-- Where a message is held, every triple is accepted. -/
theorem accepts_of_decodeWith (long : Header.size ≤ data.length)
    (fits : (data.getD 2 0).toNat ≤ hardwareWidth) {items : List Item} {tail : Octets}
    (cut : Cut data items tail) {m : Message} (decoded : decodeWith r data = .ok m) :
    ∀ t ∈ Item.triples items, r.Accepts t := by
  rcases Area.accepts_or_refused r items with
    accepted | ⟨before, t, framed, after, fault, rfl, accepted, refused⟩
  · exact accepted
  · have cut' := cut.trans (Item.write_at before framed after tail)
    have failed := decodeWith_of_fails long fits cut' (.refused framed refused) accepted
    cases decoded.symm.trans failed

/-- How an option area ends, and what stands behind its end, has no influence. -/
theorem decodeWith_ends (r : Registry) {head : Octets} (whole : head.length = Header.size)
    (items : List Item) {tail tail' : Octets} (ends : Area.Ends tail) (ends' : Area.Ends tail') :
    decodeWith r (head ++ (Item.write items ++ tail)) =
      decodeWith r (head ++ (Item.write items ++ tail')) := by
  have long (rest : Octets) : ¬(head ++ rest).length < Header.size :=
    Nat.not_lt_of_le (size_le_append whole rest)
  have area (rest : Octets) : (head ++ rest).drop Header.size = rest := by
    rw [← whole, List.drop_left]
  simp only [decodeWith, if_neg (long _), Header.ofOctets_append whole, area,
    Area.read_write_of_ends items ends, Area.read_write_of_ends items ends']

/-- What stands behind the octet that ends an option area has no influence. -/
theorem decodeWith_behind_end (r : Registry) {head : Octets} (whole : head.length = Header.size)
    (items : List Item) (rest rest' : Octets) :
    decodeWith r (head ++ (Item.write items ++ 255 :: rest)) =
      decodeWith r (head ++ (Item.write items ++ 255 :: rest')) :=
  decodeWith_ends r whole items (.marker rest) (.marker rest')

/-- Decoding follows the grammar of a datagram on every string of octets and for every registry:
a string that is too short for a header fails for that, a hardware length beyond its slot fails
whatever the options are, and otherwise the option area decides. It holds a message exactly if it is
a sequence of items whose triples are all accepted, up to a proper end; the message then has the
header of the datagram, exactly the codes of the triples, and under each code what the last triple
of the code decodes to. It fails exactly with the fault of its leftmost failing item. Octets behind
the one that ends the area have no influence. -/
theorem decodeWith_follows_grammar (r : Registry) (data : Octets) :
    (data.length < 240 → decodeWith r data = .error (.truncated 240 data.length)) ∧
    (240 ≤ data.length → 16 < (data.getD 2 0).toNat →
      decodeWith r data = .error (.invalidHardwareLength (data.getD 2 0))) ∧
    (240 ≤ data.length → (data.getD 2 0).toNat ≤ 16 →
      ((∃ m, decodeWith r data = .ok m) ↔
        ∃ items tail, data.drop 240 = Item.write items ++ tail ∧ Area.Ends tail ∧
          ∀ t ∈ Item.triples items, r.Accepts t) ∧
      (∀ m items tail, decodeWith r data = .ok m → data.drop 240 = Item.write items ++ tail →
        Area.Ends tail →
          m.toHeader = Header.ofOctets data ∧
          (∀ code, (∃ o, m.option? code = some o) ↔ ∃ t ∈ Item.triples items, t.code = code) ∧
          ∀ code t, Area.lastUnder code (Item.triples items) = some t →
            ∃ o, r.decode t.code t.payload = .ok o ∧ m.option? code = some o) ∧
      ∀ fault, decodeWith r data = .error fault ↔
        ∃ items tail, data.drop 240 = Item.write items ++ tail ∧
          (∀ t ∈ Item.triples items, r.Accepts t) ∧ Area.Fails r tail fault) ∧
    ∀ head items rest rest', head.length = 240 →
      decodeWith r (head ++ (Item.write items ++ 255 :: rest)) =
        decodeWith r (head ++ (Item.write items ++ 255 :: rest')) := by
  refine ⟨decodeWith_of_short, decodeWith_of_wide, fun long fits => ⟨?_, ?_, ?_⟩, ?_⟩
  · constructor
    · rintro ⟨m, decoded⟩
      obtain ⟨items, tail, cut, ends, accepted, -, -⟩ := (decodeWith_eq_ok_iff long fits).mp decoded
      exact ⟨items, tail, cut, ends, accepted⟩
    · rintro ⟨items, tail, cut, ends, accepted⟩
      obtain ⟨m, decoded, -, -⟩ := decodeWith_of_ends long fits cut ends accepted
      exact ⟨m, decoded⟩
  · intro m items tail decoded cut ends
    have accepted := accepts_of_decodeWith long fits cut decoded
    obtain ⟨n, decoded', header, found⟩ := decodeWith_of_ends long fits cut ends accepted
    cases decoded.symm.trans decoded'
    have last (code : UInt8) (t : Triple)
        (under : Area.lastUnder code (Item.triples items) = some t) :
        ∃ o, r.decode t.code t.payload = .ok o ∧ m.option? code = some o := by
      obtain ⟨o, made⟩ := accepted t (Area.mem_of_lastUnder under).1
      exact ⟨o, made, by rw [found, under, Option.bind_some, made]; rfl⟩
    refine ⟨header, fun code => ⟨?_, ?_⟩, last⟩
    · rintro ⟨o, here⟩
      obtain ⟨t, under, -⟩ := Option.bind_eq_some_iff.mp ((found code).symm.trans here)
      exact ⟨t, Area.mem_of_lastUnder under⟩
    · rintro ⟨t, mem, rfl⟩
      obtain ⟨u, under⟩ := Area.exists_lastUnder mem
      obtain ⟨o, -, here⟩ := last _ u under
      exact ⟨o, here⟩
  · intro fault
    exact decodeWith_eq_error_iff long fits
  · intro head items rest rest' whole
    exact decodeWith_behind_end r whole items rest rest'

/-- The second of two message types counts, whatever stands behind the end. -/
theorem decodeWith_follows_grammar_twice :
    let data : Octets := List.replicate 240 0 ++ [53, 1, 1, 0, 53, 1, 3, 255, 53]
    ∃ m, decodeWith .standard data = .ok m ∧ m.option? 53 = some (.messageType .request) := by
  intro data
  have cut : data.drop 240 = Item.write [.triple ⟨53, [1]⟩ ⟨by decide, by decide, by decide⟩, .pad,
      .triple ⟨53, [3]⟩ ⟨by decide, by decide, by decide⟩] ++ [255, 53] := by
    rfl
  have discover : Registry.standard.decode 53 [1] = .ok (.messageType .discover) := by
    decide
  have request : Registry.standard.decode 53 [3] = .ok (.messageType .request) := by
    decide
  have accepted : ∀ t ∈ [Triple.mk 53 [1], ⟨53, [3]⟩], Registry.standard.Accepts t :=
    List.forall_mem_cons.mpr ⟨⟨_, discover⟩, List.forall_mem_cons.mpr ⟨⟨_, request⟩, nofun⟩⟩
  obtain ⟨-, -, area, -⟩ := decodeWith_follows_grammar .standard data
  obtain ⟨holds, reads, -⟩ := area (by decide +kernel) (by decide)
  obtain ⟨m, decoded⟩ := holds.mpr ⟨_, _, cut, .marker [53], accepted⟩
  obtain ⟨-, -, last⟩ := reads m _ _ decoded cut (.marker [53])
  obtain ⟨o, made, here⟩ := last 53 ⟨53, [3]⟩ (by decide)
  cases made.symm.trans request
  exact ⟨m, decoded, here⟩

end Dhcp.Message
