import Dhcp.Host
import Dhcp.Proofs.Canonical

/-!
# Datagrams that are cut short

A receiver sees only the first octets of a long datagram. Nothing in a header tells how long the
option area is, and an area may end with the data; so a cut between two options goes unnoticed, and
the message is read without the options behind it. A cut anywhere else is noticed, and the fault
tells where it fell. `Glimpse` is the account of all cuts.

That a cut at the end of an option is silent is a fact of the format, and nothing here makes up for
it. What is excluded is that a payload is ever read shorter than it was, or is refused for a shape
that only the cut gave it.

**The law** (`decode_take_encode`): what is read of the first `k` octets of a message that was read
before is what `Glimpse` says at `k`, for every `k`.
-/

namespace Dhcp

/-! ## Triples -/

namespace Area

variable {r : Registry} {t : Triple}

/-- The code of a triple alone has no length behind it. -/
theorem fails_take_one (framed : t.Framed) : Fails r (t.octets.take 1) (.truncated 1 0) :=
  .noLength framed.notPad framed.notEnd

/-- A triple that is cut behind its length misses a part of its payload. -/
theorem fails_take (framed : t.Framed) {i : Nat} (behind : 2 ≤ i) (cut : i < t.octets.length) :
    Fails r (t.octets.take i) (.truncated t.payload.length (i - 2)) := by
  have left : (t.payload.take (i - 2)).length = i - 2 := by
    rw [Triple.length_octets] at cut
    rw [List.length_take]
    omega
  have front : t.octets.take i =
      t.code :: UInt8.ofNat t.payload.length :: t.payload.take (i - 2) := by
    obtain ⟨j, rfl⟩ := Nat.exists_eq_add_of_le' behind
    rfl
  have few : (t.payload.take (i - 2)).length < (UInt8.ofNat t.payload.length).toNat := by
    rw [Triple.length_octets] at cut
    rw [framed.toNat_length, left]
    omega
  have short := Fails.short (r := r) framed.notPad framed.notEnd few
  rw [framed.toNat_length, left, ← front] at short
  exact short

end Area

/-! ## The front of a message -/

/-- The first options of a collection. -/
def Options.front (os : Options) (n : Nat) : Options :=
  ⟨os.toList.take n, os.ascending.sublist (List.take_sublist ..)⟩

namespace Message

variable {m : Message} {r : Registry}

/-- A message with its first options alone. -/
def front (m : Message) (n : Nat) : Message := { m with options := m.options.front n }

/-- Where the triples of the first options of a message end in its datagram: behind the header, each
option takes its code, its length and its payload. -/
def boundary (m : Message) : Nat → Nat
  | 0 => Header.size
  | n + 1 => m.boundary n + m.options.toList[n]?.elim 0 fun o => 2 + o.payload.length

/-- A boundary lies behind the one before it by the triple between them. -/
theorem boundary_succ {n : Nat} (lt : n < m.options.toList.length) :
    m.boundary (n + 1) = m.boundary n + (2 + m.options.toList[n].payload.length) := by
  rw [boundary, List.getElem?_eq_getElem lt]
  rfl

/-- The octets of a message up to a boundary. -/
def lead (m : Message) (n : Nat) : Octets :=
  m.toHeader.octets ++ (m.options.toList.take n).flatMap fun o => o.toTriple.octets

theorem length_lead (m : Message) (n : Nat) : (m.lead n).length = m.boundary n := by
  induction n with
  | zero => exact (congrArg List.length (List.append_nil _)).trans m.toHeader.length_octets
  | succ n ih =>
    have next : m.lead (n + 1) =
        m.lead n ++ m.options.toList[n]?.toList.flatMap fun o => o.toTriple.octets := by
      rw [lead, lead, List.take_add_one, List.flatMap_append, List.append_assoc]
    rw [next, List.length_append, ih, boundary]
    cases m.options.toList[n]? with
    | none => rfl
    | some o =>
      rw [Option.toList_some, List.flatMap_singleton, Triple.length_octets]
      rfl

/-- What is left of a message that is cut behind a boundary. -/
theorem take_octets (m : Message) (n i : Nat) :
    m.octets.take (m.boundary n + i) =
      m.lead n ++
        (((m.options.toList.drop n).flatMap fun o : Opt => o.toTriple.octets) ++ [255]).take i := by
  have whole : m.octets =
      m.lead n ++ (((m.options.toList.drop n).flatMap fun o => o.toTriple.octets) ++ [255]) := by
    rw [lead, List.append_assoc, ← List.append_assoc (List.flatMap ..), ← List.flatMap_append,
      List.take_append_drop]
    rfl
  rw [whole, ← length_lead, List.take_length_add_append]

/-- Behind the last boundary stands the end and nothing else. -/
theorem length_octets (m : Message) :
    m.octets.length = m.boundary m.options.toList.length + 1 := by
  have area := length_lead m m.options.toList.length
  rw [lead, List.take_length, List.length_append] at area
  simp only [octets, List.length_append, List.length_singleton]
  omega

/-! ## What is read -/

/-- What a receiver makes of the first `k` octets of a message. -/
inductive Glimpse (m : Message) : (k : Nat) → Except WireFault Message → Prop
  /-- The header is cut. -/
  | header {k : Nat} (short : k < Header.size) : Glimpse m k (.error (.truncated Header.size k))
  /-- The cut is behind the first options, and nothing tells that there were more. -/
  | between {n : Nat} (le : n ≤ m.options.toList.length) :
      Glimpse m (m.boundary n) (.ok (m.front n))
  /-- Nothing is cut. -/
  | whole : Glimpse m (m.boundary m.options.toList.length + 1) (.ok m)
  /-- The code of an option is left. -/
  | code {n : Nat} (lt : n < m.options.toList.length) :
      Glimpse m (m.boundary n + 1) (.error (.truncated 1 0))
  /-- The code and the length of an option are left, and less than its payload. -/
  | payload {n k : Nat} (lt : n < m.options.toList.length) (behind : m.boundary n + 2 ≤ k)
      (cut : k < m.boundary (n + 1)) :
      Glimpse m k
        (.error (.truncated m.options.toList[n].payload.length (k - m.boundary n - 2)))

/-- Every cut is one of these. -/
theorem exists_glimpse {k : Nat} (seen : k ≤ m.boundary m.options.toList.length + 1) :
    ∃ result, m.Glimpse k result := by
  -- Boundaries ascend, so the first one that is not before the cut tells which case it is.
  have upTo (n : Nat) (le : n ≤ m.options.toList.length) (cut : k ≤ m.boundary n) :
      ∃ result, m.Glimpse k result := by
    induction n with
    | zero =>
      rcases Nat.lt_or_eq_of_le cut with short | same
      · exact ⟨_, .header short⟩
      · rw [same]
        exact ⟨_, .between le⟩
    | succ n ih =>
      rcases Nat.lt_or_ge (m.boundary n) k with behind | before
      · rcases Nat.lt_or_eq_of_le cut with cut | same
        · rcases Nat.lt_or_eq_of_le (Nat.succ_le_of_lt behind) with further | same
          · exact ⟨_, .payload le further cut⟩
          · rw [← same]
            exact ⟨_, .code le⟩
        · rw [same]
          exact ⟨_, .between le⟩
      · exact ih (Nat.le_of_succ_le le) before
  rcases Nat.lt_or_eq_of_le seen with cut | same
  · exact upTo _ (Nat.le_refl _) (Nat.le_of_lt_succ cut)
  · rw [same]
    exact ⟨_, .whole⟩

namespace Settled

variable (settled : m.Settled r)

include settled

/-- The first options of a settled message make up a settled message. -/
theorem front (n : Nat) : (m.front n).Settled r := by
  have kept {o : Opt} (mem : o ∈ (m.front n).options.toList) : o ∈ m.options.toList :=
    List.mem_of_mem_take mem
  exact ⟨settled.header, settled.fits, fun o mem => settled.writable o (kept mem),
    fun o mem => settled.unframed o (kept mem), fun o mem => settled.kept o (kept mem)⟩

theorem framed {o : Opt} (mem : o ∈ m.options.toList) : o.toTriple.Framed :=
  ⟨(settled.unframed o mem).1, (settled.unframed o mem).2, (settled.writable o mem).fits⟩

/-- Behind the header, a message up to a boundary consists of items that are all accepted. -/
theorem exists_items_lead (n : Nat) :
    ∃ items, m.lead n = m.toHeader.octets ++ Item.write items ∧
      ∀ t ∈ Item.triples items, r.Accepts t := by
  have front := settled.front n
  obtain ⟨items, write, triples⟩ := exists_items_of_options front.writable front.unframed
  refine ⟨items, by rw [write]; rfl, ?_⟩
  rw [triples]
  exact List.forall_mem_map.mpr fun o mem => ⟨o, front.kept o mem⟩

/-- A message up to a boundary is read with its first options. -/
theorem decodeWith_lead (n : Nat) : decodeWith r (m.lead n) = .ok (m.front n) := by
  obtain ⟨items, lead, -⟩ := settled.exists_items_lead n
  have ended : (m.front n).octets = m.toHeader.octets ++ (Item.write items ++ [255]) := by
    rw [← List.append_assoc, ← lead, Message.lead, List.append_assoc]
    rfl
  calc decodeWith r (m.lead n)
      = decodeWith r (m.toHeader.octets ++ (Item.write items ++ [])) := by
        rw [lead, List.append_nil]
    _ = decodeWith r (m.toHeader.octets ++ (Item.write items ++ [255])) :=
        decodeWith_ends r m.toHeader.length_octets items .data (.marker [])
    _ = .ok (m.front n) := by rw [← ended, (settled.front n).decodeWith_octets]

/-- A message up to a boundary with something behind it that fails is refused for that. -/
theorem decodeWith_lead_append {n : Nat} {tail : Octets} {fault : WireFault}
    (fails : Area.Fails r tail fault) : decodeWith r (m.lead n ++ tail) = .error fault := by
  obtain ⟨items, lead, accepted⟩ := settled.exists_items_lead n
  have whole := m.toHeader.length_octets
  have hlen : (m.toHeader.octets ++ (Item.write items ++ tail)).getD 2 0 = m.hlen := by
    rw [← Header.hlen_ofOctets, Header.ofOctets_octets]
    rfl
  rw [lead, List.append_assoc]
  exact decodeWith_of_fails (size_le_append whole _) (hlen ▸ settled.fits)
    (cut_append whole items tail) fails accepted

/-- What is left of the option behind a boundary fails if it is cut. -/
theorem decodeWith_take_of_fails {n i : Nat} (lt : n < m.options.toList.length)
    (cut : i ≤ m.options.toList[n].toTriple.octets.length) {fault : WireFault}
    (fails : Area.Fails r (m.options.toList[n].toTriple.octets.take i) fault) :
    decodeWith r (m.octets.take (m.boundary n + i)) = .error fault := by
  rw [take_octets, List.drop_eq_getElem_cons lt, List.flatMap_cons, List.append_assoc,
    List.take_append_of_le_length cut]
  exact settled.decodeWith_lead_append fails

/-- A receiver makes of the first octets of a settled message what the account says. -/
theorem decodeWith_take {k : Nat} {result : Except WireFault Message}
    (glimpse : m.Glimpse k result) : decodeWith r (m.octets.take k) = result := by
  cases glimpse with
  | header short =>
    have long := size_le_octets m
    have left : (m.octets.take k).length = k := by
      rw [List.length_take]
      omega
    rw [decodeWith_of_short (by omega), left]
  | @between n le =>
    have left := take_octets m n 0
    rw [Nat.add_zero, List.take_zero, List.append_nil] at left
    rw [left, settled.decodeWith_lead]
  | whole => rw [← length_octets, List.take_length, settled.decodeWith_octets]
  | @code n lt =>
    have framed := settled.framed (List.getElem_mem lt)
    have length := Triple.length_octets m.options.toList[n].toTriple
    exact settled.decodeWith_take_of_fails lt (by omega) (Area.fails_take_one framed)
  | @payload n _ lt behind cut =>
    have framed := settled.framed (List.getElem_mem lt)
    have length := Triple.length_octets m.options.toList[n].toTriple
    obtain ⟨i, rfl⟩ := Nat.exists_eq_add_of_le (Nat.le_of_add_right_le behind)
    have inside : i < m.options.toList[n].toTriple.octets.length := by
      rw [boundary_succ lt] at cut
      show i < _
      rw [length]
      show i < 2 + m.options.toList[n].payload.length
      omega
    rw [Nat.add_sub_cancel_left]
    exact settled.decodeWith_take_of_fails lt (Nat.le_of_lt inside)
      (Area.fails_take framed (by omega) inside)

end Settled

/-- Of a cut message, no payload is refused for its shape. -/
theorem Glimpse.ne_malformed {k : Nat} {result : Except WireFault Message}
    (glimpse : m.Glimpse k result) (code : UInt8) (defect : Defect) :
    result ≠ .error (.malformedOption code defect) := by
  cases glimpse <;> simp

/-- What is read of a cut message has its header and no option that the message has not. -/
theorem Glimpse.of_ok {k : Nat} {n : Message} (glimpse : m.Glimpse k (.ok n)) :
    n.toHeader = m.toHeader ∧ ∀ o ∈ n.options.toList, o ∈ m.options.toList := by
  cases glimpse with
  | between le => exact ⟨rfl, fun _ => List.mem_of_mem_take⟩
  | whole => exact ⟨rfl, fun _ => id⟩

/-- A message that was read is written, and what is read of the first octets of the datagram, for
every number of them, is exactly what the account says: a header that is cut is too short; behind
the first options the message is read with these options alone; the whole datagram is read as the
message; and an option that is cut is missed, with no length if only its code is left, and with the
octets that are left of its payload otherwise. This also goes for what a receiver sees of the
datagram. A payload is never refused for its shape, and no option is read that was not there. -/
theorem decode_take_encode {data : Octets} {m : Message} (decoded : decode data = .ok m) :
    ∃ e, m.encode = .ok e ∧ e.length = m.boundary m.options.toList.length + 1 ∧
      (∀ k ≤ e.length,
        (∀ result, decode (e.take k) = result ↔ m.Glimpse k result) ∧
        (∀ code defect, decode (e.take k) ≠ .error (.malformedOption code defect)) ∧
        ∀ n, decode (e.take k) = .ok n →
          n.toHeader = m.toHeader ∧ ∀ o ∈ n.options.toList, o ∈ m.options.toList) ∧
      ∀ result, decode (received e) = result ↔ m.Glimpse (min 2048 e.length) result := by
  have settled := settled_of_decodeWith Registry.faithful_standard decoded
  have read (k : Nat) (seen : k ≤ m.octets.length) : m.Glimpse k (decode (m.octets.take k)) := by
    rw [length_octets] at seen
    obtain ⟨result, glimpse⟩ := exists_glimpse seen
    have same : decode (m.octets.take k) = result := settled.decodeWith_take glimpse
    exact same ▸ glimpse
  have reads (k : Nat) (seen : k ≤ m.octets.length) (result : Except WireFault Message) :
      decode (m.octets.take k) = result ↔ m.Glimpse k result :=
    ⟨fun same => same ▸ read k seen, settled.decodeWith_take⟩
  refine ⟨m.octets, settled.encode, length_octets m, fun k seen => ⟨reads k seen, ?_, ?_⟩, ?_⟩
  · exact (read k seen).ne_malformed
  · intro n same
    exact ((reads k seen _).mp same).of_ok
  · have seen : received m.octets = m.octets.take (min 2048 m.octets.length) :=
      List.take_eq_take_min
    rw [seen]
    exact reads _ (Nat.min_le_right ..)

/-- A host name and a message type: the type is lost without a trace if the cut is right in front of
it, and the host name is not read as a shorter one. -/
theorem decode_take_encode_hostName :
    let data : Octets := List.replicate 240 0 ++ [12, 2, 104, 105, 53, 1, 2, 255]
    ∃ m e, decode data = .ok m ∧ m.encode = .ok e ∧ m.option? 53 = some (.messageType .offer) ∧
      decode (e.take 243) = .error (.truncated 2 1) ∧
      decode (e.take 244) = .ok (m.front 1) ∧ (m.front 1).option? 53 = none ∧
      decode (e.take 245) = .error (.truncated 1 0) := by
  intro data
  let m : Message :=
    { Header.ofOctets data with
      options := (Options.empty.insert (.text .hostName "hi")).insert (.messageType .offer) }
  have decoded : decode data = .ok m := by decide +kernel
  obtain ⟨e, written, length, reads, -⟩ := decode_take_encode decoded
  have two : m.options.toList.length = 2 := rfl
  have first : m.boundary 1 = 244 := by decide
  have second : m.boundary 2 = 247 := by decide
  rw [two, second] at length
  have seen (k : Nat) (le : k ≤ 248) (result : Except WireFault Message)
      (glimpse : m.Glimpse k result) : decode (e.take k) = result :=
    ((reads k (by omega)).1 result).mpr glimpse
  refine ⟨m, e, decoded, written, by decide, seen 243 (by decide) _ ?_, seen 244 (by decide) _ ?_,
    by decide, seen 245 (by decide) _ ?_⟩
  · exact .payload (n := 0) (by decide) (by decide) (by decide)
  · exact first ▸ .between (n := 1) (by decide)
  · show m.Glimpse (244 + 1) _
    exact first ▸ .code (n := 1) (by decide)

end Message

end Dhcp
