import Dhcp.Proofs.MessageGrammar
import Dhcp.Proofs.Overlay

/-!
# The order of options

A message is a map from codes to options, so it does not remember in which order its options came.
On the way in, options with codes of their own may be put in in any order; on the wire, their
triples may stand in any order, with pads between them and with either end.

Options that share a code are another matter, since the last of them wins; so both halves of the law
ask for distinct codes.

**The law** (`order_immaterial`): two orders of the same options give the same message, and so the
same datagram, and two datagrams with the same header and the same triples hold the same message.
-/

namespace Dhcp.Message

/-- The order in which options with codes of their own are put in does not matter. -/
theorem withOptions_perm (m : Message) {os ps : List Opt} (same : os.Perm ps)
    (distinct : Options.Distinct os) : m.withOptions os = m.withOptions ps := by
  apply eq_of_option?
  · rw [toHeader_withOptions, toHeader_withOptions]
  · intro code
    rw [option?_withOptions, option?_withOptions, Opt.lastUnder_perm distinct same]

section Areas

variable {r : Registry} {head : Octets} {items : List Item} {tail : Octets}

/-- The message that a header and an area of accepted triples with distinct codes hold: it has the
header, and under each code what the triple of the code decodes to. -/
theorem decodeWith_of_distinct (whole : head.length = Header.size)
    (fits : (head.getD 2 0).toNat ≤ hardwareWidth)
    (distinct : (Item.triples items).Pairwise fun t u => t.code ≠ u.code)
    (accepted : ∀ t ∈ Item.triples items, r.Accepts t) (ends : Area.Ends tail) :
    ∃ m, decodeWith r (head ++ (Item.write items ++ tail)) = .ok m ∧
      m.toHeader = Header.ofOctets head ∧
      ∀ code o, m.option? code = some o ↔
        ∃ t ∈ Item.triples items, t.code = code ∧ r.decode t.code t.payload = .ok o := by
  obtain ⟨m, decoded, header, found⟩ := decodeWith_of_ends (size_le_append whole _)
    (hlen_append whole _ ▸ fits) (cut_append whole items tail) ends accepted
  refine ⟨m, decoded, header.trans (Header.ofOctets_append whole _), fun code o => ?_⟩
  rw [found, Option.bind_eq_some_iff]
  constructor
  · rintro ⟨t, last, made⟩
    obtain ⟨mem, under⟩ := (Area.lastUnder_eq_some_iff distinct).mp last
    obtain ⟨p, made'⟩ := accepted t mem
    rw [made'] at made
    cases made
    exact ⟨t, mem, under, made'⟩
  · rintro ⟨t, mem, under, made⟩
    refine ⟨t, (Area.lastUnder_eq_some_iff distinct).mpr ⟨mem, under⟩, ?_⟩
    rw [made]
    rfl

end Areas

/-- The order of options is never significant. On the way in, two orders of the same options with
distinct codes give the same message from every message, and so the same datagram or the same fault.
On the wire, every registry reads the same message of two datagrams with the same header, whose
areas consist of the same accepted triples with distinct codes in any two orders, with any pads
before, between and behind them, and with an end of either kind: the one with the header, and with
what each triple decodes to under the code of the triple. -/
theorem order_immaterial :
    (∀ (m : Message) (os ps : List Opt), os.Perm ps →
      (os.Pairwise fun o p => o.code ≠ p.code) →
        m.withOptions os = m.withOptions ps ∧
          (m.withOptions os).encode = (m.withOptions ps).encode) ∧
    ∀ (r : Registry) (head : Octets) (items items' : List Item) (tail tail' : Octets),
      head.length = 240 → (head.getD 2 0).toNat ≤ 16 →
      (Item.triples items).Perm (Item.triples items') →
      ((Item.triples items).Pairwise fun t u => t.code ≠ u.code) →
      (∀ t ∈ Item.triples items, r.Accepts t) → Area.Ends tail → Area.Ends tail' →
        ∃ m, decodeWith r (head ++ (Item.write items ++ tail)) = .ok m ∧
          decodeWith r (head ++ (Item.write items' ++ tail')) = .ok m ∧
          m.toHeader = Header.ofOctets head ∧
          ∀ code o, m.option? code = some o ↔
            ∃ t ∈ Item.triples items, t.code = code ∧ r.decode t.code t.payload = .ok o := by
  refine ⟨fun m os ps same distinct => ?_, ?_⟩
  · have equal := withOptions_perm m same distinct
    exact ⟨equal, congrArg Message.encode equal⟩
  · intro r head items items' tail tail' whole fits same distinct accepted ends ends'
    have distinct' := same.pairwise distinct fun apart => apart.symm
    have accepted' : ∀ t ∈ Item.triples items', r.Accepts t := fun t mem =>
      accepted t (same.mem_iff.mpr mem)
    obtain ⟨m, decoded, header, found⟩ :=
      decodeWith_of_distinct whole fits distinct accepted ends
    obtain ⟨n, decoded', header', found'⟩ :=
      decodeWith_of_distinct whole fits distinct' accepted' ends'
    have equal : n = m := by
      apply eq_of_option? (header'.trans header.symm)
      intro code
      ext o
      simp only [found, found', same.mem_iff]
    exact ⟨m, decoded, equal ▸ decoded', header, found⟩

/-- A host name and a message type in both orders: put into a message that has a host name already,
and on the wire, once with pads and up to the end of the data, once without and with octets behind
the end. -/
theorem order_immaterial_swapped :
    let name := Opt.text .hostName "h"
    let type := Opt.messageType .offer
    let m := (new .bootReply 7).withHostName "old"
    let head : Octets := List.replicate 240 0
    m.withOptions [name, type] = m.withOptions [type, name] ∧
      ∃ n, decodeWith .standard (head ++ [0, 12, 1, 104, 0, 0, 53, 1, 2, 0]) = .ok n ∧
        decodeWith .standard (head ++ [53, 1, 2, 12, 1, 104, 255, 9]) = .ok n ∧
        n.option? 12 = some name ∧ n.option? 53 = some type := by
  intro name type m head
  have framed : Triple.Framed ⟨12, [104]⟩ ∧ Triple.Framed ⟨53, [2]⟩ :=
    ⟨⟨by decide, by decide, by decide⟩, ⟨by decide, by decide, by decide⟩⟩
  have named : Registry.standard.decode 12 [104] = .ok name := by decide
  have typed : Registry.standard.decode 53 [2] = .ok type := by decide
  have distinct : [Triple.mk 12 [104], ⟨53, [2]⟩].Pairwise fun t u => t.code ≠ u.code := by decide
  have accepted : ∀ t ∈ [Triple.mk 12 [104], ⟨53, [2]⟩], Registry.standard.Accepts t :=
    List.forall_mem_cons.mpr ⟨⟨_, named⟩, List.forall_mem_cons.mpr ⟨⟨_, typed⟩, nofun⟩⟩
  obtain ⟨builds, reads⟩ := order_immaterial
  obtain ⟨n, decoded, decoded', -, found⟩ := reads .standard head
    [.pad, .triple _ framed.1, .pad, .pad, .triple _ framed.2, .pad]
    [.triple _ framed.2, .triple _ framed.1] [] [255, 9] List.length_replicate (by decide)
    (List.Perm.swap ..) distinct accepted .data (.marker [9])
  refine ⟨(builds m _ _ (List.Perm.swap ..) (by decide)).1, n, decoded, decoded', ?_, ?_⟩
  · exact (found 12 name).mpr ⟨⟨12, [104]⟩, List.mem_cons_self, rfl, named⟩
  · exact (found 53 type).mpr ⟨⟨53, [2]⟩, List.mem_cons_of_mem _ List.mem_cons_self, rfl, typed⟩

end Dhcp.Message
