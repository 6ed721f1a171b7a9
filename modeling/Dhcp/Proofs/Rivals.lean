import Dhcp.Proofs.Obtaining

/-!
# A client that several servers answer

Every server that hears a client look for one may offer it an address, and all their offers are of
the same transaction as the request that follows and its answer. A client waits for the reply of its
transaction, whatever its type: so an offer that has arrived before the acknowledgement is what the
client takes for the answer to its request.

**The law** (`Client.obtainLease_beside_rivals`): a client leases if no further offer is in front of
the acknowledgement, and has no lease if one is. `Client.obtainLease_lost_to_rival` shows two offers
that arrive together and an acknowledgement that is never read.
-/

namespace Dhcp.Client

/-- Several servers answer a client that looks for servers. If no offer is in front of the
acknowledgement once the first one is taken, the client leases what it says, whatever arrives behind
it. Otherwise the next offer is taken for the answer to the request: the client has no lease,
remembers what it did before, and leaves the other offers and the acknowledgement unread. -/
theorem obtainLease_beside_rivals (c : Client)
    (fits : ∀ t ∈ c.ownTriples, t.payload.length ≤ 255) (network : Network) (xid : UInt32)
    (t : Traffic) {first last : Octets} {offer ack : Message}
    {arrivals early late behind : List Octets}
    (discovered : network t.sent.length (c.discoverPacket xid) = some arrivals)
    (begins : t.inbox ++ arrivals = first :: early) (offered : c.Brings xid .offer first offer)
    (requested : network (t.sent.length + 1) (c.requestPacket offer) =
      some (late ++ last :: behind))
    (rivals : ∀ d ∈ early ++ late, ∃ rival, c.Brings xid .offer d rival)
    (acknowledged : c.Brings xid .ack last ack) :
    let sent := t.sent ++ [c.discoverPacket xid, c.requestPacket offer]
    (early ++ late = [] →
      (c.obtainLease xid).run c network t =
        ((.ok (Lease.ofAck ack),
          c.bound ack.yiaddr (ack.serverIdentifier?.or offer.offeringServer?)), ⟨behind, sent⟩)) ∧
    (early ++ late ≠ [] →
      (c.obtainLease xid).run c network t =
        ((.error (.unexpectedType .ack (some .offer)), c),
          ⟨(early ++ late).tail ++ last :: behind, sent⟩)) := by
  intro sent
  have both : t.sent ++ [c.discoverPacket xid] ++ [c.requestPacket offer] = sent :=
    List.append_assoc ..
  have heard : c.Hears network xid (c.discoverPacket xid) t (.ok offer)
      ⟨early, t.sent ++ [c.discoverPacket xid]⟩ :=
    .waited discovered (begins ▸ offered.waits early)
  have delivered : network (t.sent ++ [c.discoverPacket xid]).length (c.requestPacket offer) =
      some (late ++ last :: behind) := by
    rw [List.length_append, List.length_singleton, requested]
  -- What the second wait finds is the offers that are left, and the acknowledgement behind them.
  have answered {m : Message} {left : List Octets}
      (waits : c.Waits xid (early ++ late ++ last :: behind) (.ok m) left) :
      c.Hears network xid (c.requestPacket offer) ⟨early, t.sent ++ [c.discoverPacket xid]⟩ (.ok m)
        ⟨left, sent⟩ := by
    rw [← both]
    rw [List.append_assoc] at waits
    exact .waited delivered waits
  constructor
  · intro alone
    have waits : c.Waits xid (early ++ late ++ last :: behind) (.ok ack) behind := by
      rw [alone]
      exact acknowledged.waits behind
    exact Leases.run fits (.intro heard offered.typed (answered waits) acknowledged.typed)
  · intro beside
    obtain ⟨d, others, split⟩ := List.exists_cons_of_ne_nil beside
    obtain ⟨rival, brings⟩ := rivals d (split ▸ List.mem_cons_self)
    have waits : c.Waits xid (early ++ late ++ last :: behind) (.ok rival)
        ((early ++ late).tail ++ last :: behind) := by
      rw [split]
      exact brings.waits _
    have fails : c.Fails network xid t (.unexpectedType .ack (some .offer)) _ :=
      .noAck heard offered.typed (answered waits) brings.typed (by decide) (by decide)
    exact fails.run fits

/-- An offer of a second server that arrives behind the acknowledgement stays unread. One that
arrives with the first offer is taken for the answer to the request, and so is one that arrives with
the acknowledgement and in front of it, while a copy of the first offer behind it stays unread. -/
theorem obtainLease_beside_rivals_around :
    let c : Client := { config := { mac := ⟨[2, 0, 0, 0, 0, 1], rfl⟩ } }
    let offer := promise 7 .offer ⟨0xC0A80064⟩ ⟨0xC0A80001⟩
    let rival := promise 7 .offer ⟨0xC0A80065⟩ ⟨0xC0A80002⟩
    let ack := promise 7 .ack ⟨0xC0A80064⟩ ⟨0xC0A80001⟩
    let network (early late behind : List Octets) : Network := fun n _ =>
      if n = 0 then some (offer.octets :: early) else some (late ++ ack.octets :: behind)
    let run (early late behind : List Octets) :=
      (c.obtainLease 7).run c (network early late behind) { inbox := [] }
    c.Brings 7 .offer offer.octets offer ∧ c.Brings 7 .offer rival.octets rival ∧
      c.Brings 7 .ack ack.octets ack ∧
      ∃ sent,
        run [] [] [rival.octets] =
          ((.ok (Lease.ofAck ack), c.bound ⟨0xC0A80064⟩ (some ⟨0xC0A80001⟩)),
            ⟨[rival.octets], sent⟩) ∧
        run [rival.octets] [] [] =
          ((.error (.unexpectedType .ack (some .offer)), c), ⟨[ack.octets], sent⟩) ∧
        run [] [rival.octets, offer.octets] [] =
          ((.error (.unexpectedType .ack (some .offer)), c),
            ⟨[offer.octets, ack.octets], sent⟩) := by
  intro c offer rival ack network run
  have fits : ∀ t ∈ c.ownTriples, t.payload.length ≤ 255 := by decide
  have offered : c.Brings 7 .offer offer.octets offer :=
    c.brings_promise rfl 7 (by decide) ⟨0xC0A80064⟩ ⟨0xC0A80001⟩
  have competing : c.Brings 7 .offer rival.octets rival :=
    c.brings_promise rfl 7 (by decide) ⟨0xC0A80065⟩ ⟨0xC0A80002⟩
  have acknowledged : c.Brings 7 .ack ack.octets ack :=
    c.brings_promise rfl 7 (by decide) ⟨0xC0A80064⟩ ⟨0xC0A80001⟩
  have law (early late behind : List Octets)
      (rivals : ∀ d ∈ early ++ late, ∃ rival, c.Brings 7 .offer d rival) :=
    @obtainLease_beside_rivals c fits (network early late behind) 7 { inbox := [] } offer.octets
      ack.octets offer ack _ early late behind rfl rfl offered rfl rivals acknowledged
  have beside : ∀ d ∈ [rival.octets], ∃ rival, c.Brings 7 .offer d rival :=
    List.forall_mem_singleton.mpr ⟨rival, competing⟩
  have before : ∀ d ∈ [rival.octets, offer.octets], ∃ rival, c.Brings 7 .offer d rival :=
    List.forall_mem_cons.mpr ⟨⟨rival, competing⟩, List.forall_mem_singleton.mpr ⟨offer, offered⟩⟩
  exact ⟨offered, competing, acknowledged, _, (law [] [] [rival.octets] nofun).1 rfl,
    (law [rival.octets] [] [] beside).2 nofun,
    (law [] [rival.octets, offer.octets] [] before).2 nofun⟩

/-- A client that two servers answer at once takes the second offer for the answer to its request,
and has no lease although the server that it chose acknowledges. -/
theorem obtainLease_lost_to_rival :
    let c : Client := { config := { mac := ⟨[2, 0, 0, 0, 0, 1], rfl⟩ } }
    let offer := promise 7 .offer ⟨0xC0A80064⟩ ⟨0xC0A80001⟩
    let rival := promise 7 .offer ⟨0xC0A80065⟩ ⟨0xC0A80002⟩
    let ack := promise 7 .ack ⟨0xC0A80064⟩ ⟨0xC0A80001⟩
    let network : Network := fun n _ =>
      if n = 0 then some [offer.octets, rival.octets] else some [ack.octets]
    c.Brings 7 .offer offer.octets offer ∧ c.Brings 7 .offer rival.octets rival ∧
      c.Brings 7 .ack ack.octets ack ∧ ack.serverIdentifier? = offer.serverIdentifier? ∧
      ((c.obtainLease 7).run c network { inbox := [] }).1 =
        (.error (.unexpectedType .ack (some .offer)), c) := by
  intro c offer rival ack network
  have fits : ∀ t ∈ c.ownTriples, t.payload.length ≤ 255 := by decide
  have offered : c.Brings 7 .offer offer.octets offer :=
    c.brings_promise rfl 7 (by decide) ⟨0xC0A80064⟩ ⟨0xC0A80001⟩
  have competing : c.Brings 7 .offer rival.octets rival :=
    c.brings_promise rfl 7 (by decide) ⟨0xC0A80065⟩ ⟨0xC0A80002⟩
  have acknowledged : c.Brings 7 .ack ack.octets ack :=
    c.brings_promise rfl 7 (by decide) ⟨0xC0A80064⟩ ⟨0xC0A80001⟩
  let between : Traffic := ⟨[rival.octets], [c.discoverPacket 7]⟩
  have heard : c.Hears network 7 (c.discoverPacket 7) { inbox := [] } (.ok offer) between :=
    .waited rfl (offered.waits [rival.octets])
  have answered : c.Hears network 7 (c.requestPacket offer) between (.ok rival) _ :=
    .waited rfl (competing.waits [ack.octets])
  have fails : c.Fails network 7 { inbox := [] } (.unexpectedType .ack (some .offer)) _ :=
    .noAck heard offered.typed answered competing.typed (by decide) (by decide)
  exact ⟨offered, competing, acknowledged, rfl, congrArg Prod.fst (fails.run fits)⟩

end Dhcp.Client
