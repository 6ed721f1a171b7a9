import Dhcp.Proofs.ClientMessage
import Dhcp.Proofs.Inbox
import Dhcp.Proofs.Link

/-!
# What obtaining a lease comes to

A client that obtains a lease waits twice at one inbox: for an offer, and for the answer to its
request. `Client.Leases` says of which traffic it leases, and `Client.Fails` says what goes wrong in
any other; both speak of what the two waits come to and not of the steps of the client.

**The law** (`Client.obtainLease_decided`): every traffic is of one of the two kinds, a client that
leases remembers the address and the server, and one that does not remembers what it did before.
-/

namespace Dhcp

/-- A lease holds what an acknowledgement says: its address, and the values of those of its options
that have their formats. -/
structure Lease.ReadFrom (lease : Lease) (ack : Message) : Prop where
  address : ack.yiaddr = lease.address
  subnetMask : ∀ a, Opt.address .subnetMask a ∈ ack.options.toList ↔ lease.subnetMask = some a
  routers : ∀ as, Opt.addresses .router as ∈ ack.options.toList ↔ lease.routers = some as
  nameServers : ∀ as,
    Opt.addresses .domainNameServer as ∈ ack.options.toList ↔ lease.nameServers = some as
  duration : ∀ t, (∃ s, Opt.seconds .leaseTime s ∈ ack.options.toList ∧ .ofSeconds s.toNat = t) ↔
    lease.duration = some t
  renewalTime : ∀ t,
    (∃ s, Opt.seconds .renewalTime s ∈ ack.options.toList ∧ .ofSeconds s.toNat = t) ↔
      lease.renewalTime = some t
  rebindingTime : ∀ t,
    (∃ s, Opt.seconds .rebindingTime s ∈ ack.options.toList ∧ .ofSeconds s.toNat = t) ↔
      lease.rebindingTime = some t
  serverIdentifier : ∀ a,
    Opt.address .serverIdentifier a ∈ ack.options.toList ↔ lease.serverIdentifier = some a

/-- The lease that a client makes of an acknowledgement is the one that holds what it says. -/
theorem Lease.readFrom_iff {lease : Lease} {ack : Message} :
    lease.ReadFrom ack ↔ ofAck ack = lease := by
  rw [ofAck_eq_iff]
  constructor
  · rintro ⟨address, mask, routers, names, duration, renewal, rebinding, server⟩
    exact ⟨address, mask, routers, names, duration, renewal, rebinding, server⟩
  · rintro ⟨address, mask, routers, names, duration, renewal, rebinding, server⟩
    exact ⟨address, mask, routers, names, duration, renewal, rebinding, server⟩

namespace Message

/-- The type of a message, if it has one: the one that stands among its options. -/
def HasType (m : Message) (type? : Option MessageType) : Prop :=
  ∀ type, Opt.messageType type ∈ m.options.toList ↔ type? = some type

/-- The type that is read is the one that a message has. -/
theorem hasType_iff {m : Message} {type? : Option MessageType} :
    m.HasType type? ↔ m.messageType? = type? := by
  rw [HasType, Option.ext_iff]
  simp only [messageType?_eq_some_iff]

/-- The server that an offer comes from, if that is known: the one that its options name, else the
one in its header. -/
inductive ComesFrom (offer : Message) : Option Ipv4 → Prop
  | named {server : Ipv4} (mem : Opt.address .serverIdentifier server ∈ offer.options.toList) :
      ComesFrom offer (some server)
  | header (unnamed : ∀ server, Opt.address .serverIdentifier server ∉ offer.options.toList)
      (real : offer.siaddr ≠ .unspecified) : ComesFrom offer (some offer.siaddr)
  | unknown (unnamed : ∀ server, Opt.address .serverIdentifier server ∉ offer.options.toList)
      (absent : offer.siaddr = .unspecified) : ComesFrom offer none

/-- A client takes an offer to come from the server that it comes from. -/
theorem comesFrom_iff {offer : Message} {server? : Option Ipv4} :
    offer.ComesFrom server? ↔ offer.offeringServer? = server? := by
  have unnamed : offer.serverIdentifier? = none ↔
      ∀ server, Opt.address .serverIdentifier server ∉ offer.options.toList := by
    simp only [Option.eq_none_iff_forall_ne_some, ne_eq, serverIdentifier?_eq_some_iff]
  constructor
  · rintro (mem | ⟨none, real⟩ | ⟨none, absent⟩)
    · rw [offeringServer?, offer.serverIdentifier?_eq_some_iff.mpr mem]
    · rw [offeringServer?, unnamed.mpr none]
      exact if_neg real
    · rw [offeringServer?, unnamed.mpr none]
      exact if_pos absent
  · rintro rfl
    unfold offeringServer?
    cases identifier : offer.serverIdentifier? with
    | some server => exact .named (offer.serverIdentifier?_eq_some_iff.mp identifier)
    | none =>
      by_cases absent : offer.siaddr = .unspecified
      · rw [if_pos absent]
        exact .unknown (unnamed.mp identifier) absent
      · rw [if_neg absent]
        exact .header (unnamed.mp identifier) absent

/-- The reason that a refusal gives: the text among its options, or none at all. -/
inductive GivesReason (nak : Message) : String → Prop
  | told {reason : String} (mem : Opt.text .message reason ∈ nak.options.toList) :
      GivesReason nak reason
  | untold (silent : ∀ text, Opt.text .message text ∉ nak.options.toList) : GivesReason nak ""

/-- A client reports the reason that a refusal gives. -/
theorem givesReason_iff {nak : Message} {reason : String} :
    nak.GivesReason reason ↔ nak.noticeText?.getD "" = reason := by
  constructor
  · rintro (mem | silent)
    · rw [nak.noticeText?_eq_some_iff.mpr mem, Option.getD_some]
    · have none : nak.noticeText? = none := by
        simpa only [Option.eq_none_iff_forall_ne_some, ne_eq, noticeText?_eq_some_iff] using silent
      rw [none, Option.getD_none]
  · rintro rfl
    cases notice : nak.noticeText? with
    | some text => exact .told (nak.noticeText?_eq_some_iff.mp notice)
    | none =>
      refine .untold fun text mem => ?_
      cases notice.symm.trans (nak.noticeText?_eq_some_iff.mpr mem)

end Message

namespace Client

variable (c : Client) (network : Network) (xid : UInt32)

/-! ## One exchange -/

/-- What becomes of a packet that is sent for the reply of a transaction: the host cannot send it,
or the client waits among what is in its inbox and what arrives. -/
inductive Hears (p : Packet) (t : Traffic) : Except Fault Message → Traffic → Prop
  | unsent (refused : network t.sent.length p = none) : Hears p t (.error .io) t
  | waited {arrivals left : List Octets} {result : Except Fault Message}
      (delivered : network t.sent.length p = some arrivals)
      (waits : c.Waits xid (t.inbox ++ arrivals) result left) :
      Hears p t result ⟨left, t.sent ++ [p]⟩

variable {c network xid}

/-- Something always becomes of a packet. -/
theorem exists_hears (p : Packet) (t : Traffic) :
    ∃ result t', c.Hears network xid p t result t' := by
  cases delivered : network t.sent.length p with
  | none => exact ⟨_, _, .unsent delivered⟩
  | some arrivals =>
    obtain ⟨result, left, waits⟩ := c.exists_waits xid (t.inbox ++ arrivals)
    exact ⟨result, _, .waited delivered waits⟩

/-- A client that exchanges a message which travels comes to what is heard of it. -/
theorem Hears.exchange {m : Message} {target : Endpoint} {t t' : Traffic}
    {result : Except Fault Message} (travels : m.Travels 7)
    (hears : c.Hears network m.xid ⟨target, m.octets⟩ t result t') :
    c.exchange network target m t = (result, t') := by
  rw [exchange_travelling travels]
  cases hears with
  | unsent refused => rw [refused]
  | waited delivered waits => simp only [delivered, waits.receive]

/-- An operation whose message is planned is an exchange of that message. -/
theorem run_perform_of_plan (c : Client) (network : Network) (t : Traffic) {op : Operation}
    {fresh : UInt32} {target : Endpoint} {m : Message}
    (plan : c.plan op fresh = .ok (target, m)) :
    (c.perform op fresh).run c network t = c.exchange network target m t := by
  rw [perform, plan]
  rfl

/-- An operation whose texts and lists fit options comes to what is heard of its packet. -/
theorem Hears.perform {op : Operation} {fresh : UInt32} {target : Endpoint} {m : Message}
    {t t' : Traffic} {result : Except Fault Message} (plan : c.plan op fresh = .ok (target, m))
    (tells : c.Tells op fresh m) (fits : ∀ t ∈ c.carries op, t.payload.length ≤ 255)
    (hears : c.Hears network (op.transaction fresh) ⟨target, m.octets⟩ t result t') :
    (c.perform op fresh).run c network t = (result, t') := by
  have same : m.xid = op.transaction fresh := by
    rw [tells.header]
    rfl
  rw [c.run_perform_of_plan network t plan]
  apply Hears.exchange (tells.travels fits)
  rw [same]
  exact hears

/-- What is heard is a reply of the transaction, and the packet was sent. -/
theorem Hears.reply_of_ok {p : Packet} {m : Message} {t t' : Traffic}
    (hears : c.Hears network xid p t (.ok m) t') :
    m.op = .bootReply ∧ m.xid = xid ∧ t'.sent = t.sent ++ [p] := by
  cases hears with
  | waited delivered waits =>
    obtain ⟨answers, same⟩ := waits.reply_of_ok
    exact ⟨answers, same, rfl⟩

/-! ## The two packets -/

variable (c xid)

/-- The packet that looks for servers. -/
def discoverPacket : Packet :=
  ⟨c.broadcastTarget, (c.announce (c.identify (Message.discover xid))).octets⟩

/-- The packet that asks for the address of an offer. -/
def requestPacket (offer : Message) : Packet := ⟨c.broadcastTarget, (c.requestFor offer).octets⟩

/-- A packet asks every server, in a transaction, for the address of an offer, and names the server
that the offer comes from, if that is known. -/
structure AsksFor (offer : Message) (server? : Option Ipv4) (p : Packet) : Prop where
  target : p.target = .v4 ⟨c.config.broadcastAddress, c.config.serverPort⟩
  message : ∃ m, Message.decode p.data = .ok m ∧ m.op = .bootRequest ∧ m.xid = xid ∧
    Opt.messageType .request ∈ m.options.toList ∧
    (∀ addr, Opt.address .requestedAddress addr ∈ m.options.toList ↔ addr = offer.yiaddr) ∧
    ∀ server, Opt.address .serverIdentifier server ∈ m.options.toList ↔ server? = some server

theorem tells_discover :
    c.Tells .discover xid (c.announce (c.identify (Message.discover xid))) := by
  obtain ⟨target, m, plan, tells⟩ := exists_plan (c := c) .discover xid trivial
  cases plan
  exact tells

theorem tells_request (offer : Message) : c.Tells (.request offer) xid (c.requestFor offer) := by
  obtain ⟨target, m, plan, tells⟩ := exists_plan (c := c) (.request offer) xid trivial
  cases plan
  exact tells

variable {c xid}

/-- The packet that a client sends for an offer asks for its address. -/
theorem asksFor_requestPacket (fits : ∀ t ∈ c.ownTriples, t.payload.length ≤ 255)
    {offer : Message} (same : offer.xid = xid) {server? : Option Ipv4}
    (origin : offer.ComesFrom server?) : c.AsksFor xid offer server? (c.requestPacket offer) := by
  obtain rfl := Message.comesFrom_iff.mp origin
  have tells := c.tells_request xid offer
  have travels : (c.requestFor offer).Travels 7 := tells.travels fits
  have read := travels.decodeWith_received
  rw [travels.received] at read
  refine ⟨rfl, c.requestFor offer, read, tells.asks, ?_, ?_, ?_, ?_⟩
  · rw [tells.header]
    exact same
  · exact tells.mem_options_iff.mpr List.mem_cons_self
  · intro addr
    rw [tells.mem_options_iff]
    simp [puts, directed, said, announced, Opt.identifierOfMac]
  · intro server
    rw [tells.mem_options_iff]
    simp [puts, directed, said, announced, Opt.identifierOfMac]

/-! ## Settling -/

/-- The client that holds an address, and remembers a server if it has learned one. -/
def bound (c : Client) (addr : Ipv4) (server? : Option Ipv4) : Client :=
  { c with
    config := { c.config with clientAddress := some addr, server := server?.or c.config.server } }

/-- The server of a lease is the one that the acknowledgement names. -/
theorem serverIdentifier_ofAck (ack : Message) :
    (Lease.ofAck ack).serverIdentifier = ack.serverIdentifier? := by
  ext server
  rw [Message.serverIdentifier?_eq_some_iff]
  exact Options.findSome?_addressOf_iff ..

/-- A client settles on the lease of an acknowledgement. -/
theorem settle_of_ack (c : Client) (offer : Message) {ack : Message}
    (typed : ack.messageType? = some .ack) :
    c.settle offer ack = .ok (Lease.ofAck ack,
      c.bound ack.yiaddr (ack.serverIdentifier?.or offer.offeringServer?)) := by
  simp only [settle, typed, serverIdentifier_ofAck]
  cases ack.serverIdentifier?.or offer.offeringServer? <;> rfl

/-- A client is refused for the reason that the refusal gives. -/
theorem settle_of_nak (c : Client) (offer : Message) {nak : Message}
    (typed : nak.messageType? = some .nak) :
    c.settle offer nak = .error (.refused (nak.noticeText?.getD "")) := by
  simp only [settle, typed]

/-- A client does not settle on a message of another type. -/
theorem settle_of_other (c : Client) (offer : Message) {m : Message}
    (noAck : m.messageType? ≠ some .ack) (noNak : m.messageType? ≠ some .nak) :
    c.settle offer m = .error (.unexpectedType .ack m.messageType?) := by
  unfold settle
  split
  next typed => exact absurd typed noAck
  next typed => exact absurd typed noNak
  next => rfl

/-! ## Two exchanges -/

/-- The traffic of which a client leases: the wait after looking for servers ends in an offer, and
the wait after asking for its address ends in an acknowledgement. -/
inductive Leases (c : Client) (network : Network) (xid : UInt32) (t : Traffic)
    (offer ack : Message) (t' : Traffic) : Prop
  | intro {t₁ : Traffic}
      (offered : c.Hears network xid (c.discoverPacket xid) t (.ok offer) t₁)
      (isOffer : offer.HasType (some .offer))
      (answered : c.Hears network xid (c.requestPacket offer) t₁ (.ok ack) t')
      (isAck : ack.HasType (some .ack))

/-- What goes wrong in any other traffic. -/
inductive Fails (c : Client) (network : Network) (xid : UInt32) (t : Traffic) :
    Fault → Traffic → Prop
  | noReply {fault : Fault} {t' : Traffic}
      (heard : c.Hears network xid (c.discoverPacket xid) t (.error fault) t') :
      Fails c network xid t fault t'
  | noOffer {m : Message} {type? : Option MessageType} {t' : Traffic}
      (heard : c.Hears network xid (c.discoverPacket xid) t (.ok m) t')
      (typed : m.HasType type?) (other : type? ≠ some .offer) :
      Fails c network xid t (.unexpectedType .offer type?) t'
  | noAnswer {offer : Message} {fault : Fault} {t₁ t' : Traffic}
      (offered : c.Hears network xid (c.discoverPacket xid) t (.ok offer) t₁)
      (isOffer : offer.HasType (some .offer))
      (heard : c.Hears network xid (c.requestPacket offer) t₁ (.error fault) t') :
      Fails c network xid t fault t'
  | refused {offer nak : Message} {t₁ t' : Traffic}
      (offered : c.Hears network xid (c.discoverPacket xid) t (.ok offer) t₁)
      (isOffer : offer.HasType (some .offer))
      (heard : c.Hears network xid (c.requestPacket offer) t₁ (.ok nak) t')
      (isNak : nak.HasType (some .nak)) {reason : String} (gives : nak.GivesReason reason) :
      Fails c network xid t (.refused reason) t'
  | noAck {offer m : Message} {type? : Option MessageType} {t₁ t' : Traffic}
      (offered : c.Hears network xid (c.discoverPacket xid) t (.ok offer) t₁)
      (isOffer : offer.HasType (some .offer))
      (heard : c.Hears network xid (c.requestPacket offer) t₁ (.ok m) t')
      (typed : m.HasType type?) (noAck : type? ≠ some .ack) (noNak : type? ≠ some .nak) :
      Fails c network xid t (.unexpectedType .ack type?) t'

/-- There is no third kind of traffic. -/
theorem leases_or_fails (c : Client) (network : Network) (xid : UInt32) (t : Traffic) :
    (∃ offer ack t', c.Leases network xid t offer ack t') ∨
      ∃ fault t', c.Fails network xid t fault t' := by
  obtain ⟨first, t₁, offered⟩ := exists_hears (c.discoverPacket xid) t
  cases first with
  | error fault => exact .inr ⟨fault, t₁, .noReply offered⟩
  | ok offer =>
    have typed : offer.HasType offer.messageType? := Message.hasType_iff.mpr rfl
    by_cases isOffer : offer.messageType? = some .offer
    · rw [isOffer] at typed
      obtain ⟨second, t₂, answered⟩ := exists_hears (c.requestPacket offer) t₁
      cases second with
      | error fault => exact .inr ⟨fault, t₂, .noAnswer offered typed answered⟩
      | ok m =>
        by_cases isAck : m.messageType? = some .ack
        · exact .inl ⟨offer, m, t₂,
            .intro offered typed answered (Message.hasType_iff.mpr isAck)⟩
        · by_cases isNak : m.messageType? = some .nak
          · exact .inr ⟨_, t₂, .refused offered typed answered (Message.hasType_iff.mpr isNak)
              (Message.givesReason_iff.mpr rfl)⟩
          · exact .inr ⟨_, t₂,
              .noAck offered typed answered (Message.hasType_iff.mpr rfl) isAck isNak⟩
    · exact .inr ⟨_, t₁, .noOffer offered typed isOffer⟩

/-! ## The steps of the client -/

section Steps

variable {c after : Client} {network : Network} {xid : UInt32} {t t₁ : Traffic} {offer m : Message}
  {fault : Fault} {lease : Lease}

theorem run_obtainLease_of_fault
    (discovered : (c.perform .discover xid).run c network t = (.error fault, t₁)) :
    (c.obtainLease xid).run c network t = ((.error fault, c), t₁) := by
  rw [obtainLease, Dialogue.run_bind, discovered]
  rfl

/-- A client that hears something else than an offer has no lease. -/
theorem run_obtainLease_of_other
    (discovered : (c.perform .discover xid).run c network t = (.ok m, t₁))
    (other : m.messageType? ≠ some .offer) :
    (c.obtainLease xid).run c network t =
      ((.error (.unexpectedType .offer m.messageType?), c), t₁) := by
  rw [obtainLease, Dialogue.run_bind, discovered]
  simp only [if_neg other, Dialogue.run]

/-- A client that hears an offer accepts it. -/
theorem run_obtainLease_of_offer
    (discovered : (c.perform .discover xid).run c network t = (.ok offer, t₁))
    (isOffer : offer.messageType? = some .offer) :
    (c.obtainLease xid).run c network t = (c.accept offer xid).run c network t₁ := by
  rw [obtainLease, Dialogue.run_bind, discovered]
  simp only [if_pos isOffer]

theorem run_accept_of_fault
    (requested : (c.perform (.request offer) xid).run c network t = (.error fault, t₁)) :
    (c.accept offer xid).run c network t = ((.error fault, c), t₁) := by
  rw [accept, Dialogue.run_bind, requested]
  rfl

theorem run_accept_of_refusal
    (requested : (c.perform (.request offer) xid).run c network t = (.ok m, t₁))
    (settled : c.settle offer m = .error fault) :
    (c.accept offer xid).run c network t = ((.error fault, c), t₁) := by
  rw [accept, Dialogue.run_bind, requested]
  simp only [settled, Dialogue.run]

theorem run_accept_of_lease
    (requested : (c.perform (.request offer) xid).run c network t = (.ok m, t₁))
    (settled : c.settle offer m = .ok (lease, after)) :
    (c.accept offer xid).run c network t = ((.ok lease, after), t₁) := by
  rw [accept, Dialogue.run_bind, requested]
  simp only [settled, Dialogue.run]

end Steps

/-! ## Datagrams that bring a reply -/

/-- The message by which a server that names itself offers or grants an address. -/
def promise (xid : UInt32) (type : MessageType) (addr server : Ipv4) : Message :=
  (Message.granting (Message.discover xid) type addr).withOption (.address .serverIdentifier server)

/-- A datagram brings a reply of a transaction, of a type. -/
structure Brings (c : Client) (xid : UInt32) (type : MessageType) (datagram : Octets)
    (m : Message) : Prop where
  read : Message.decodeWith c.registry (datagram.take 2048) = .ok m
  answers : m.op = .bootReply
  same : m.xid = xid
  typed : m.HasType (some type)

section Bringing

variable {c : Client} {xid : UInt32}

/-- A wait for a transaction ends in the reply that the first datagram brings. -/
theorem Brings.waits {type : MessageType} {datagram : Octets} {m : Message}
    (brings : c.Brings xid type datagram m) (behind : List Octets) :
    c.Waits xid (datagram :: behind) (.ok m) behind := by
  have waits : c.Waits xid ([] ++ datagram :: behind) (.ok m) behind :=
    .decided nofun (.reply brings.read brings.answers brings.same)
  exact waits

/-- A reply that travels is brought by its octets. -/
theorem brings_octets (standard : c.registry = .standard) {m : Message} (travels : m.Travels 7)
    {type : MessageType} (answers : m.op = .bootReply) (same : m.xid = xid)
    (typed : m.messageType? = some type) : c.Brings xid type m.octets m :=
  ⟨standard ▸ travels.decodeWith_received, answers, same, Message.hasType_iff.mpr typed⟩

/-- What a server that names itself promises is brought by its octets. -/
theorem brings_promise (c : Client) (standard : c.registry = .standard) (xid : UInt32)
    {type : MessageType} (named : type ∈ MessageType.named) (addr server : Ipv4) :
    c.Brings xid type (promise xid type addr server).octets (promise xid type addr server) := by
  have asked := Message.travels_ask .discover (by decide) xid
  have travels : (promise xid type addr server).Travels 7 :=
    ((asked.granting named addr).withOption (Opt.travels_address .serverIdentifier server)).mono
      (by decide)
  exact brings_octets standard travels rfl rfl rfl

end Bringing

/-! ## Every traffic -/

section Obtaining

variable {c : Client} (fits : ∀ t ∈ c.ownTriples, t.payload.length ≤ 255) {network : Network}
  {xid : UInt32} {t t' : Traffic}

include fits

/-- Looking for servers comes to what is heard of the packet for that. -/
theorem Hears.discover {result : Except Fault Message}
    (hears : c.Hears network xid (c.discoverPacket xid) t result t') :
    (c.perform .discover xid).run c network t = (result, t') :=
  Hears.perform rfl (c.tells_discover xid) fits hears

/-- Asking for the address of an offer comes to what is heard of the packet for that. -/
theorem Hears.request {offer : Message} {result : Except Fault Message} (same : offer.xid = xid)
    (hears : c.Hears network xid (c.requestPacket offer) t result t') :
    (c.perform (.request offer) xid).run c network t = (result, t') := by
  subst same
  exact Hears.perform rfl (c.tells_request offer.xid offer) fits hears

/-- A client obtains the lease of the traffic in which it leases. -/
theorem Leases.run {offer ack : Message} (leases : c.Leases network xid t offer ack t') :
    (c.obtainLease xid).run c network t =
      ((.ok (Lease.ofAck ack),
        c.bound ack.yiaddr (ack.serverIdentifier?.or offer.offeringServer?)), t') := by
  obtain ⟨offered, isOffer, answered, isAck⟩ := leases
  have same := offered.reply_of_ok.2.1
  rw [run_obtainLease_of_offer (offered.discover fits) (Message.hasType_iff.mp isOffer)]
  exact run_accept_of_lease (answered.request fits same)
    (c.settle_of_ack offer (Message.hasType_iff.mp isAck))

/-- A client gets the fault of the traffic in which something goes wrong. -/
theorem Fails.run {fault : Fault} (fails : c.Fails network xid t fault t') :
    (c.obtainLease xid).run c network t = ((.error fault, c), t') := by
  cases fails with
  | noReply heard => exact run_obtainLease_of_fault (heard.discover fits)
  | noOffer heard typed other =>
    obtain rfl := Message.hasType_iff.mp typed
    exact run_obtainLease_of_other (heard.discover fits) other
  | @noAnswer offer _ _ _ offered isOffer heard =>
    have same := offered.reply_of_ok.2.1
    rw [run_obtainLease_of_offer (offered.discover fits) (Message.hasType_iff.mp isOffer)]
    exact run_accept_of_fault (heard.request fits same)
  | @refused offer _ _ _ offered isOffer heard isNak reason gives =>
    have same := offered.reply_of_ok.2.1
    rw [← Message.givesReason_iff.mp gives,
      run_obtainLease_of_offer (offered.discover fits) (Message.hasType_iff.mp isOffer)]
    exact run_accept_of_refusal (heard.request fits same)
      (c.settle_of_nak offer (Message.hasType_iff.mp isNak))
  | @noAck offer _ _ _ _ offered isOffer heard typed noAck noNak =>
    obtain rfl := Message.hasType_iff.mp typed
    have same := offered.reply_of_ok.2.1
    rw [run_obtainLease_of_offer (offered.discover fits) (Message.hasType_iff.mp isOffer)]
    exact run_accept_of_refusal (heard.request fits same) (c.settle_of_other offer noAck noNak)

end Obtaining

/-- A client whose messages fit gets a lease exactly of the traffic in which its first wait ends in
an offer and its second wait in an acknowledgement. Then it has asked for the address of the offer
from the server that the offer comes from, the lease holds what the acknowledgement says, and the
client remembers the address and the server: the one that the acknowledgement names, else the one
that the offer comes from, else the one that it knew before. In any other traffic it gets the fault
that the traffic tells, and remembers what it did before. -/
theorem obtainLease_decided (c : Client) (fits : ∀ t ∈ c.ownTriples, t.payload.length ≤ 255)
    (network : Network) (xid : UInt32) (t : Traffic) :
    ∃ result after t', (c.obtainLease xid).run c network t = ((result, after), t') ∧
      ((∃ lease, result = .ok lease) ↔
        ∃ offer ack left, c.Leases network xid t offer ack left) ∧
      (∀ offer ack left, c.Leases network xid t offer ack left →
        t' = left ∧ ∃ lease server?, result = .ok lease ∧ lease.ReadFrom ack ∧
          offer.ComesFrom server? ∧
          (∃ request, t'.sent = t.sent ++ [c.discoverPacket xid, request] ∧
            c.AsksFor xid offer server? request) ∧
          after =
            { c with
              config :=
                { c.config with
                  clientAddress := some lease.address
                  server := (lease.serverIdentifier.or server?).or c.config.server } }) ∧
      (∀ fault, result = .error fault ↔ ∃ left, c.Fails network xid t fault left) ∧
      ∀ fault left, c.Fails network xid t fault left → t' = left ∧ after = c := by
  have unique {result result' : Except Fault Lease} {after after' : Client} {t₁ t₂ : Traffic}
      (run : (c.obtainLease xid).run c network t = ((result, after), t₁))
      (run' : (c.obtainLease xid).run c network t = ((result', after'), t₂)) :
      result = result' ∧ after = after' ∧ t₁ = t₂ := by
    cases run.symm.trans run'
    exact ⟨rfl, rfl, rfl⟩
  rcases c.leases_or_fails network xid t with ⟨offer, ack, t', leases⟩ | ⟨fault, t', fails⟩
  · have apart (fault : Fault) (left : Traffic) : ¬c.Fails network xid t fault left := by
      intro fails
      cases (unique (leases.run fits) (fails.run fits)).1
    refine ⟨_, _, t', leases.run fits, ?_, ?_, ?_, ?_⟩
    · exact iff_of_true ⟨_, rfl⟩ ⟨offer, ack, t', leases⟩
    · intro offer' ack' left leases'
      obtain ⟨result, after, traffic⟩ := unique (leases.run fits) (leases'.run fits)
      have origin : offer'.ComesFrom offer'.offeringServer? := Message.comesFrom_iff.mpr rfl
      refine ⟨traffic, Lease.ofAck ack', offer'.offeringServer?, result,
        Lease.readFrom_iff.mpr rfl, origin, ?_, ?_⟩
      · obtain ⟨offered, -, answered, -⟩ := leases'
        obtain ⟨-, transaction, sent⟩ := offered.reply_of_ok
        obtain ⟨-, -, sent'⟩ := answered.reply_of_ok
        refine ⟨c.requestPacket offer', ?_, asksFor_requestPacket fits transaction origin⟩
        rw [traffic, sent', sent, List.append_assoc]
        rfl
      · rw [after, serverIdentifier_ofAck]
        rfl
    · intro fault
      exact iff_of_false nofun fun ⟨left, fails⟩ => apart fault left fails
    · intro fault left fails
      exact absurd fails (apart fault left)
  · have apart (offer ack : Message) (left : Traffic) :
        ¬c.Leases network xid t offer ack left := by
      intro leases
      cases (unique (fails.run fits) (leases.run fits)).1
    refine ⟨_, _, t', fails.run fits, ?_, ?_, ?_, ?_⟩
    · exact iff_of_false nofun fun ⟨offer, ack, left, leases⟩ => apart offer ack left leases
    · intro offer ack left leases
      exact absurd leases (apart offer ack left)
    · intro fault'
      constructor
      · rintro ⟨⟩
        exact ⟨t', fails⟩
      · rintro ⟨left, fails'⟩
        exact (unique (fails.run fits) (fails'.run fits)).1
    · intro fault' left fails'
      obtain ⟨-, after, traffic⟩ := unique (fails.run fits) (fails'.run fits)
      exact ⟨traffic, after⟩

/-- An offer of another transaction is passed over. The offer that is taken names its server in its
header alone, and the client names that server in its request. It remembers the server that
acknowledges if that names itself, and the one that the offer comes from if not. -/
theorem obtainLease_decided_stray :
    let c : Client := { config := { mac := ⟨[2, 0, 0, 0, 0, 1], rfl⟩ } }
    let stray := promise 8 .offer ⟨0xC0A80064⟩ ⟨0xC0A80003⟩
    let offer : Message :=
      { Message.granting (Message.discover 7) .offer ⟨0xC0A80064⟩ with siaddr := ⟨0xC0A80002⟩ }
    let named := promise 7 .ack ⟨0xC0A80064⟩ ⟨0xC0A80001⟩
    let unnamed := Message.granting (Message.discover 7) .ack ⟨0xC0A80064⟩
    let network (ack : Message) : Network := fun n _ =>
      if n = 0 then some [stray.octets, offer.octets] else some [ack.octets]
    let obtains (ack : Message) (server : Ipv4) := ∃ lease after t' request,
      (c.obtainLease 7).run c (network ack) { inbox := [] } = ((.ok lease, after), t') ∧
        t'.sent = [c.discoverPacket 7, request] ∧
        c.AsksFor 7 offer (some ⟨0xC0A80002⟩) request ∧
        lease.address = ⟨0xC0A80064⟩ ∧ lease.duration = some (.ofSeconds 2592000) ∧
        after.config.clientAddress = some ⟨0xC0A80064⟩ ∧ after.config.server = some server
    obtains named ⟨0xC0A80001⟩ ∧ obtains unnamed ⟨0xC0A80002⟩ := by
  intro c stray offer named unnamed network obtains
  have fits : ∀ t ∈ c.ownTriples, t.payload.length ≤ 255 := by decide
  have asked := Message.travels_ask .discover (by decide) 7
  have granted (type : MessageType) (named : type ∈ MessageType.named) :
      (Message.granting (Message.discover 7) type ⟨0xC0A80064⟩).Travels 7 :=
    (asked.granting named _).mono (by decide)
  have strays : c.Brings 8 .offer stray.octets stray :=
    c.brings_promise rfl 8 (by decide) ⟨0xC0A80064⟩ ⟨0xC0A80003⟩
  have foreign : c.Foreign 7 stray.octets := ⟨stray, strays.read, strays.answers, by decide⟩
  have travels : offer.Travels 7 := (granted .offer (by decide)).of_same rfl rfl rfl rfl rfl rfl
  have offered : c.Brings 7 .offer offer.octets offer := brings_octets rfl travels rfl rfl rfl
  have first : c.Waits 7 ([stray.octets] ++ offer.octets :: []) (.ok offer) [] :=
    .decided (List.forall_mem_singleton.mpr foreign) (.reply offered.read rfl rfl)
  have origin : offer.offeringServer? = some ⟨0xC0A80002⟩ := by decide
  have obtained {ack : Message} (acknowledged : c.Brings 7 .ack ack.octets ack) {server : Ipv4}
      (address : (Lease.ofAck ack).address = ⟨0xC0A80064⟩)
      (duration : (Lease.ofAck ack).duration = some (.ofSeconds 2592000))
      (remembered : (Lease.ofAck ack).serverIdentifier.or (some ⟨0xC0A80002⟩) = some server) :
      obtains ack server := by
    have leases : c.Leases (network ack) 7 { inbox := [] } offer ack _ :=
      .intro (.waited rfl first) offered.typed (.waited rfl (acknowledged.waits []))
        acknowledged.typed
    obtain ⟨result, after, t', run, -, learns, -, -⟩ :=
      obtainLease_decided c fits (network ack) 7 { inbox := [] }
    obtain ⟨-, lease, server?, rfl, reads, comes, ⟨request, sent, asks⟩, rfl⟩ :=
      learns offer ack _ leases
    obtain rfl := Lease.readFrom_iff.mp reads
    obtain rfl := origin.symm.trans (Message.comesFrom_iff.mp comes)
    refine ⟨_, _, _, request, run, sent, asks, address, duration, congrArg some address, ?_⟩
    rw [remembered]
    rfl
  exact ⟨obtained (c.brings_promise rfl 7 (by decide) ⟨0xC0A80064⟩ ⟨0xC0A80001⟩) rfl rfl rfl,
    obtained (brings_octets rfl (granted .ack (by decide)) rfl rfl rfl) rfl rfl rfl⟩

end Client

end Dhcp
