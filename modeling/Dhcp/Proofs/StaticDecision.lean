import Dhcp.CommandLine.Setup
import Dhcp.Proofs.Layout
import Dhcp.Proofs.ServerNaming
import Dhcp.Proofs.StaticGrant

/-!
# What a server with one address decides

Which reply a server with one address sends is a function of the request, `StaticLease.answer?`.
What becomes of the reply depends on the name servers as well, because more than 63 of them fit no
option. Both are put together here and said of the octets that are queued.

**The law** (`StaticLease.handler_decides`): for every setting of the server and every datagram that
decodes, at most one packet is queued. It is an offer exactly for a request that looks for servers
and an acknowledgement exactly for one that asks for the address, as long as the name servers fit
their option; it is a refusal exactly for the other requests of that type, and requests of all other
types get nothing. What an offer or an acknowledgement tells is what the server was set to tell, and
no default. Where the name servers do not fit, offers and acknowledgements are not queued, and
refusals are what they would be without them.
-/

namespace Dhcp

/-! ## Packets of the usual replies -/

/-- A packet bears one message type, and it is this one. -/
def Packet.Bears (p : Packet) (type : MessageType) : Prop :=
  Area.payloads 53 (p.data.drop 240) = [[type.toOctet]]

/-- A packet that bears a type bears no other. -/
theorem Packet.Bears.exists_iff {p : Packet} {type other : MessageType} (bears : p.Bears type) :
    (∃ q ∈ [p], q.Bears other) ↔ type.toOctet = other.toOctet := by
  have one : p.Bears other ↔ [[type.toOctet]] = [[other.toOctet]] := by
    rw [Bears, show Area.payloads 53 (p.data.drop 240) = _ from bears]
  simpa using one

/-- A packet goes to its target and holds a reply of a type in a transaction, with the address that
it gives. -/
structure Packet.Replies (p : Packet) (target : Endpoint) (xid : UInt32) (type : MessageType)
    (addr : Ipv4) : Prop where
  target : p.target = target
  op : p.data[0]? = some 2
  transaction : p.data.slice 4 4 = Octets.ofNat 4 xid.toNat
  yiaddr : p.data.slice 16 4 = addr.octets
  type : p.Bears type

/-- A packet tells exactly this lease time, mask, router and these name servers: each stands once
under its code, and nothing stands under the codes of those that are not given. -/
structure Packet.Tells (p : Packet) (leaseTime : UInt32) (subnetMask router : Option Ipv4)
    (nameServers : List Ipv4) : Prop where
  leaseTime : Area.payloads 51 (p.data.drop 240) = [Octets.ofNat 4 leaseTime.toNat]
  subnetMask : Area.payloads 1 (p.data.drop 240) = subnetMask.toList.map Ipv4.octets
  router : Area.payloads 3 (p.data.drop 240) = router.toList.map Ipv4.octets
  nameServers : Area.payloads 6 (p.data.drop 240) =
    if nameServers = [] then [] else [nameServers.flatMap Ipv4.octets]

namespace ReplyWriter

variable {w : ReplyWriter} {r : Reply} {addr : Ipv4} {own : List Opt} {p : Packet}

/-- What stands under a code in the packet of a usual reply is what is laid last, of the reply's own
options and those of the caller. The code of the server identifier is left out, as the writer may
change what stands there. -/
theorem payloads_packet (usual : r.Usual addr own) (made : w.packet r = .ok p) {code : UInt8}
    (other : code ≠ 54) :
    Area.payloads code (p.data.drop 240) =
      (Opt.lastUnder code (own ++ r.extra)).toList.map Opt.payload := by
  obtain ⟨writable, rfl⟩ := packet_eq_ok_iff.mp made
  have unframed : (w.compose (r.base w.request) r.extra).Unframed := by
    refine w.unframed_compose (unframed_base ?_ w.request) r.extra
    rintro given extra rfl
    cases usual
  rw [Message.payloads_octets writable unframed,
    (w.stamped_compose (r.base w.request) r.extra).kept code (.inl other),
    usual.holds_base w.request, Opt.lastUnder_append]

/-- The packet of a usual reply replies with the type that is laid last. -/
theorem replies_packet (usual : r.Usual addr own) (made : w.packet r = .ok p) {type : MessageType}
    (last : Opt.lastUnder 53 (own ++ r.extra) = some (.messageType type)) :
    p.Replies w.destination w.request.xid type addr := by
  have bears : p.Bears type := by
    rw [Packet.Bears, payloads_packet usual made (by decide), last]
    rfl
  obtain ⟨-, rfl⟩ := packet_eq_ok_iff.mp made
  let m := w.compose (r.base w.request) r.extra
  have header : m.toHeader = _ := w.toHeader_compose (r.base w.request) r.extra
  rw [usual.toHeader_base] at header
  have stands : m.toHeader.StandsIn m.octets := Header.standsIn_append ..
  refine ⟨rfl, ?_, ?_, ?_, bears⟩
  · rw [stands.op, header]
    rfl
  · rw [Octets.numberAt_iff.mp stands.xid, header]
  · rw [Octets.numberAt_iff.mp stands.yiaddr, header]
    rfl

end ReplyWriter

/-! ## Grants and refusals -/

namespace StaticLease

variable (lease : StaticLease) (w : ReplyWriter)

/-- A packet offers or grants the address and tells what goes with it. -/
structure Grants (type : MessageType) (p : Packet) : Prop
    extends p.Replies w.destination w.request.xid type lease.address,
      p.Tells lease.leaseTime lease.subnetMask lease.router lease.nameServers

/-- A packet refuses: it gives no address and tells no lease time. -/
structure Refuses (p : Packet) : Prop
    extends p.Replies w.destination w.request.xid .nak .unspecified where
  leaseTime : Area.payloads 51 (p.data.drop 240) = []

/-- The options of a lease under their codes. -/
theorem lastUnder_options :
    Opt.lastUnder 51 lease.options = some (.seconds .leaseTime lease.leaseTime) ∧
    Opt.lastUnder 53 lease.options = none ∧
    Opt.lastUnder 1 lease.options = lease.subnetMask.map (.address .subnetMask) ∧
    Opt.lastUnder 3 lease.options = lease.router.map (fun router => .addresses .router [router]) ∧
    Opt.lastUnder 6 lease.options =
      if lease.nameServers = [] then none
      else some (.addresses .domainNameServer lease.nameServers) := by
  unfold options
  cases lease.subnetMask <;> cases lease.router <;> split <;>
    simp [Opt.lastUnder, Opt.code, Format.code]

/-- The two replies that hand the lease out, with their types. -/
inductive Granting : Reply → MessageType → Prop where
  | offer : Granting (.offer lease.address lease.options) .offer
  | ack : Granting (.ack lease.address lease.options) .ack

variable {lease w} {r : Reply} {type : MessageType} {p : Packet}

namespace Granting

variable (granting : lease.Granting r type)

include granting

theorem usual :
    r.Usual lease.address [.messageType type, .seconds .leaseTime defaultLeaseTime] := by
  cases granting with
  | offer => exact .offer ..
  | ack => exact .ack ..

theorem extra_eq : r.extra = lease.options := by
  cases granting <;> rfl

theorem compose_eq (w : ReplyWriter) :
    w.compose (r.base w.request) r.extra = lease.grant w type := by
  cases granting <;> rfl

theorem named : type ∈ MessageType.named := by
  cases granting <;> decide

end Granting

/-- The options of the lease hide the lease time that every such reply has of its own. -/
theorem grants_packet (granting : lease.Granting r type) (made : w.packet r = .ok p) :
    lease.Grants w type p := by
  obtain ⟨time, untyped, mask, router, servers⟩ := lease.lastUnder_options
  have usual := granting.usual
  have last (code : UInt8) : Opt.lastUnder code
      ([.messageType type, .seconds .leaseTime defaultLeaseTime] ++ r.extra) =
        (Opt.lastUnder code lease.options).or
          (Opt.lastUnder code [.messageType type, .seconds .leaseTime defaultLeaseTime]) := by
    rw [granting.extra_eq, Opt.lastUnder_append]
  have payloads (code : UInt8) (other : code ≠ 54) := ReplyWriter.payloads_packet usual made other
  refine ⟨?_, ?_, ?_, ?_, ?_⟩
  · apply ReplyWriter.replies_packet usual made
    rw [last, untyped]
    rfl
  · rw [payloads 51 (by decide), last, time]
    rfl
  · rw [payloads 1 (by decide), last, mask]
    cases lease.subnetMask <;> rfl
  · rw [payloads 3 (by decide), last, router]
    cases lease.router with
    | none => rfl
    | some addr => simp [Opt.payload]
  · rw [payloads 6 (by decide), last, servers]
    split <;> rfl

theorem refuses_packet {reason : String} (made : w.packet (.nak reason []) = .ok p) :
    Refuses w p :=
  have usual := Reply.Usual.nak reason []
  { toReplies := ReplyWriter.replies_packet usual made rfl
    leaseTime := ReplyWriter.payloads_packet usual made (by decide) }

/-! ## What can be written -/

/-- An offer or an acknowledgement can be written exactly if the name servers fit their option. -/
theorem packet_grant_iff (granting : lease.Granting r type) :
    (∃ p, w.packet r = .ok p) ↔ lease.nameServers.length ≤ 63 := by
  constructor
  · rintro ⟨p, made⟩
    obtain ⟨writable, -⟩ := ReplyWriter.packet_eq_ok_iff.mp made
    rw [granting.compose_eq] at writable
    by_contra many
    have filled : lease.nameServers ≠ [] := by
      rintro empty
      simp [empty] at many
    have mem := lease.mem_options_iff.mpr (.inr (.inr (.inr ⟨filled, rfl⟩)))
    have fits := (writable _ ((lease.mem_options_grant w type).mpr (.inl mem))).2
    rw [Opt.payload, length_flatMap_octets] at fits
    omega
  · intro few
    refine ⟨_, ReplyWriter.packet_eq_ok_iff.mpr ⟨?_, rfl⟩⟩
    intro o mem
    rw [granting.compose_eq, mem_options_grant] at mem
    rcases mem with mem | rfl | ⟨server, -, rfl⟩
    · exact (lease.travels_options few o mem).writable
    · exact (Opt.travels_messageType granting.named).writable
    · exact (Opt.travels_address .serverIdentifier server).writable

/-- A refusal with a short reason can be written whatever the request is. -/
theorem exists_packet_nak (w : ReplyWriter) {reason : String}
    (short : (Octets.ofText reason).length ≤ 255) : ∃ p, w.packet (.nak reason []) = .ok p := by
  have holds : (Message.nak w.request reason).Holds [.messageType .nak, .text .message reason] :=
    (Reply.Usual.nak reason []).holds_base w.request
  have distinct : Options.Distinct [Opt.messageType .nak, .text .message reason] :=
    List.pairwise_pair.mpr (by decide : Format.messageType.code ≠ (Format.text .message).code)
  have travels : ∀ o ∈ [Opt.messageType .nak, .text .message reason], o.Travels :=
    List.forall_mem_cons.mpr ⟨Opt.travels_messageType (by decide),
      List.forall_mem_singleton.mpr (Opt.travels_text .message short)⟩
  have unframed := fun o mem => (travels o mem).unframed
  refine ⟨_, ReplyWriter.packet_eq_ok_iff.mpr ⟨?_, rfl⟩⟩
  intro o mem
  have mem := (w.mem_options_compose .nil nofun nofun (holds 54)).mp mem
  rcases mem with nowhere | ⟨mem, -⟩ | ⟨server, -, rfl⟩
  · cases nowhere
  · exact (travels o ((holds.mem_iff distinct unframed).mp mem)).writable
  · exact (Opt.travels_address .serverIdentifier server).writable

/-! ## Decisions -/

/-- The packets that a request leads to where replies are taken. -/
def queued (lease : StaticLease) (w : ReplyWriter) : List Packet :=
  ((lease.answer? w.request).bind fun r => (w.packet r).toOption).toList

/-- Where replies are taken, what a request leads to is queued. -/
theorem run_handler_of_open (lease : StaticLease) (w : ReplyWriter) {box : Outbox}
    (taking : box.isOpen = true) :
    ((lease.callbacks.handler w).run w box).2 =
      { box with packets := box.packets ++ lease.queued w } := by
  rw [run_handler, queued]
  cases lease.answer? w.request with
  | none => simp
  | some r =>
    cases made : w.packet r with
    | error cause => simp [ReplyWriter.send_of_refused made, made, Except.toOption]
    | ok p => simp [ReplyWriter.send_of_packet made taking, made, Except.toOption]

/-- The ways in which a server with one address decides a request, with what is queued. -/
inductive Decided (lease : StaticLease) (w : ReplyWriter) : List Packet → Prop where
  | offered {p : Packet} (type : w.request.messageType? = some .discover)
      (few : lease.nameServers.length ≤ 63) (grants : lease.Grants w .offer p) : Decided lease w [p]
  | granted {p : Packet} (type : w.request.messageType? = some .request)
      (asks : w.request.AsksFor lease.address) (few : lease.nameServers.length ≤ 63)
      (grants : lease.Grants w .ack p) : Decided lease w [p]
  | refused {p : Packet} (type : w.request.messageType? = some .request)
      (asks : ¬w.request.AsksFor lease.address) (refuses : Refuses w p) : Decided lease w [p]
  /-- The name servers fit no option. -/
  | unwritable (type : w.request.messageType? = some .discover ∨
        w.request.messageType? = some .request ∧ w.request.AsksFor lease.address)
      (many : 63 < lease.nameServers.length) : Decided lease w []
  | passedOver (notDiscover : w.request.messageType? ≠ some .discover)
      (notRequest : w.request.messageType? ≠ some .request) : Decided lease w []

/-- An offer or an acknowledgement is queued, unless the name servers are too many. -/
theorem queued_of_granting (answer : lease.answer? w.request = some r)
    (granting : lease.Granting r type) :
    (lease.nameServers.length ≤ 63 ∧ ∃ p, lease.queued w = [p] ∧ lease.Grants w type p) ∨
      63 < lease.nameServers.length ∧ lease.queued w = [] := by
  rw [queued, answer, Option.bind_some]
  cases made : w.packet r with
  | ok p =>
    have few := (packet_grant_iff granting).mp ⟨p, made⟩
    exact .inl ⟨few, p, rfl, grants_packet granting made⟩
  | error cause =>
    refine .inr ⟨?_, rfl⟩
    by_contra few
    obtain ⟨p, written⟩ := (packet_grant_iff (w := w) granting).mpr (Nat.le_of_not_lt few)
    cases made.symm.trans written

/-- What is queued for a request is what is decided about it. -/
theorem decided (lease : StaticLease) (w : ReplyWriter) : lease.Decided w (lease.queued w) := by
  by_cases discover : w.request.messageType? = some .discover
  · have answer : lease.answer? w.request = some (.offer lease.address lease.options) := by
      rw [answer?, discover]
    rcases queued_of_granting answer .offer with ⟨few, p, one, grants⟩ | ⟨many, none⟩
    · exact one ▸ .offered discover few grants
    · exact none ▸ .unwritable (.inl discover) many
  by_cases request : w.request.messageType? = some .request
  · by_cases asks : w.request.AsksFor lease.address
    · have answer : lease.answer? w.request = some (.ack lease.address lease.options) := by
        simp only [answer?, request, if_pos asks]
      rcases queued_of_granting answer .ack with ⟨few, p, one, grants⟩ | ⟨many, none⟩
      · exact one ▸ .granted request asks few grants
      · exact none ▸ .unwritable (.inr ⟨request, asks⟩) many
    · have answer :
          lease.answer? w.request = some (.nak "requested address not available" []) := by
        simp only [answer?, request, if_neg asks]
      have short : (Octets.ofText "requested address not available").length ≤ 255 := by decide
      obtain ⟨p, made⟩ := exists_packet_nak w short
      have one : lease.queued w = [p] := by
        rw [queued, answer, Option.bind_some, made]
        rfl
      exact one ▸ .refused request asks (refuses_packet made)
  · have answer : lease.answer? w.request = none := by
      unfold answer?
      split
      · next type => exact absurd type discover
      · next type => exact absurd type request
      · rfl
    have silent : lease.queued w = [] := by
      rw [queued, answer]
      rfl
    exact silent ▸ .passedOver discover request

namespace Decided

variable {packets : List Packet} (decided : lease.Decided w packets)

include decided

theorem length_le_one : packets.length ≤ 1 := by
  cases decided <;> simp

/-- Where the name servers fit, an offer is queued exactly for a request that looks for servers. -/
theorem offers_iff (few : lease.nameServers.length ≤ 63) :
    (∃ p ∈ packets, p.Bears .offer) ↔ w.request.messageType? = some .discover := by
  cases decided with
  | offered type _ grants => exact grants.type.exists_iff.trans (iff_of_true rfl type)
  | granted type _ _ grants =>
    exact grants.type.exists_iff.trans (iff_of_false (by decide) (by rw [type]; exact nofun))
  | refused type _ refuses =>
    exact refuses.type.exists_iff.trans (iff_of_false (by decide) (by rw [type]; exact nofun))
  | unwritable _ many => exact absurd few (Nat.not_le_of_lt many)
  | passedOver notDiscover _ => exact iff_of_false nofun notDiscover

/-- Where the name servers fit, an acknowledgement is queued exactly for a request that asks for the
address. -/
theorem acks_iff (few : lease.nameServers.length ≤ 63) :
    (∃ p ∈ packets, p.Bears .ack) ↔
      w.request.messageType? = some .request ∧ w.request.AsksFor lease.address := by
  cases decided with
  | offered type _ grants =>
    exact grants.type.exists_iff.trans (iff_of_false (by decide) (by rw [type]; exact nofun))
  | granted type asks _ grants => exact grants.type.exists_iff.trans (iff_of_true rfl ⟨type, asks⟩)
  | refused _ asks refuses =>
    exact refuses.type.exists_iff.trans (iff_of_false (by decide) fun h => asks h.2)
  | unwritable _ many => exact absurd few (Nat.not_le_of_lt many)
  | passedOver _ notRequest => exact iff_of_false nofun fun h => notRequest h.1

/-- Refusals do not depend on the name servers. -/
theorem naks_iff :
    (∃ p ∈ packets, p.Bears .nak) ↔
      w.request.messageType? = some .request ∧ ¬w.request.AsksFor lease.address := by
  cases decided with
  | offered type _ grants =>
    exact grants.type.exists_iff.trans (iff_of_false (by decide) (by rw [type]; exact nofun))
  | granted _ asks _ grants =>
    exact grants.type.exists_iff.trans (iff_of_false (by decide) fun h => h.2 asks)
  | refused type asks refuses => exact refuses.type.exists_iff.trans (iff_of_true rfl ⟨type, asks⟩)
  | unwritable type _ =>
    refine iff_of_false nofun ?_
    rintro ⟨request, notAsks⟩
    rcases type with discover | ⟨-, asks⟩
    · cases request.symm.trans discover
    · exact notAsks asks
  | passedOver _ notRequest => exact iff_of_false nofun fun h => notRequest h.1

/-- Whatever is queued tells what the lease is or refuses, and only refusals are queued where the
name servers are too many. -/
theorem contents :
    ∀ p ∈ packets,
      ((lease.Grants w .offer p ∨ lease.Grants w .ack p) ∧ lease.nameServers.length ≤ 63) ∨
        Refuses w p := by
  cases decided with
  | offered _ few grants => exact List.forall_mem_singleton.mpr (.inl ⟨.inl grants, few⟩)
  | granted _ _ few grants => exact List.forall_mem_singleton.mpr (.inl ⟨.inr grants, few⟩)
  | refused _ _ refuses => exact List.forall_mem_singleton.mpr (.inr refuses)
  | unwritable _ _ => exact nofun
  | passedOver _ _ => exact nofun

theorem silent (notDiscover : w.request.messageType? ≠ some .discover)
    (notRequest : w.request.messageType? ≠ some .request) : packets = [] := by
  cases decided with
  | offered type _ _ => exact absurd type notDiscover
  | granted type _ _ _ => exact absurd type notRequest
  | refused type _ _ => exact absurd type notRequest
  | unwritable _ _ => rfl
  | passedOver _ _ => rfl

end Decided

/-- A server with one address decides every request, whatever datagram holds it and whatever the
settings of the server are, and queues one packet at most. With at most 63 name servers it queues an
offer exactly for a request that looks for servers, and an acknowledgement exactly for one of the
request type that asks for the address. It queues a refusal exactly for the other requests of that
type, and nothing for requests of any other type or of none. Offers and acknowledgements give the
address and hold the lease time, the mask, the router and the name servers of the arguments, each
once and nothing else under their codes; refusals give no address and no lease time. With more than
63 name servers, nothing but refusals is queued, and the refusals are those of any other list. -/
theorem handler_decides (a : CommandLine.ServerArguments) (config : ServerConfig)
    (source : Endpoint) (m : Message) (box : Outbox) (taking : box.isOpen = true) :
    let w := ReplyWriter.forRequest config m source
    let after (a : CommandLine.ServerArguments) := ((a.lease.callbacks.handler w).run w box).2
    let target : Endpoint := match config.replyMode with
      | .broadcast => .v4 ⟨config.broadcastAddress, config.clientPort⟩
      | .unicast => source
    let looks := Opt.messageType .discover ∈ m.options.toList
    let requests := Opt.messageType .request ∈ m.options.toList
    let asks := m.AsksFor a.offer
    ∃ queued, after a = { box with packets := box.packets ++ queued } ∧ queued.length ≤ 1 ∧
      (a.nameServers.length ≤ 63 →
        ((∃ p ∈ queued, p.Bears .offer) ↔ looks) ∧
        ((∃ p ∈ queued, p.Bears .ack) ↔ requests ∧ asks)) ∧
      ((∃ p ∈ queued, p.Bears .nak) ↔ requests ∧ ¬asks) ∧
      (¬looks → ¬requests → queued = []) ∧
      (∀ p ∈ queued,
        ((p.Replies target m.xid .offer a.offer ∨ p.Replies target m.xid .ack a.offer) ∧
          p.Tells a.leaseTime a.subnetMask a.router a.nameServers ∧ a.nameServers.length ≤ 63) ∨
        p.Replies target m.xid .nak .unspecified ∧ Area.payloads 51 (p.data.drop 240) = []) ∧
      (requests → ¬asks → ∀ nameServers, after { a with nameServers } = after a) := by
  intro w after target looks requests asks
  have typed (type : MessageType) :
      w.request.messageType? = some type ↔ Opt.messageType type ∈ m.options.toList :=
    m.messageType?_eq_some_iff
  have decided : a.lease.Decided w (a.lease.queued w) := a.lease.decided w
  have offers := decided.offers_iff
  have acks := decided.acks_iff
  have naks := decided.naks_iff
  have silent := decided.silent
  simp only [ne_eq, typed] at offers acks naks silent
  refine ⟨a.lease.queued w, a.lease.run_handler_of_open w taking, decided.length_le_one,
    fun few => ⟨offers few, acks few⟩, naks, silent, ?_, ?_⟩
  · intro p mem
    rcases decided.contents p mem with ⟨grants | grants, few⟩ | refuses
    · exact .inl ⟨.inl grants.toReplies, grants.toTells, few⟩
    · exact .inl ⟨.inr grants.toReplies, grants.toTells, few⟩
    · exact .inr ⟨refuses.toReplies, refuses.leaseTime⟩
  · intro type refused nameServers
    have answer (a : CommandLine.ServerArguments) (refused : ¬m.AsksFor a.offer) :
        a.lease.answer? w.request = some (.nak "requested address not available" []) := by
      rw [answer?, (typed .request).mpr type]
      exact congrArg some (if_neg refused)
    simp only [after, run_handler, answer a refused, answer { a with nameServers } refused]

/-- A request for the address is acknowledged with all that the arguments give, and with none of
what they leave open. A server with another address refuses it, and with 64 name servers it gets
nothing. -/
theorem handler_decides_wide :
    let a : CommandLine.ServerArguments :=
      { offer := ⟨0xC0A80132⟩, nameServers := [⟨0x08080808⟩, ⟨0x01010101⟩], leaseTime := 7200,
        router := some ⟨0xC0A80101⟩ }
    let elsewhere := { a with offer := ⟨0xC0A80133⟩, unicast := true }
    let wide := { a with nameServers := List.replicate 64 ⟨0x08080808⟩ }
    let data : Octets := List.replicate 240 0 ++ [53, 1, 3, 50, 4, 192, 168, 1, 50, 255]
    let source : Endpoint := .v4 ⟨⟨0x0A000001⟩, clientPort⟩
    ∃ m, Message.decode data = .ok m ∧
      let after (a : CommandLine.ServerArguments) :=
        let w := ReplyWriter.forRequest a.config m source
        ((a.lease.callbacks.handler w).run w {}).2.packets
      (∃ p, after a = [p] ∧ p.target = .v4 ⟨.everyone, 68⟩ ∧ p.Bears .ack ∧
        p.data.slice 16 4 = [192, 168, 1, 50] ∧
        Area.payloads 51 (p.data.drop 240) = [[0, 0, 28, 32]] ∧
        Area.payloads 1 (p.data.drop 240) = [] ∧
        Area.payloads 3 (p.data.drop 240) = [[192, 168, 1, 1]] ∧
        Area.payloads 6 (p.data.drop 240) = [[8, 8, 8, 8, 1, 1, 1, 1]]) ∧
      (∃ p, after elsewhere = [p] ∧ p.target = source ∧ p.Bears .nak ∧
        p.data.slice 16 4 = [0, 0, 0, 0] ∧ Area.payloads 51 (p.data.drop 240) = []) ∧
      after wide = [] := by
  intro a elsewhere wide data source
  obtain ⟨m, decoded⟩ : ∃ m, Message.decode data = .ok m :=
    Message.exists_of_readable (by decide +kernel)
  have readable : (Message.decode data).toOption.any fun m =>
      Opt.messageType .request ∈ m.options.toList ∧ m.AsksFor a.offer ∧
        ¬m.AsksFor elsewhere.offer := by
    decide +kernel
  obtain ⟨request, asks, other⟩ : Opt.messageType .request ∈ m.options.toList ∧
      m.AsksFor a.offer ∧ ¬m.AsksFor elsewhere.offer := by
    simpa only [decoded, Except.toOption, Option.any_some, decide_eq_true_eq] using readable
  refine ⟨m, decoded, ?_, ?_, ?_⟩
  · obtain ⟨queued, after, few, granted, -, -, contents, -⟩ :=
      handler_decides a a.config source m {} rfl
    obtain ⟨p, mem, ack⟩ := (granted (by decide)).2.mpr ⟨request, asks⟩
    obtain ⟨q, rfl⟩ := List.length_eq_one_iff.mp (le_antisymm few (List.length_pos_of_mem mem))
    cases List.mem_singleton.mp mem
    refine ⟨p, congrArg Outbox.packets after, ?_⟩
    rcases contents p mem with ⟨replies, tells, -⟩ | ⟨refuses, -⟩
    · have there : p.target = .v4 ⟨.everyone, 68⟩ ∧ p.data.slice 16 4 = [192, 168, 1, 50] := by
        rcases replies with replies | replies <;>
          exact ⟨replies.target, replies.yiaddr.trans (by decide)⟩
      exact ⟨there.1, ack, there.2, tells.leaseTime.trans (by decide), tells.subnetMask,
        tells.router.trans (by decide), tells.nameServers.trans (by decide)⟩
    · exact absurd (refuses.type.exists_iff.mp ⟨p, mem, ack⟩) (by decide)
  · obtain ⟨queued, after, few, -, refused, -, contents, -⟩ :=
      handler_decides elsewhere elsewhere.config source m {} rfl
    obtain ⟨p, mem, nak⟩ := refused.mpr ⟨request, other⟩
    obtain ⟨q, rfl⟩ := List.length_eq_one_iff.mp (le_antisymm few (List.length_pos_of_mem mem))
    cases List.mem_singleton.mp mem
    refine ⟨p, congrArg Outbox.packets after, ?_⟩
    rcases contents p mem with ⟨replies | replies, -⟩ | ⟨refuses, untimed⟩
    · exact absurd (replies.type.exists_iff.mp ⟨p, mem, nak⟩) (by decide)
    · exact absurd (replies.type.exists_iff.mp ⟨p, mem, nak⟩) (by decide)
    · exact ⟨refuses.target, nak, refuses.yiaddr.trans (by decide), untimed⟩
  · obtain ⟨queued, after, -, -, refused, -, contents, -⟩ :=
      handler_decides wide wide.config source m {} rfl
    have empty : queued = [] := by
      refine List.eq_nil_iff_forall_not_mem.mpr fun p mem => ?_
      rcases contents p mem with ⟨-, -, few⟩ | ⟨refuses, -⟩
      · exact absurd few (by decide)
      · exact (refused.mp ⟨p, mem, refuses.type⟩).2 asks
    rw [empty] at after
    exact congrArg Outbox.packets after

end StaticLease

end Dhcp
