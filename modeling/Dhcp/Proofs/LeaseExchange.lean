import Dhcp.CommandLine.Setup
import Dhcp.Proofs.Obtaining
import Dhcp.Proofs.StaticGrant

/-!
# A client that leases from a server with one address

Client and server are put on one link, both with the standard registry. The client obtains exactly
the lease that the server was told to hand out, may renew it, and hears nothing when it gives it
back.

**The law** (`Client.leases_over_link`): this holds of every configuration of the client whose host
name and list of codes fit their options, and of every configuration of the server with at most 63
name servers.
-/

namespace Dhcp

namespace Client

/-- A client that asked for an offer of the server settles on what the server grants. -/
theorem settle_grant (c : Client) (lease : StaticLease) {v w : ReplyWriter}
    (same : v.serverAddress = w.serverAddress) :
    c.settle (lease.grant v .offer) (lease.grant w .ack) =
      .ok (lease.granted w.serverAddress, c.bound lease.address w.serverAddress) := by
  have address : (lease.grant w .ack).yiaddr = lease.address := by
    rw [lease.toHeader_grant]
  rw [c.settle_of_ack _ (lease.messageType?_grant w .ack), lease.ofAck_grant, address,
    lease.serverIdentifier?_grant, lease.offeringServer?_grant, same, Option.or_self]

section Link

variable {c : Client} (clientStandard : c.registry = .standard)
  {s : Server} (serverStandard : s.registry = .standard)
  (lease : StaticLease) (few : lease.nameServers.length ≤ 63)
  (source : Nat → Endpoint) {t : Traffic} (empty : t.inbox = [])

/-! ## Operations -/

variable (name : ∀ name, c.config.hostName = some name → (Octets.ofText name).length ≤ 255)
  (list : c.config.parameterRequestList.length ≤ 255) (xid : UInt32)

include clientStandard serverStandard few empty in
/-- An operation to whose message the server replies with a grant gets that grant. -/
theorem perform_granted (op : Operation) (knows : c.Knows op)
    (fits : ∀ t ∈ c.carries op, t.payload.length ≤ 255) {type : MessageType}
    (named : type ∈ MessageType.named)
    (queued : ∀ m, c.Tells op xid m → m.Travels 7 →
      (s.handle lease.callbacks.handler (source t.sent.length) m).packets =
        [⟨s.config.destination (source t.sent.length),
          (lease.grant (.forRequest s.config m (source t.sent.length)) type).octets⟩]) :
    ∃ w t', w.serverAddress = s.config.serverAddress ∧ t'.inbox = [] ∧
      (c.perform op xid).run c (s.link lease.callbacks.handler source) t =
        (.ok (lease.grant w type), t') := by
  obtain ⟨target, m, plan, tells⟩ := exists_plan op xid knows
  have travels := tells.travels fits
  have header := lease.toHeader_grant (.forRequest s.config m (source t.sent.length)) type
  have granted : c.exchange (s.link lease.callbacks.handler source) target m t =
      (.ok (lease.grant (.forRequest s.config m (source t.sent.length)) type),
        ⟨[], t.sent ++ [⟨target, m.octets⟩]⟩) := by
    apply exchange_answered clientStandard travels empty
    · exact lease.travels_grant _ type few travels named
    · rw [header]
      rfl
    · rw [header]
      rfl
    · rw [Server.link_eq serverStandard _ source travels tells.asks, queued m tells travels]
      rfl
  rw [c.run_perform_of_plan _ t plan]
  exact ⟨_, _, rfl, rfl, granted⟩

include clientStandard serverStandard few empty name list

/-- A client that looks for servers is offered the address. -/
theorem discover_over_link :
    ∃ w t', w.serverAddress = s.config.serverAddress ∧ t'.inbox = [] ∧
      (c.perform .discover xid).run c (s.link lease.callbacks.handler source) t =
        (.ok (lease.grant w .offer), t') := by
  apply perform_granted clientStandard serverStandard lease few source empty xid .discover
    trivial (c.ownTriples_fit name list) (by decide)
  intro m tells travels
  exact lease.packets_discover s _ few travels tells.messageType?

/-- A client that asks for the address of an offer of the server is granted it. -/
theorem request_over_link {offer : Message} (offered : offer.yiaddr = lease.address) :
    ∃ w t', w.serverAddress = s.config.serverAddress ∧ t'.inbox = [] ∧
      (c.perform (.request offer) xid).run c (s.link lease.callbacks.handler source) t =
        (.ok (lease.grant w .ack), t') := by
  apply perform_granted clientStandard serverStandard lease few source empty xid
    (.request offer) trivial (c.ownTriples_fit name list) (by decide)
  intro m tells travels
  have asked : Opt.address .requestedAddress lease.address ∈ m.options.toList := by
    rw [← offered]
    exact tells.mem_options_iff.mpr (List.mem_append_right _ List.mem_cons_self)
  have fresh : m.ciaddr = .unspecified := tells.ciaddr
  apply lease.packets_request s _ few travels tells.messageType?
  exact (if_pos fresh).mpr asked

/-- A client obtains exactly the lease of the server, and remembers its address and the server. -/
theorem obtainLease_over_link :
    ∃ t', t'.inbox = [] ∧
      (c.obtainLease xid).run c (s.link lease.callbacks.handler source) t =
        ((.ok (lease.granted s.config.serverAddress),
          c.bound lease.address s.config.serverAddress), t') := by
  obtain ⟨v, t₁, announced, empty₁, discovered⟩ := discover_over_link clientStandard serverStandard
    lease few source empty name list xid
  have offered : (lease.grant v .offer).yiaddr = lease.address := by
    rw [lease.toHeader_grant]
  obtain ⟨w, t₂, announced', empty₂, requested⟩ := request_over_link clientStandard serverStandard
    lease few source empty₁ name list xid offered
  have settled := c.settle_grant lease (announced.trans announced'.symm)
  rw [announced'] at settled
  refine ⟨t₂, empty₂, ?_⟩
  rw [run_obtainLease_of_offer discovered (lease.messageType?_grant v .offer)]
  exact run_accept_of_lease requested settled

/-- A client that holds the address of the server has it renewed. -/
theorem renew_over_link (held : c.config.clientAddress = some lease.address)
    (known : ∃ server, c.config.server = some server) (real : lease.address ≠ .unspecified) :
    ∃ w t', w.serverAddress = s.config.serverAddress ∧ t'.inbox = [] ∧
      (c.perform .renew xid).run c (s.link lease.callbacks.handler source) t =
        (.ok (lease.grant w .ack), t') := by
  have address := Option.ne_none_iff_exists'.mpr ⟨_, held⟩
  have server := Option.ne_none_iff_exists'.mpr known
  apply perform_granted clientStandard serverStandard lease few source empty xid .renew
    ⟨address, server⟩ (c.ownTriples_fit name list) (by decide)
  intro m tells travels
  have holds : m.ciaddr = lease.address := by
    rw [tells.ciaddr, headingAddress, held, Option.getD_some]
  apply lease.packets_request s _ few travels tells.messageType?
  rw [Message.AsksFor, holds, if_neg real]

omit clientStandard few name list in
/-- Giving an address back is not answered. -/
theorem release_over_link (held : ∃ addr, c.config.clientAddress = some addr)
    (known : ∃ server, c.config.server = some server) :
    ∃ t', t'.inbox = [] ∧
      (c.perform .release xid).run c (s.link lease.callbacks.handler source) t =
        (.error (.timeout c.config.timeout), t') := by
  have address := Option.ne_none_iff_exists'.mpr held
  have server := Option.ne_none_iff_exists'.mpr known
  obtain ⟨target, m, plan, tells⟩ := exists_plan .release xid ⟨address, server⟩
  have travels := tells.travels nofun
  have silent := lease.packets_release s (source t.sent.length) tells.messageType?
  have delivers : s.link lease.callbacks.handler source t.sent.length ⟨target, m.octets⟩ =
      some [] := by
    rw [Server.link_eq serverStandard _ source travels tells.asks, silent]
    rfl
  rw [c.run_perform_of_plan _ t plan]
  exact ⟨_, rfl, exchange_unanswered travels empty delivers⟩

end Link

/-! ## Leasing -/

/-- A client that obtains a lease from a server with one address holds exactly what the server was
told to hand out and remembers the address and the server that announced itself. From then on it
gets the same lease again whenever it renews, if the address is one and it knows a server; nothing
answers when it gives the address back. -/
theorem leases_over_link (c : Client) (clientStandard : c.registry = .standard)
    (name : ∀ name, c.config.hostName = some name → (Octets.ofText name).length ≤ 255)
    (list : c.config.parameterRequestList.length ≤ 255)
    (a : CommandLine.ServerArguments) (few : a.nameServers.length ≤ 63)
    (s : Server) (serverStandard : s.registry = .standard)
    (source : Nat → Endpoint) (xid : UInt32) (t : Traffic) (empty : t.inbox = []) :
    let network := s.link a.lease.callbacks.handler source
    let lease : Lease :=
      { address := a.offer
        subnetMask := a.subnetMask
        routers := a.router.map fun router => [router]
        nameServers := if a.nameServers = [] then none else some a.nameServers
        duration := some (.ofSeconds a.leaseTime.toNat)
        renewalTime := none
        rebindingTime := none
        serverIdentifier := s.config.serverAddress }
    let after : Client :=
      { c with
        config :=
          { c.config with
            clientAddress := some a.offer
            server := s.config.serverAddress.or c.config.server } }
    ∃ t₁, t₁.inbox = [] ∧ c.call network t (.obtainLease xid) = (.ok (.lease lease), after, t₁) ∧
      (a.offer ≠ .unspecified → after.config.server ≠ none → ∀ t xid, t.inbox = [] →
        (∃ ack t₂, t₂.inbox = [] ∧
          after.call network t (.perform .renew xid) = (.ok (.message ack), after, t₂) ∧
          ack.messageType? = some .ack ∧ ack.yiaddr = a.offer ∧ Lease.ofAck ack = lease) ∧
        ∃ t₃, t₃.inbox = [] ∧
          after.call network t (.perform .release xid) =
            (.error (.timeout c.config.timeout), after, t₃)) := by
  intro network lease after
  obtain ⟨t₁, empty₁, obtained⟩ := obtainLease_over_link clientStandard serverStandard
    a.lease few source empty name list xid
  have obtained : (c.obtainLease xid).run c network t = ((.ok lease, after), t₁) := obtained
  refine ⟨t₁, empty₁, ?_, ?_⟩
  · rw [call, obtained]
    rfl
  · intro real known t xid empty
    have server := Option.ne_none_iff_exists'.mp known
    obtain ⟨w, t₂, announced, empty₂, renewed⟩ := renew_over_link (c := after)
      clientStandard serverStandard a.lease few source empty name list xid rfl server real
    obtain ⟨t₃, empty₃, released⟩ := release_over_link (c := after)
      serverStandard a.lease source empty xid ⟨a.offer, rfl⟩ server
    refine ⟨⟨a.lease.grant w .ack, t₂, empty₂, ?_, a.lease.messageType?_grant w .ack, ?_, ?_⟩,
      t₃, empty₃, ?_⟩
    · rw [call, renewed]
      rfl
    · rw [a.lease.toHeader_grant]
      rfl
    · rw [a.lease.ofAck_grant, announced]
      rfl
    · rw [call, released]
      rfl

/-- A home network with two name servers, in which the client names itself. -/
theorem leases_over_link_home :
    let c : Client := { config := { mac := ⟨[2, 0, 0, 0, 0, 1], rfl⟩, hostName := some "home" } }
    let s : Server := { config := { serverAddress := some ⟨0xC0A80001⟩ } }
    let a : CommandLine.ServerArguments :=
      { offer := ⟨0xC0A80064⟩
        router := some ⟨0xC0A80001⟩
        nameServers := [⟨0xC0A80001⟩, ⟨0x08080808⟩]
        leaseTime := 3600 }
    let network := s.link a.lease.callbacks.handler fun _ => .v4 ⟨.unspecified, clientPort⟩
    let lease : Lease :=
      { address := ⟨0xC0A80064⟩
        subnetMask := none
        routers := some [⟨0xC0A80001⟩]
        nameServers := some [⟨0xC0A80001⟩, ⟨0x08080808⟩]
        duration := some (.ofSeconds 3600)
        renewalTime := none
        rebindingTime := none
        serverIdentifier := some ⟨0xC0A80001⟩ }
    let after : Client :=
      { c with
        config :=
          { c.config with
            clientAddress := some ⟨0xC0A80064⟩
            server := some ⟨0xC0A80001⟩ } }
    ∃ t₁, c.call network { inbox := [] } (.obtainLease 7) = (.ok (.lease lease), after, t₁) ∧
      ∃ ack t₂, after.call network t₁ (.perform .renew 8) = (.ok (.message ack), after, t₂) ∧
        Lease.ofAck ack = lease := by
  intro c s a network lease after
  have name : ∀ name, c.config.hostName = some name → (Octets.ofText name).length ≤ 255 := by
    rintro name ⟨⟩
    decide
  obtain ⟨t₁, empty, obtained, later⟩ := leases_over_link c rfl name (by decide) a (by decide) s rfl
    (fun _ => .v4 ⟨.unspecified, clientPort⟩) 7 { inbox := [] } rfl
  obtain ⟨⟨ack, t₂, -, renewed, -, -, same⟩, -⟩ := later (by decide) nofun t₁ 8 empty
  exact ⟨t₁, obtained, ack, t₂, renewed, same⟩

end Client

end Dhcp
