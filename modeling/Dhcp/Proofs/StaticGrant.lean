import Dhcp.Client.Operation
import Dhcp.Proofs.Reply
import Dhcp.Server.StaticLease

/-!
# What a server with one address grants

Offers and acknowledgements of a server with one address differ in their message type alone. What
such a reply says, and the lease that a client reads in it, depend on the address with its options,
on the request and on the address that the server announces.

**The laws** (`mem_options_grant`, `ofAck_grant`, `run_handler`): beside the options that go with
the address the reply holds its message type and the server identifier, so a client reads in it
exactly the lease that the server was told to hand out. All that a request leads to is that one
reply is sent or none, and which one is a function of the request.
-/

namespace Dhcp

/-- A request asks for an address: a client that has an address asks for it by having it, any other
one by naming it. -/
def Message.AsksFor (m : Message) (addr : Ipv4) : Prop :=
  if m.ciaddr = .unspecified then Opt.address .requestedAddress addr ∈ m.options.toList
  else m.ciaddr = addr

instance (m : Message) (addr : Ipv4) : Decidable (m.AsksFor addr) :=
  inferInstanceAs (Decidable (if m.ciaddr = .unspecified then
    Opt.address .requestedAddress addr ∈ m.options.toList else m.ciaddr = addr))

namespace StaticLease

variable (lease : StaticLease)

/-! ## The options that go with the address -/

/-- With the address go its lease time and what else was given. -/
theorem mem_options_iff {o : Opt} :
    o ∈ lease.options ↔ o = .seconds .leaseTime lease.leaseTime ∨
      (∃ mask, lease.subnetMask = some mask ∧ o = .address .subnetMask mask) ∨
      (∃ router, lease.router = some router ∧ o = .addresses .router [router]) ∨
      lease.nameServers ≠ [] ∧ o = .addresses .domainNameServer lease.nameServers := by
  have servers : o ∈ (if lease.nameServers = [] then []
      else [Opt.addresses .domainNameServer lease.nameServers]) ↔
      lease.nameServers ≠ [] ∧ o = .addresses .domainNameServer lease.nameServers := by
    split <;> simp [*]
  simp only [options, List.cons_append, List.mem_cons, List.mem_append, servers, Option.mem_toList,
    Option.map_eq_some_iff, or_assoc, eq_comm (b := o)]

theorem distinct_options : Options.Distinct lease.options := by
  unfold options
  cases lease.subnetMask <;> cases lease.router <;> split <;>
    simp [Options.Distinct, Opt.code, Format.code]

theorem length_options_le : lease.options.length ≤ 4 := by
  unfold options
  cases lease.subnetMask <;> cases lease.router <;> split <;> simp

/-- The options that go with the address have formats of their own. -/
theorem format?_of_mem_options {o : Opt} (mem : o ∈ lease.options) :
    ∃ f, o.format? = some f ∧ f ≠ .messageType ∧ f ≠ .address .serverIdentifier := by
  rcases lease.mem_options_iff.mp mem with rfl | ⟨mask, -, rfl⟩ | ⟨router, -, rfl⟩ | ⟨-, rfl⟩
  · exact ⟨.seconds .leaseTime, rfl, nofun, nofun⟩
  · exact ⟨.address .subnetMask, rfl, nofun, nofun⟩
  · exact ⟨.addresses .router, rfl, nofun, nofun⟩
  · exact ⟨.addresses .domainNameServer, rfl, nofun, nofun⟩

/-- The options that go with the address travel if the name servers fit theirs. -/
theorem travels_options (few : lease.nameServers.length ≤ 63) : ∀ o ∈ lease.options, o.Travels := by
  intro o mem
  rcases lease.mem_options_iff.mp mem with rfl | ⟨mask, -, rfl⟩ | ⟨router, -, rfl⟩ | ⟨filled, rfl⟩
  · exact Opt.travels_seconds ..
  · exact Opt.travels_address ..
  · refine Opt.travels_addresses _ (List.cons_ne_nil router []) ?_
    show 1 ≤ 63
    decide
  · exact Opt.travels_addresses _ filled few

/-! ## Offers and acknowledgements -/

/-- The reply that offers or grants the address. -/
def grant (w : ReplyWriter) (type : MessageType) : Message :=
  w.compose (Message.granting w.request type lease.address) lease.options

variable (w : ReplyWriter) (type : MessageType)

/-- A grant travels if the request does and the name servers fit. -/
theorem travels_grant (few : lease.nameServers.length ≤ 63) {n : Nat}
    (request : w.request.Travels n) (named : type ∈ MessageType.named) :
    (lease.grant w type).Travels 7 :=
  ((request.granting named lease.address).compose w (lease.travels_options few)).mono
    (Nat.add_le_add_right (Nat.add_le_add_left lease.length_options_le 2) 1)

/-- A grant has the header of a reply, with the address and the server in it. -/
theorem toHeader_grant :
    (lease.grant w type).toHeader =
      { (Message.reply w.request).toHeader with
        yiaddr := lease.address
        siaddr := w.serverAddress.getD .unspecified } := by
  have composed := w.toHeader_compose (Message.granting w.request type lease.address) lease.options
  rw [Message.toHeader_granting] at composed
  exact composed

/-- A grant has the options that go with the address, its type and the server identifier, and no
others. -/
theorem mem_options_grant {o : Opt} :
    o ∈ (lease.grant w type).options.toList ↔ o ∈ lease.options ∨ o = .messageType type ∨
      ∃ server, w.serverAddress = some server ∧ o = .address .serverIdentifier server := by
  have apart {f : Format} (other : f = .messageType ∨ f = .address .serverIdentifier) :
      ∀ p ∈ lease.options, p.code ≠ f.code := by
    intro p mem same
    obtain ⟨g, known, notType, notServer⟩ := lease.format?_of_mem_options mem
    have clash : g = f := Format.code_injective (Opt.code_of_format? known ▸ same)
    rcases other with rfl | rfl
    · exact notType clash
    · exact notServer clash
  have unframed : ∀ p ∈ lease.options, p.code ≠ 0 ∧ p.code ≠ 255 := by
    intro p mem
    obtain ⟨f, known, -⟩ := lease.format?_of_mem_options mem
    exact Opt.code_of_format? known ▸ f.code_unframed
  rw [grant, w.mem_options_compose lease.distinct_options unframed (apart (.inr rfl))
    (Message.holds_granting ..), Message.mem_options_granting]
  constructor
  · rintro (mem | ⟨rfl | rfl, fresh⟩ | named)
    · exact .inl mem
    · exact .inr (.inl rfl)
    · -- The time that every grant starts with gives way to that of the lease.
      have time := lease.mem_options_iff.mpr (.inl rfl)
      exact absurd rfl (fresh (.seconds .leaseTime lease.leaseTime) time)
    · exact .inr (.inr named)
  · rintro (mem | rfl | named)
    · exact .inl mem
    · exact .inr (.inl ⟨.inl rfl, apart (.inl rfl)⟩)
    · exact .inr (.inr named)

/-! ## What a client reads -/

theorem messageType?_grant : (lease.grant w type).messageType? = some type := by
  rw [Message.messageType?_eq_some_iff, mem_options_grant]
  exact .inr (.inl rfl)

/-- A client reads in a grant the address that the server announces. -/
theorem serverIdentifier?_grant : (lease.grant w type).serverIdentifier? = w.serverAddress := by
  ext server
  rw [Message.serverIdentifier?_eq_some_iff, mem_options_grant, mem_options_iff]
  simp

/-- A server that announces no address is not known from its replies either. -/
theorem offeringServer?_grant : (lease.grant w type).offeringServer? = w.serverAddress := by
  have header := lease.toHeader_grant w type
  rw [Message.offeringServer?, serverIdentifier?_grant]
  cases announced : w.serverAddress with
  | some server => rfl
  | none =>
    have siaddr : (lease.grant w type).siaddr = .unspecified := by
      rw [header, announced, Option.getD_none]
    simp only [siaddr, if_pos]

/-- The lease that a server was told to hand out. -/
def granted (server? : Option Ipv4) : Lease where
  address := lease.address
  subnetMask := lease.subnetMask
  routers := lease.router.map fun router => [router]
  nameServers := if lease.nameServers = [] then none else some lease.nameServers
  duration := some (.ofSeconds lease.leaseTime.toNat)
  renewalTime := none
  rebindingTime := none
  serverIdentifier := server?

/-- A client reads in a grant the lease that the server was told to hand out. -/
theorem ofAck_grant : Lease.ofAck (lease.grant w type) = lease.granted w.serverAddress := by
  have header := lease.toHeader_grant w type
  rw [Lease.ofAck_eq_iff, header]
  refine ⟨rfl, ?_⟩
  simp only [mem_options_grant, mem_options_iff]
  refine ⟨?_, ?_, ?_, ?_, ?_, ?_, ?_⟩
  · simp [granted]
  · intro routers
    rw [granted, Option.map_eq_some_iff]
    simp [eq_comm]
  · simp [granted, eq_comm]
  · simp [granted, eq_comm]
  · simp [granted]
  · simp [granted]
  · simp [granted]

/-! ## What requests lead to -/

/-- The reply to a request, if it gets one. -/
def answer? (m : Message) : Option Reply :=
  match m.messageType? with
  | some .discover => some (.offer lease.address lease.options)
  | some .request =>
    some (if m.AsksFor lease.address then .ack lease.address lease.options
      else .nak "requested address not available" [])
  | _ => none

theorem run_say (r : Reply) (box : Outbox) : ((say r).run w box).2 = (w.send r box).2 := by
  rw [say, Answering.run_map]
  rfl

/-- A handler that grants what is asked for decides by whether the request asks for the address. -/
theorem run_ackIf {asked : Prop} [Decidable asked]
    (same : w.request.AsksFor lease.address ↔ asked) (box : Outbox) :
    ((lease.ackIf asked).run w box).2 =
      (w.send (if w.request.AsksFor lease.address then .ack lease.address lease.options
        else .nak "requested address not available" []) box).2 := by
  by_cases asks : asked
  · rw [if_pos (same.mpr asks), ackIf, if_pos (decide_eq_true asks), run_say]
  · rw [if_neg (mt same.mp asks), ackIf, if_neg (by simpa using asks), run_say]

/-- All that a request leads to is that its reply is sent. -/
theorem run_handler (box : Outbox) :
    ((lease.callbacks.handler w).run w box).2 =
      match lease.answer? w.request with
      | none => box
      | some r => (w.send r box).2 := by
  cases type : w.request.messageType? with
  | none =>
    simp only [Callbacks.handler, Route.ofMessage?, answer?, type]
    rfl
  | some t =>
    cases t with
    | discover =>
      have routed : Route.ofMessage? w.request = some .discover := by
        rw [Route.ofMessage?, type]
      simp only [Callbacks.run_handler routed rfl, answer?, type]
      exact run_say ..
    | request =>
      by_cases unheld : w.request.ciaddr = .unspecified
      · have routed : Route.ofMessage? w.request = some .request := by
          rw [Route.ofMessage?, type]
          exact congrArg some (if_pos unheld)
        simp only [Callbacks.run_handler routed rfl, answer?, type]
        have asks : w.request.AsksFor lease.address ↔
            w.request.requestedAddress? = some lease.address := by
          rw [Message.requestedAddress?_eq_some_iff]
          exact iff_of_eq (if_pos unheld)
        exact lease.run_ackIf w asks box
      · have routed : Route.ofMessage? w.request = some .renew := by
          rw [Route.ofMessage?, type]
          exact congrArg some (if_neg unheld)
        simp only [Callbacks.run_handler routed rfl, answer?, type]
        exact lease.run_ackIf w (iff_of_eq (if_neg unheld)) box
    | _ =>
      simp only [Callbacks.handler, Route.ofMessage?, answer?, type]
      rfl

section Packets

variable (s : Server) (source : Endpoint) {m : Message}

/-- A request whose reply can be written gets the packet of that reply, and no other. -/
theorem packets_of_answer {r : Reply} (answer : lease.answer? m = some r) {p : Packet}
    (written : (ReplyWriter.forRequest s.config m source).packet r = .ok p) :
    (s.handle lease.callbacks.handler source m).packets = [p] := by
  have answer : lease.answer? (ReplyWriter.forRequest s.config m source).request = some r := answer
  have opened : ({} : Outbox).isOpen = true := rfl
  have sent := ReplyWriter.send_of_packet written opened
  simp only [Server.handle, run_handler, answer, sent, List.nil_append]

variable (few : lease.nameServers.length ≤ 63) {n : Nat} (travels : m.Travels n)

include few travels

theorem packets_discover (type : m.messageType? = some .discover) :
    (s.handle lease.callbacks.handler source m).packets =
      [⟨s.config.destination source,
        (lease.grant (.forRequest s.config m source) .offer).octets⟩] := by
  have offer : (lease.grant (.forRequest s.config m source) .offer).Travels 7 :=
    lease.travels_grant _ .offer few travels (by decide)
  have answer : lease.answer? m = some (.offer lease.address lease.options) := by
    rw [answer?, type]
  exact lease.packets_of_answer s source answer (ReplyWriter.packet_of_travels rfl offer)

/-- A request that asks for the address gets an acknowledgement. -/
theorem packets_request (type : m.messageType? = some .request) (asks : m.AsksFor lease.address) :
    (s.handle lease.callbacks.handler source m).packets =
      [⟨s.config.destination source,
        (lease.grant (.forRequest s.config m source) .ack).octets⟩] := by
  have ack : (lease.grant (.forRequest s.config m source) .ack).Travels 7 :=
    lease.travels_grant _ .ack few travels (by decide)
  have answer : lease.answer? m = some (.ack lease.address lease.options) := by
    simp only [answer?, type, if_pos asks]
  exact lease.packets_of_answer s source answer (ReplyWriter.packet_of_travels rfl ack)

omit few travels

/-- A client that gives the address back gets nothing. -/
theorem packets_release (type : m.messageType? = some .release) :
    (s.handle lease.callbacks.handler source m).packets = [] := by
  have silent : lease.answer? (ReplyWriter.forRequest s.config m source).request = none := by
    show lease.answer? m = none
    rw [answer?, type]
  simp only [Server.handle, run_handler, silent]

end Packets

end StaticLease

end Dhcp
