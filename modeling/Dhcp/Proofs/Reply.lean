import Dhcp.Proofs.Overlay
import Dhcp.Proofs.Reading
import Dhcp.Proofs.Travel
import Dhcp.Server.Handler

/-!
# What replies hold

A reply is made of a message by laying options over it, forcing its operation code and transaction
and naming the server. This module says what is found in the result, code by code, from what was
there before.

**The laws** (`stamped_compose`, `mem_options_compose`, `send_cases`, `Travels.compose`): naming the
server changes the option under its code at most, and only where no server identifier is found; a
reply cannot be written, is taken by nobody, or is queued; and a reply made of parts that travel
whole travels whole.
-/

namespace Dhcp

namespace Message

variable {m : Message} {o : Opt}

/-! ## Offers and acknowledgements -/

/-- A grant has the header of a reply, with the address in it. -/
theorem toHeader_granting (request : Message) (type : MessageType) (addr : Ipv4) :
    (granting request type addr).toHeader =
      { (reply request).toHeader with yiaddr := addr } := by
  have header := (toHeader_withOption ((reply request).withMessageType type)
    (.seconds .leaseTime defaultLeaseTime)).trans (toHeader_withOption ..)
  exact congrArg (fun h : Header => { h with yiaddr := addr }) header

theorem holds_granting (request : Message) (type : MessageType) (addr : Ipv4) :
    (granting request type addr).Holds
      [.messageType type, .seconds .leaseTime defaultLeaseTime] :=
  (Holds.empty (m := reply request) rfl).withOptions
    [.messageType type, .seconds .leaseTime defaultLeaseTime]

/-- The options of a grant are its type and the default lease time. -/
theorem mem_options_granting {request : Message} {type : MessageType} {addr : Ipv4} :
    o ∈ (granting request type addr).options.toList ↔
      o = .messageType type ∨ o = .seconds .leaseTime defaultLeaseTime := by
  have distinct : Options.Distinct
      [Opt.messageType type, .seconds .leaseTime defaultLeaseTime] :=
    List.pairwise_pair.mpr (by decide : Format.messageType.code ≠ (Format.seconds .leaseTime).code)
  have unframed : ∀ o ∈ [Opt.messageType type, .seconds .leaseTime defaultLeaseTime],
      o.code ≠ 0 ∧ o.code ≠ 255 :=
    List.forall_mem_cons.mpr ⟨Format.messageType.code_unframed,
      List.forall_mem_singleton.mpr (Format.seconds .leaseTime).code_unframed⟩
  rw [(holds_granting request type addr).mem_iff distinct unframed, List.mem_pair]

end Message

/-! ## Naming the server -/

/-- What is found under each code once a server is named among the options that were laid: its
identifier, unless a server identifier is laid already, and under every other code what was laid. -/
structure Stamped (server? : Option Ipv4) (laid found : UInt8 → Option Opt) : Prop where
  named : ∀ server, server? = some server →
    (∀ addr, laid 54 ≠ some (.address .serverIdentifier addr)) →
      found 54 = some (.address .serverIdentifier server)
  kept : ∀ code, (code ≠ 54 ∨ server? = none ∨
      ∃ addr, laid 54 = some (.address .serverIdentifier addr)) → found code = laid code

/-- What is laid and the server that is named decide what is found. -/
theorem Stamped.unique {server? : Option Ipv4} {laid found found' : UInt8 → Option Opt}
    (h : Stamped server? laid found) (h' : Stamped server? laid found') (code : UInt8) :
    found code = found' code := by
  by_cases same : code ≠ 54 ∨ server? = none ∨
      ∃ addr, laid 54 = some (.address .serverIdentifier addr)
  · rw [h.kept code same, h'.kept code same]
  · obtain ⟨here, announced, apart⟩ := by simpa only [not_or, not_not, not_exists] using same
    obtain ⟨server, announced⟩ := Option.ne_none_iff_exists'.mp announced
    rw [here, h.named server announced apart, h'.named server announced apart]

namespace ReplyWriter

open Message

variable {m : Message}

/-- Naming a server sets the header, and lays its identifier over the message unless there is one.
-/
theorem sign_some (server : Ipv4) (m : Message) :
    sign (some server) m = { m with siaddr := server } ∨
      sign (some server) m =
        ({ m with siaddr := server } : Message).withOption (.address .serverIdentifier server) := by
  rw [sign]
  cases ({ m with siaddr := server } : Message).serverIdentifier? with
  | none => exact .inr rfl
  | some known => exact .inl rfl

/-- Naming a server changes nothing but the option under the code of the server identifier, and that
only where no server identifier is held under it; a raw option under the code gives way. -/
theorem stamped_sign (server? : Option Ipv4) (m : Message) :
    Stamped server? m.option? (sign server? m).option? := by
  cases server? with
  | none => exact ⟨nofun, fun code _ => rfl⟩
  | some server =>
    have held (addr : Ipv4) :
        ({ m with siaddr := server } : Message).serverIdentifier? = some addr ↔
          m.option? 54 = some (.address .serverIdentifier addr) :=
      serverIdentifier?_eq_some_iff_found
    cases known : ({ m with siaddr := server } : Message).serverIdentifier? with
    | some addr =>
      have signed : sign (some server) m = { m with siaddr := server } := by
        simp only [sign, known]
      have typed := (held addr).mp known
      rw [signed]
      exact ⟨fun _ _ apart => absurd typed (apart addr), fun code _ => rfl⟩
    | none =>
      have signed : sign (some server) m = ({ m with siaddr := server } : Message).withOption
          (.address .serverIdentifier server) := by
        simp only [sign, known]
      have found := option?_withOption (m := { m with siaddr := server })
        (Opt.travels_address .serverIdentifier server).unframed
      rw [signed]
      constructor
      · rintro server' ⟨⟩ -
        exact (found 54).trans (if_pos rfl)
      · rintro code (elsewhere | ⟨⟨⟩⟩ | ⟨addr, typed⟩)
        · exact (found code).trans (if_neg fun same => elsewhere same.symm)
        · rw [(held addr).mpr typed] at known
          cases known

/-- The server is named in the header; everything else of the header stays. -/
theorem toHeader_sign (server? : Option Ipv4) (m : Message) :
    (sign server? m).toHeader = { m.toHeader with siaddr := server?.getD m.siaddr } := by
  cases server? with
  | none => rfl
  | some server =>
    rcases sign_some server m with signed | signed
    · rw [signed]
      rfl
    · rw [signed]
      exact toHeader_withOption ..

/-! ## Making a reply -/

variable (w : ReplyWriter)

/-- A reply keeps the header of its message but for the operation code, the transaction and the
server. -/
theorem toHeader_compose (m : Message) (extra : List Opt) :
    (w.compose m extra).toHeader =
      { m.toHeader with
        op := .bootReply
        xid := w.request.xid
        siaddr := w.serverAddress.getD m.siaddr } :=
  calc (w.compose m extra).toHeader
      = { (m.withOptions extra).toHeader with
          op := .bootReply
          xid := w.request.xid
          siaddr := w.serverAddress.getD (m.withOptions extra).siaddr } := toHeader_sign ..
    _ = { m.toHeader with
          op := .bootReply
          xid := w.request.xid
          siaddr := w.serverAddress.getD m.siaddr } := by rw [toHeader_withOptions]

/-- What is found in a reply is what was laid over the message or was there, with the server named.
-/
theorem stamped_compose (m : Message) (extra : List Opt) :
    Stamped w.serverAddress (fun code => (Opt.lastUnder code extra).or (m.option? code))
      (w.compose m extra).option? := by
  have laid : (m.withOptions extra).option? =
      fun code => (Opt.lastUnder code extra).or (m.option? code) :=
    funext (option?_withOptions m extra)
  rw [← laid]
  exact stamped_sign w.serverAddress
    { m.withOptions extra with op := .bootReply, xid := w.request.xid }

/-- The options of a reply, as long as nothing that is laid over it hides another part of that. -/
theorem mem_options_compose {extra : List Opt} (distinct : Options.Distinct extra)
    (unframed : ∀ o ∈ extra, o.code ≠ 0 ∧ o.code ≠ 255)
    (apart : ∀ o ∈ extra, o.code ≠ (Format.address .serverIdentifier).code)
    (absent : m.option? (Format.address .serverIdentifier).code = none) {o : Opt} :
    o ∈ (w.compose m extra).options.toList ↔ o ∈ extra ∨
      (o ∈ m.options.toList ∧ ∀ p ∈ extra, p.code ≠ o.code) ∨
      ∃ server, w.serverAddress = some server ∧ o = .address .serverIdentifier server := by
  have laid (code : UInt8) (p : Opt) :
      Opt.lastUnder code extra = some p ↔ p ∈ extra ∧ p.code = code :=
    Opt.lastUnder_eq_some_iff distinct unframed
  have hidden (code : UInt8) : Opt.lastUnder code extra = none ↔ ∀ p ∈ extra, p.code ≠ code := by
    simp only [Option.eq_none_iff_forall_ne_some, ne_eq, laid, not_and]
  have none_held : (Opt.lastUnder 54 extra).or (m.option? 54) = none := by
    rw [(hidden 54).mpr apart, Option.none_or]
    exact absent
  have stamped := w.stamped_compose m extra
  rw [Options.mem_toList_iff]
  show (w.compose m extra).option? o.code = some o ↔ _
  by_cases here : o.code = 54
  · -- Under this code there is the server and nothing else.
    have fresh : ¬(o ∈ extra ∨ o ∈ m.options.toList ∧ ∀ p ∈ extra, p.code ≠ o.code) := by
      rintro (mem | ⟨mem, -⟩)
      · exact apart o mem here
      · cases absent.symm.trans (here ▸ Options.mem_toList_iff.mp mem)
    rw [← or_assoc, or_iff_right fresh, here]
    cases announced : w.serverAddress with
    | none =>
      rw [stamped.kept 54 (.inr (.inl announced)), none_held]
      simp
    | some server =>
      rw [stamped.named server announced (by rw [none_held]; exact fun _ => nofun)]
      simp [eq_comm]
  · rw [stamped.kept o.code (.inl here), Option.or_eq_some_iff, laid, hidden, and_iff_left rfl,
      and_comm]
    have below : m.option? o.code = some o ↔ o ∈ m.options.toList := Options.mem_toList_iff.symm
    rw [below]
    constructor
    · rintro (mem | behind)
      · exact .inl mem
      · exact .inr (.inl behind)
    · rintro (mem | behind | ⟨server, -, rfl⟩)
      · exact .inl mem
      · exact .inr behind
      · exact absurd rfl here

/-! ## Sending a reply -/

/-- Sending a reply has three outcomes: the reply cannot be written, nobody takes it, or it is
queued. -/
theorem send_cases (r : Reply) (box : Outbox) :
    (∃ cause, (w.compose (r.base w.request) r.extra).encode = .error cause ∧
      w.send r box = (.error (.unwritable cause), box)) ∨
    (∃ data, (w.compose (r.base w.request) r.extra).encode = .ok data ∧ box.isOpen = false ∧
      w.send r box = (.error .serverClosed, box)) ∨
    (∃ data, (w.compose (r.base w.request) r.extra).encode = .ok data ∧ box.isOpen = true ∧
      w.send r box = (.ok (), { box with packets := box.packets ++ [⟨w.destination, data⟩] })) := by
  cases written : (w.compose (r.base w.request) r.extra).encode with
  | error cause =>
    refine .inl ⟨cause, rfl, ?_⟩
    simp only [send, packet, written]
  | ok data =>
    have queued : w.send r box = box.push ⟨w.destination, data⟩ := by
      simp only [send, packet, written]
    rw [queued, Outbox.push]
    cases taken : box.isOpen with
    | false => exact .inr (.inl ⟨data, rfl, rfl, rfl⟩)
    | true => exact .inr (.inr ⟨data, rfl, rfl, rfl⟩)

variable {w} {r : Reply} {p : Packet} {box : Outbox}

/-- The packet of a reply holds the octets of what the writer makes of it. -/
theorem packet_eq_ok_iff :
    w.packet r = .ok p ↔
      (∀ o ∈ (w.compose (r.base w.request) r.extra).options.toList, o.Writable) ∧
        p = ⟨w.destination, (w.compose (r.base w.request) r.extra).octets⟩ := by
  unfold packet
  constructor
  · intro made
    split at made
    · cases made
    · next data written =>
      cases made
      obtain ⟨writable, rfl⟩ := Message.encode_eq_ok_iff.mp written
      exact ⟨writable, rfl⟩
  · rintro ⟨writable, rfl⟩
    rw [Message.encode_eq_ok_iff.mpr ⟨writable, rfl⟩]

/-- A reply that was taken was written, and its packet is the last in the outbox. -/
theorem packet_of_send (sent : (w.send r box).1 = .ok ()) :
    ∃ p, w.packet r = .ok p ∧ (w.send r box).2 = { box with packets := box.packets ++ [p] } := by
  unfold send at *
  cases made : w.packet r with
  | error cause =>
    rw [made] at sent
    cases sent
  | ok p =>
    simp only [made, Outbox.push] at *
    cases taking : box.isOpen with
    | false => simp [taking] at sent
    | true => exact ⟨p, rfl, rfl⟩

end ReplyWriter

namespace Message.Travels

variable {m : Message} {n : Nat}

/-- A message that travels does so with a server named in it, which adds one option at most. -/
theorem sign (travels : m.Travels n) (server? : Option Ipv4) :
    (ReplyWriter.sign server? m).Travels (n + 1) := by
  cases server? with
  | none => exact travels.mono (Nat.le_succ n)
  | some server =>
    have named : ({ m with siaddr := server } : Message).Travels n :=
      travels.of_same rfl rfl rfl rfl rfl rfl
    rcases ReplyWriter.sign_some server m with signed | signed
    · exact signed ▸ named.mono (Nat.le_succ n)
    · exact signed ▸ named.withOption (Opt.travels_address .serverIdentifier server)

/-- A reply has at most one option more than the message and what is laid over it. -/
theorem compose (travels : m.Travels n) (w : ReplyWriter) {extra : List Opt}
    (whole : ∀ o ∈ extra, o.Travels) : (w.compose m extra).Travels (n + extra.length + 1) := by
  apply sign
  obtain ⟨header, fits, options, few⟩ := travels.withOptions whole
  exact ⟨{ header with notRequest := nofun, notReply := nofun }, fits, options, few⟩

end Message.Travels

/-- A reply that travels can be written. -/
theorem ReplyWriter.packet_of_travels {w : ReplyWriter} {r : Reply} {m : Message}
    (made : w.compose (r.base w.request) r.extra = m) {n : Nat} (travels : m.Travels n) :
    w.packet r = .ok ⟨w.destination, m.octets⟩ := by
  rw [packet, made, travels.encode]

/-- A reply that can be written is queued while replies are taken. -/
theorem ReplyWriter.send_of_packet {w : ReplyWriter} {r : Reply} {p : Packet}
    (made : w.packet r = .ok p) {box : Outbox} (taking : box.isOpen = true) :
    w.send r box = (.ok (), { box with packets := box.packets ++ [p] }) := by
  simp only [send, made, Outbox.push, taking, if_true]

/-- A reply that cannot be written is refused and not queued. -/
theorem ReplyWriter.send_of_refused {w : ReplyWriter} {r : Reply} {cause : WireFault}
    (refused : w.packet r = .error cause) (box : Outbox) :
    w.send r box = (.error (.unwritable cause), box) := by
  simp only [send, refused]

/-! ## Running a handler -/

namespace Answering

section Open

variable {α : Type} {w : ReplyWriter} {r : Reply} {next : Except Fault Unit → Answering α}

/-- A handler whose reply is taken goes on with that, and the packet is queued. -/
theorem run_send_of_packet {p : Packet} (made : w.packet r = .ok p) (box : Outbox)
    (taking : box.isOpen = true) :
    (send r next).run w box =
      (next (.ok ())).run w { box with packets := box.packets ++ [p] } := by
  rw [run, ReplyWriter.send_of_packet made taking]

/-- A handler whose reply cannot be written goes on with that, and nothing is queued. -/
theorem run_send_of_refused {cause : WireFault} (refused : w.packet r = .error cause)
    (box : Outbox) :
    (send r next).run w box = (next (.error (.unwritable cause))).run w box := by
  rw [run, ReplyWriter.send_of_refused refused]

/-- Where replies are taken, a handler does what it does with an outbox of its own, and its replies
are queued behind those that are there already. -/
theorem run_of_open (a : Answering α) (box : Outbox) (taking : box.isOpen = true) :
    a.run w box =
      ((a.run w {}).1, { box with packets := box.packets ++ (a.run w {}).2.packets }) := by
  induction a generalizing box with
  | done result => simp only [run, List.append_nil]
  | send r next ih =>
    cases made : w.packet r with
    | error cause =>
      rw [run_send_of_refused made, run_send_of_refused made]
      exact ih _ box taking
    | ok p =>
      rw [run_send_of_packet made box taking, run_send_of_packet made {} rfl,
        ih (.ok ()) { box with packets := box.packets ++ [p] } taking,
        ih (.ok ()) { packets := [] ++ [p] } rfl, List.append_assoc, List.nil_append]

end Open

/-- A handler that goes on with a result runs on in the outbox that its first part leaves. -/
theorem run_bind {α β : Type} (w : ReplyWriter) (a : Answering α) (f : α → Answering β)
    (box : Outbox) : (a.bind f).run w box = (f (a.run w box).1).run w (a.run w box).2 := by
  induction a generalizing box with
  | done result => rfl
  | send r next ih => exact ih _ _

/-- Changing the result of a handler changes nothing of what it sends. -/
theorem run_map {α β : Type} (w : ReplyWriter) (f : α → β) (a : Answering α) (box : Outbox) :
    (a.map f).run w box = (f (a.run w box).1, (a.run w box).2) :=
  run_bind ..

end Answering

/-- A request that has a route with a handler is handled by it. -/
theorem Callbacks.run_handler {α : Type} {c : Callbacks α} {w : ReplyWriter} {route : Route}
    (routed : Route.ofMessage? w.request = some route) {h : Handler α} (on : c.on route = some h)
    (box : Outbox) :
    (c.handler w).run w box = (some (route, ((h w).run w box).1), ((h w).run w box).2) := by
  simp only [handler, routed, on, Answering.run_map]

end Dhcp
