import Dhcp.Proofs.ClientMessage
import Dhcp.Proofs.Link
import Dhcp.Proofs.Reply

/-!
# What a server makes of the operations of a client

A client that knows what an operation needs sends one datagram for it, unless a text or a list that
the operation carries fits no option. A server reads exactly the message that the client built, and
hands it to the one handler that is meant for the operation.

**The law** (`Client.perform_understood`): this holds of every configuration, every offer and every
reason, and of every network and every server with the standard registry. A client that renews the
unspecified address is the one case where the handler is not the one that bears the name of the
operation: a server takes it for a client that asks for its first lease.
-/

namespace Dhcp

/-- What comes of a request that one callback is called for: its result, with the route that it was
called for, and the outbox with its replies. -/
def Route.ran {α : Type} (route : Route) (h : Handler α) (w : ReplyWriter) (box : Outbox) :
    Option (Route × α) × Outbox :=
  (some (route, ((h w).run w box).1), ((h w).run w box).2)

namespace Callbacks

variable {α : Type} (cb : Callbacks α)

/-- What comes of a request for which the callback of a route is called, and no other. Requests for
parameters alone may have no callback; then nothing is done. -/
def called (route : Route) (w : ReplyWriter) (box : Outbox) : Option (Route × α) × Outbox :=
  match route with
  | .discover => Route.discover.ran cb.discover w box
  | .request => Route.request.ran cb.request w box
  | .renew => Route.renew.ran cb.renew w box
  | .decline => Route.decline.ran cb.decline w box
  | .release => Route.release.ran cb.release w box
  | .inform =>
    match cb.inform with
    | some inform => Route.inform.ran inform w box
    | none => (none, box)

/-- For a request with a route the callback of the route is called, and no other. -/
theorem run_handler_of_route {w : ReplyWriter} {route : Route}
    (routed : Route.ofMessage? w.request = some route) (box : Outbox) :
    (cb.handler w).run w box = cb.called route w box := by
  cases route with
  | inform =>
    rw [called]
    cases informs : cb.inform with
    | some inform => exact run_handler routed informs box
    | none =>
      have unheard : cb.handler w = .done none := by simp only [handler, routed, on, informs]
      rw [unheard]
      rfl
  | _ => exact run_handler routed rfl box

end Callbacks

/-- A server gives a request that it takes to the callback of its route. -/
theorem Server.serve_routed {α : Type} {s : Server} (standard : s.registry = .standard)
    (cb : Callbacks α) {m : Message} {route : Route} (routed : Route.ofMessage? m = some route)
    {data : Octets} (taken : Intake.ofDatagram .standard data = .request m) (source : Endpoint) :
    let (result, box) := cb.called route (.forRequest s.config m source) {}
    s.serve cb.handler [⟨source, data⟩] = ⟨[⟨some result, box.packets⟩], none⟩ := by
  have ran := cb.run_handler_of_route (w := .forRequest s.config m source) routed {}
  simp only [serve, standard, taken, Run.push, handle, ran]

namespace Client

/-- What a datagram tells the server, and what the server does about it. -/
structure Understood (c : Client) (op : Operation) (fresh : UInt32) (m : Message) (data : Octets) :
    Prop where
  short : data.length ≤ 2048
  read : Message.decode data = .ok m
  asks : m.op = .bootRequest
  hlen : m.hlen = 6
  chaddr : m.chaddr = c.config.mac.octets
  identifier : m.option? 61 = some (.clientIdentifier 1 c.config.mac.octets)
  transaction : m.xid = op.transaction fresh
  /-- One callback is called for the message, with a writer for it, and that is the one that is meant
  for the operation. What it gives and the replies that it sends are all that comes of the datagram.
  -/
  handled : ∀ {α : Type} (s : Server) (cb : Callbacks α) (source : Endpoint),
    s.registry = .standard →
      let w : ReplyWriter :=
        { request := m
          source := source
          destination := s.config.destination source
          serverAddress := s.config.serverAddress }
      let (result, box) := cb.called (c.routeOf op) w {}
      s.serve cb.handler [⟨source, data⟩] = ⟨[⟨some result, box.packets⟩], none⟩

/-- What tells an operation, with texts and lists that fit, is understood as that operation. -/
theorem Tells.understood {c : Client} {op : Operation} {fresh : UInt32} {m : Message}
    (tells : c.Tells op fresh m) (knows : c.Knows op)
    (fits : ∀ t ∈ c.carries op, t.payload.length ≤ 255) :
    c.Understood op fresh m m.octets := by
  have travels := tells.travels fits
  have taken := Intake.ofDatagram_octets travels tells.asks
  have read := travels.decodeWith_received
  rw [travels.received] at read
  constructor
  · exact travels.length_octets_le.trans (by decide)
  · exact read
  · exact tells.asks
  · rw [tells.header]
    rfl
  · rw [tells.header]
    rfl
  · exact tells.option?_of_mem (List.mem_cons_of_mem _ List.mem_cons_self)
  · rw [tells.header]
    rfl
  · intro α s cb source standard
    exact Server.serve_routed standard cb (tells.ofMessage? knows) taken source

/-- A client that knows what an operation needs fails with an option that is too long, and sends
nothing, exactly if a text or a list that the operation carries has more than 255 octets. Otherwise
it sends one datagram, if the host can, and waits for its reply; and that datagram tells the server
what the operation is. -/
theorem perform_understood (c : Client) (op : Operation) (fresh : UInt32) (knows : c.Knows op) :
    (∀ network t, (∃ code length, (c.perform op fresh).run c network t =
        (.error (.unwritable (.optionTooLong code length)), t)) ↔
      ∃ carried ∈ c.carries op, 255 < carried.payload.length) ∧
    ((∀ carried ∈ c.carries op, carried.payload.length ≤ 255) →
      ∃ target m data, c.plan op fresh = .ok (target, m) ∧
        (∀ network t, (c.perform op fresh).run c network t =
          match network t.sent.length ⟨target, data⟩ with
          | none => (.error .io, t)
          | some arrivals =>
            let (reply, inbox) := c.receive m.xid (t.inbox ++ arrivals)
            (reply, ⟨inbox, t.sent ++ [⟨target, data⟩]⟩)) ∧
        c.Understood op fresh m data) := by
  obtain ⟨target, m, plan, tells⟩ := exists_plan op fresh knows
  have run (network : Network) (t : Traffic) :
      (c.perform op fresh).run c network t = c.exchange network target m t := by
    rw [perform, plan]
    rfl
  refine ⟨?_, ?_⟩
  · intro network t
    constructor
    · rintro ⟨code, length, failed⟩
      by_contra fits
      have travels : m.Travels 7 := tells.travels (by simpa using fits)
      rw [run, exchange_travelling travels] at failed
      cases delivered : network t.sent.length ⟨target, m.octets⟩ with
      | none => simp [delivered] at failed
      | some arrivals =>
        -- A packet was sent, so the traffic is not what it was.
        have longer := congrArg (fun r => r.2.sent.length) failed
        simp [delivered] at longer
    · intro overlong
      obtain ⟨carried, -, -, refused⟩ := tells.encode_overlong overlong
      refine ⟨carried.code, carried.payload.length, ?_⟩
      rw [run, exchange, send, refused]
  · intro fits
    refine ⟨target, m, m.octets, plan, ?_, tells.understood knows fits⟩
    intro network t
    exact (run network t).trans (exchange_travelling (tells.travels fits))

/-- A client that holds the unspecified address renews it, and asks for more options than can be
told. -/
theorem perform_understood_unspecified :
    let c : Client :=
      { config :=
          { mac := ⟨[2, 0, 0, 0, 0, 1], rfl⟩
            hostName := some "home"
            server := some ⟨0xC0A80001⟩
            clientAddress := some .unspecified } }
    let wide : Client :=
      { c with config := { c.config with parameterRequestList := List.replicate 256 1 } }
    let cb : Callbacks String :=
      { discover := fun _ => .done "looks for servers"
        request := fun _ => .done "asks for an address"
        renew := fun _ => .done "asks for more time"
        decline := fun _ => .done "turns an offer down"
        release := fun _ => .done "gives an address back" }
    (∃ target m data, c.plan .renew 7 = .ok (target, m) ∧ c.Understood .renew 7 m data ∧
      ∀ (s : Server) (source : Endpoint), s.registry = .standard →
        s.serve cb.handler [⟨source, data⟩] =
          ⟨[⟨some (some (.request, "asks for an address")), []⟩], none⟩) ∧
    ∀ network t, ∃ code length, (wide.perform .renew 7).run wide network t =
      (.error (.unwritable (.optionTooLong code length)), t) := by
  intro c wide cb
  obtain ⟨-, sends⟩ := perform_understood c .renew 7 ⟨nofun, nofun⟩
  obtain ⟨target, m, data, plan, -, understood⟩ := sends (by decide)
  have called (s : Server) (source : Endpoint) (standard : s.registry = .standard) :=
    understood.handled s cb source standard
  refine ⟨⟨target, m, data, plan, understood, called⟩, fun network t => ?_⟩
  obtain ⟨fails, -⟩ := perform_understood wide .renew 7 ⟨nofun, nofun⟩
  refine (fails network t).mpr ⟨⟨55, List.replicate 256 1⟩, ?_, ?_⟩
  · exact List.mem_append_right _ List.mem_cons_self
  · show 255 < (List.replicate 256 (1 : UInt8)).length
    rw [List.length_replicate]
    decide

end Client

end Dhcp
