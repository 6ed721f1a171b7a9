import Dhcp.Client.Exchange
import Dhcp.Proofs.Travel
import Dhcp.Server.Loop

/-!
# A client and a server on one link

A link hands every packet of a client to a server and every packet that the server queues to the
client, and delivers nothing else. As long as the messages travel whole, both sides see the messages
that the other built, so an exchange comes to what the server does about the request.

**The laws** (`Server.link_eq`, `Client.exchange_travelling`, `Client.exchange_answered`,
`Client.exchange_unanswered`): the link delivers what the handler queues for the request, a client
sends what it built as it is, a client whose request is answered by one reply of its transaction
gets that reply, and one whose request is not answered waits in vain.
-/

namespace Dhcp

/-- The network between a client and a server with a handler; `source` is where the server sees the
packet of each number come from. -/
def Server.link {α : Type} (s : Server) (h : Handler α) (source : Nat → Endpoint) : Network :=
  fun n p =>
    some ((s.serve h [⟨source n, p.data⟩]).steps.flatMap fun handled =>
      handled.packets.map Packet.data)

/-- A server takes the octets of a request that travels for that request. -/
theorem Intake.ofDatagram_octets {m : Message} (travels : m.Travels 7)
    (asks : m.op = .bootRequest) :
    ofDatagram .standard m.octets = .request m := by
  simp only [ofDatagram, travels.decodeWith_received, if_pos asks]

/-- A link answers a request that travels with what the server queues for it and can send. -/
theorem Server.link_eq {α : Type} {s : Server} (standard : s.registry = .standard) (h : Handler α)
    (source : Nat → Endpoint) {m : Message} (travels : m.Travels 7) (asks : m.op = .bootRequest)
    (n : Nat) (target : Endpoint) :
    s.link h source n ⟨target, m.octets⟩ =
      some ((s.handle h (source n) m).packets.map Packet.data) := by
  have intake := Intake.ofDatagram_octets travels asks
  rw [← standard] at intake
  simp only [link, serve, intake, Run.push, List.flatMap_cons, List.flatMap_nil, List.append_nil]

namespace Client

variable {c : Client} {network : Network} {target : Endpoint} {m : Message} {t : Traffic}

/-- A message that travels is sent as it is if the host can, and the client waits for its reply. -/
theorem exchange_travelling (travels : m.Travels 7) :
    c.exchange network target m t =
      match network t.sent.length ⟨target, m.octets⟩ with
      | none => (.error .io, t)
      | some arrivals =>
        let (reply, inbox) := c.receive m.xid (t.inbox ++ arrivals)
        (reply, ⟨inbox, t.sent ++ [⟨target, m.octets⟩]⟩) := by
  simp only [exchange, send, travels.encode, Traffic.send, travels.packet_fits target, if_true]
  cases network t.sent.length ⟨target, m.octets⟩ <;> rfl

/-- A client whose request is answered at once by a reply that travels gets that reply. -/
theorem exchange_answered (standard : c.registry = .standard) (travels : m.Travels 7)
    (empty : t.inbox = []) {reply : Message} (back : reply.Travels 7)
    (answers : reply.op = .bootReply) (same : reply.xid = m.xid)
    (delivers : network t.sent.length ⟨target, m.octets⟩ = some [reply.octets]) :
    c.exchange network target m t = (.ok reply, ⟨[], t.sent ++ [⟨target, m.octets⟩]⟩) := by
  have verdict : c.verdict? m.xid reply.octets = some (.ok reply) := by
    simp [verdict?, standard, back.decodeWith_received, answers, same]
  simp only [exchange_travelling travels, delivers, empty, List.nil_append, receive, verdict]

/-- A client whose request nobody answers waits until its time is over. -/
theorem exchange_unanswered (travels : m.Travels 7) (empty : t.inbox = [])
    (delivers : network t.sent.length ⟨target, m.octets⟩ = some []) :
    c.exchange network target m t =
      (.error (.timeout c.config.timeout), ⟨[], t.sent ++ [⟨target, m.octets⟩]⟩) := by
  simp only [exchange_travelling travels, delivers, empty, List.nil_append, receive]

end Client

end Dhcp
