import Dhcp.Client.Dialogue
import Dhcp.Message.Wire

/-!
# Exchanges of a client

A client sends a message and waits for the reply. What has arrived waits in an inbox, from which
datagrams are taken in order and each once: `Client.receive` passes over replies of other
transactions and stops at the first datagram that is the reply, or is no reply at all. An inbox that
holds no such datagram is used up, and the client has waited in vain.

The network is a parameter: for each packet it says whether the packet could be sent, and which
datagrams have arrived before the client waits next.
-/

namespace Dhcp

/-- The network during one call of a client: for the packet of a number, counted from zero, the
datagrams that arrive once it is sent, or none if the host cannot send it. -/
abbrev Network := Nat → Packet → Option (List Octets)

/-- The socket of a client during one call: what has arrived and what was sent. -/
structure Traffic where
  inbox : List Octets
  sent : List Packet := []

namespace Traffic

/-- Sends a packet, if it is not too long and the host can. -/
def send (t : Traffic) (network : Network) (p : Packet) : Except Fault Unit × Traffic :=
  if p.fits then
    match network t.sent.length p with
    | none => (.error .io, t)
    | some arrivals => (.ok (), ⟨t.inbox ++ arrivals, t.sent ++ [p]⟩)
  else (.error .io, t)

end Traffic

namespace Client

/-- Sends a message. -/
def send (network : Network) (target : Endpoint) (m : Message) (t : Traffic) :
    Except Fault Unit × Traffic :=
  match m.encode with
  | .error cause => (.error (.unwritable cause), t)
  | .ok data => t.send network ⟨target, data⟩

/-- What a datagram means to a client that waits for the reply of a transaction: the reply, or why
there is none; nothing if it is a reply of another transaction. -/
def verdict? (c : Client) (xid : UInt32) (datagram : Octets) : Option (Except Fault Message) :=
  match Message.decodeWith c.registry (received datagram) with
  | .error cause => some (.error (.malformed cause))
  | .ok m =>
    if m.op ≠ .bootReply then some (.error (.unexpectedOpCode m.op.toOctet))
    else if m.xid = xid then some (.ok m)
    else none

/-- Takes datagrams until one means something to a client that waits for the reply of a transaction;
the second part is what is left. -/
def receive (c : Client) (xid : UInt32) : List Octets → Except Fault Message × List Octets
  | [] => (.error (.timeout c.config.timeout), [])
  | datagram :: rest =>
    match c.verdict? xid datagram with
    | some verdict => (verdict, rest)
    | none => receive c xid rest

/-- Sends a message and waits for its reply. -/
def exchange (c : Client) (network : Network) (target : Endpoint) (m : Message) (t : Traffic) :
    Except Fault Message × Traffic :=
  match send network target m t with
  | (.error fault, t) => (.error fault, t)
  | (.ok _, t) =>
    let (reply, inbox) := c.receive m.xid t.inbox
    (reply, { t with inbox := inbox })

end Client

/-- The result of a dialogue of a client with a network, and the traffic afterwards. -/
def Dialogue.run {α : Type} (c : Client) (network : Network) : Dialogue α → Traffic → α × Traffic
  | .done result, t => (result, t)
  | .exchange target m next, t =>
    let (reply, t) := c.exchange network target m t
    (next reply).run c network t

/-- A dialogue that goes on with a result runs on in the traffic that its first part leaves. -/
theorem Dialogue.run_bind {α β : Type} (c : Client) (network : Network) (d : Dialogue α)
    (f : α → Dialogue β) (t : Traffic) :
    (d.bind f).run c network t =
      (f (d.run c network t).1).run c network (d.run c network t).2 := by
  induction d generalizing t with
  | done result => rfl
  | exchange target m next ih => exact ih _ _

namespace Client

/-! ## Calls -/

/-- What can be asked of a client. -/
inductive Call where
  | perform (operation : Operation) (xid : UInt32)
  | obtainLease (xid : UInt32)
  | receive (xid : UInt32)
  | send (target : Endpoint) (m : Message)
  | setServer (server : Ipv4)
  | setClientAddress (addr : Ipv4)

/-- What a call gives. -/
inductive Answer where
  | message (m : Message)
  | lease (lease : Lease)
  | done
deriving DecidableEq

/-- Does what is asked of a client; the client comes back with what it remembers. -/
def call (c : Client) (network : Network) (t : Traffic) :
    Call → Except Fault Answer × Client × Traffic
  | .perform operation xid =>
    let (reply, t) := (c.perform operation xid).run c network t
    (reply.map .message, c, t)
  | .obtainLease xid =>
    let ((lease, after), t) := (c.obtainLease xid).run c network t
    (lease.map .lease, after, t)
  | .receive xid =>
    let (reply, inbox) := c.receive xid t.inbox
    (reply.map .message, c, { t with inbox := inbox })
  | .send target m =>
    let (outcome, t) := send network target m t
    (outcome.map fun _ => .done, c, t)
  | .setServer server => (.ok .done, c.withServer server, t)
  | .setClientAddress addr => (.ok .done, c.withClientAddress addr, t)

end Client

end Dhcp
