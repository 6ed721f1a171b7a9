import Dhcp.Client.Lease
import Dhcp.Client.Operation

/-!
# What a client says and waits for

Whatever a client does on the network is a sequence of exchanges: it sends a message somewhere and
waits for the reply, or learns why there is none. `Dialogue` is such a sequence as data. What
becomes of it is decided by who runs it: `Dialogue.run` runs it against a network that is given as a
function, and the command line runs it on a socket.

Obtaining a lease takes two exchanges, of which the second is about the answer to the first. A
client that obtains a lease remembers its address and its server; one that does not remembers what
it did before.
-/

namespace Dhcp

/-- Exchanges of a client, one after another. -/
inductive Dialogue (α : Type) where
  | done (result : α)
  | exchange (target : Endpoint) (m : Message) (next : Except Fault Message → Dialogue α)

namespace Dialogue

/-- Goes on with the result. -/
def bind {α β : Type} (d : Dialogue α) (f : α → Dialogue β) : Dialogue β :=
  match d with
  | .done result => f result
  | .exchange target m next => .exchange target m fun reply => (next reply).bind f

end Dialogue

namespace Client

/-- Does one operation; the result is the reply. -/
def perform (c : Client) (operation : Operation) (xid : UInt32) :
    Dialogue (Except Fault Message) :=
  match c.plan operation xid with
  | .error fault => .done (.error fault)
  | .ok (target, m) => .exchange target m .done

/-- What the reply to the request for an offer comes to: the lease, and the client that remembers
it and its server. -/
def settle (c : Client) (offer reply : Message) : Except Fault (Lease × Client) :=
  match reply.messageType? with
  | some .ack =>
    let lease := Lease.ofAck reply
    let c := c.withClientAddress lease.address
    match lease.serverIdentifier.or offer.offeringServer? with
    | some server => .ok (lease, c.withServer server)
    | none => .ok (lease, c)
  | some .nak => .error (.refused (reply.noticeText?.getD ""))
  | actual => .error (.unexpectedType .ack actual)

/-- Asks for the address of an offer and settles on the reply. -/
def accept (c : Client) (offer : Message) (xid : UInt32) : Dialogue (Except Fault Lease × Client) :=
  (c.perform (.request offer) xid).bind fun
    | .error fault => .done (.error fault, c)
    | .ok reply =>
      match c.settle offer reply with
      | .error fault => .done (.error fault, c)
      | .ok (lease, c) => .done (.ok lease, c)

/-- Looks for a server and asks for the address of the first offer. -/
def obtainLease (c : Client) (xid : UInt32) : Dialogue (Except Fault Lease × Client) :=
  (c.perform .discover xid).bind fun
    | .error fault => .done (.error fault, c)
    | .ok offer =>
      if offer.messageType? = some .offer then c.accept offer xid
      else .done (.error (.unexpectedType .offer offer.messageType?), c)

end Client

end Dhcp
