import Dhcp.Client.Config
import Dhcp.Host
import Dhcp.Message.Forms
import Dhcp.Opt.Registry

/-!
# What a client sends

A client can do six things, each of which sends one message. `Client.plan` says which message goes
where, or which fact the client lacks; it sends nothing itself. The transaction number of a fresh
exchange is the caller's; a message about an offer takes the number of the offer.
-/

namespace Dhcp

/-- A client: its configuration and what it decodes options with. -/
structure Client where
  config : ClientConfig
  registry : Registry := .standard

/-- The things a client can do that send one message. -/
inductive Operation where
  /-- Look for servers. -/
  | discover
  /-- Ask for the address of an offer. -/
  | request (offer : Message)
  /-- Turn an offer down, with a reason for its reader. -/
  | decline (offer : Message) (reason : Option String)
  /-- Ask for more time. -/
  | renew
  /-- Give the address back. -/
  | release
  /-- Ask for parameters alone. -/
  | inform
deriving DecidableEq

/-- The server behind an offer: its identifier among the options, else its address in the header. -/
def Message.offeringServer? (offer : Message) : Option Ipv4 :=
  match offer.serverIdentifier? with
  | some server => some server
  | none => if offer.siaddr = .unspecified then none else some offer.siaddr

namespace Client

/-- Opens the socket of a client on a host. -/
def open? (host : Host) (config : ClientConfig) (registry : Registry) : Except Fault Client :=
  match host.openSocket ⟨config.bindAddress, config.clientPort⟩ config.interface with
  | .error fault => .error fault
  | .ok _ => .ok ⟨config, registry⟩

/-- The client that remembers a server. -/
def withServer (c : Client) (server : Ipv4) : Client :=
  { c with config := { c.config with server := some server } }

/-- The client that remembers the address it holds. -/
def withClientAddress (c : Client) (addr : Ipv4) : Client :=
  { c with config := { c.config with clientAddress := some addr } }

/-- Where messages to every server go. -/
def broadcastTarget (c : Client) : Endpoint :=
  .v4 ⟨c.config.broadcastAddress, c.config.serverPort⟩

/-- Where messages to one server go. -/
def serverTarget (c : Client) (server : Ipv4) : Endpoint := .v4 ⟨server, c.config.serverPort⟩

/-- The message with the client named in it. -/
def identify (c : Client) (m : Message) : Message :=
  (m.withMac c.config.mac).withOption (Opt.identifierOfMac c.config.mac)

/-- The message with what the client says of itself and what it asks for. -/
def announce (c : Client) (m : Message) : Message :=
  let m :=
    match c.config.hostName with
    | some name => m.withHostName name
    | none => m
  if c.config.parameterRequestList = [] then m
  else m.withOption (.parameterRequestList c.config.parameterRequestList)

/-- The address the client holds, which an operation needs. -/
def needAddress (c : Client) : Except Fault Ipv4 :=
  match c.config.clientAddress with
  | some addr => .ok addr
  | none => .error (.missing .clientAddress)

/-- The server the client remembers, which an operation needs. -/
def needServer (c : Client) : Except Fault Ipv4 :=
  match c.config.server with
  | some server => .ok server
  | none => .error (.missing .serverAddress)

/-- The message that asks for the address of an offer. -/
def requestFor (c : Client) (offer : Message) : Message :=
  let m := (c.announce (c.identify (Message.request offer.xid))).withOption
    (.address .requestedAddress offer.yiaddr)
  match offer.offeringServer? with
  | some server => m.withOption (.address .serverIdentifier server)
  | none => m

/-- The message that turns an offer down. -/
def declineOf (c : Client) (offer : Message) (reason : Option String) : Message :=
  let m := c.identify (Message.decline offer.yiaddr offer.offeringServer? offer.xid)
  match reason with
  | some reason => if reason.isEmpty then m else m.withNotice reason
  | none => m

/-- Where an operation sends which message, with `xid` for a fresh exchange. -/
def plan (c : Client) (operation : Operation) (xid : UInt32) :
    Except Fault (Endpoint × Message) :=
  match operation with
  | .discover => .ok (c.broadcastTarget, c.announce (c.identify (Message.discover xid)))
  | .request offer => .ok (c.broadcastTarget, c.requestFor offer)
  | .decline offer reason => .ok (c.broadcastTarget, c.declineOf offer reason)
  | .renew => do
    let addr ← c.needAddress
    let server ← c.needServer
    pure (c.serverTarget server, c.announce (c.identify (Message.renew addr xid)))
  | .release => do
    let addr ← c.needAddress
    let server ← c.needServer
    let m := (c.identify (Message.release addr xid)).withOption
      (.address .serverIdentifier server)
    pure (c.serverTarget server, m)
  | .inform => do
    let addr ← c.needAddress
    let m := c.announce (c.identify (Message.inform addr xid))
    pure <|
      match c.config.server with
      | some server => (c.serverTarget server, { m with siaddr := server })
      | none => (c.broadcastTarget, m)

end Client

end Dhcp
