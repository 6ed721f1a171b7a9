import Dhcp.Server.Loop

/-!
# A server with one address

The simplest policy: every client that asks is offered the same address with the same options. A
request is granted if it asks for that address, in its requested address where the client has none
yet and in the client's own address where it renews; any other request is refused. Clients that
decline or release the address get no answer.
-/

namespace Dhcp

/-- The address that a server hands out and the options that go with it. -/
structure StaticLease where
  address : Ipv4
  leaseTime : UInt32 := defaultLeaseTime
  subnetMask : Option Ipv4 := none
  router : Option Ipv4 := none
  nameServers : List Ipv4 := []

namespace StaticLease

/-- The options that go with the address. -/
def options (lease : StaticLease) : List Opt :=
  .seconds .leaseTime lease.leaseTime
    :: (lease.subnetMask.map (Opt.address .subnetMask)).toList
    ++ (lease.router.map fun router => Opt.addresses .router [router]).toList
    ++ if lease.nameServers = [] then [] else [.addresses .domainNameServer lease.nameServers]

/-- Sends a reply and has no result, whatever becomes of the reply. -/
def say (r : Reply) : Answering Unit := (Answering.reply r).map fun _ => ()

/-- Grants the address if the request asks for it, and refuses otherwise. -/
def ackIf (lease : StaticLease) (asked : Bool) : Answering Unit :=
  if asked then say (.ack lease.address lease.options)
  else say (.nak "requested address not available" [])

/-- What the server does about requests. -/
def callbacks (lease : StaticLease) : Callbacks Unit where
  discover _ := say (.offer lease.address lease.options)
  request w := lease.ackIf (w.request.requestedAddress? = some lease.address)
  renew w := lease.ackIf (w.request.ciaddr = lease.address)
  decline _ := .done ()
  release _ := .done ()

end StaticLease

end Dhcp
