import Dhcp.Message.Basic
import Dhcp.Text.Duration

/-!
# Leases

What a server grants is an address and, among the options of the message that grants it, the
parameters of the network and of the lease. Only an option that holds a value of its format counts.
-/

namespace Dhcp

/-- The address and parameters that a server granted. -/
structure Lease where
  address : Ipv4
  subnetMask : Option Ipv4
  routers : Option (List Ipv4)
  nameServers : Option (List Ipv4)
  duration : Option Duration
  renewalTime : Option Duration
  rebindingTime : Option Duration
  serverIdentifier : Option Ipv4
deriving DecidableEq

namespace Lease

/-- The address of an option with a use. -/
def addressOf (use : AddressUse) : Opt → Option Ipv4
  | .address u addr => if u = use then some addr else none
  | _ => none

/-- The addresses of an option with a use. -/
def addressesOf (use : AddressListUse) : Opt → Option (List Ipv4)
  | .addresses u addrs => if u = use then some addrs else none
  | _ => none

/-- The time of an option with a use. -/
def durationOf (use : SecondsUse) : Opt → Option Duration
  | .seconds u secs => if u = use then some (.ofSeconds secs.toNat) else none
  | _ => none

/-- The lease that an acknowledgement grants. -/
def ofAck (ack : Message) : Lease :=
  let os := ack.options.toList
  { address := ack.yiaddr
    subnetMask := os.findSome? (addressOf .subnetMask)
    routers := os.findSome? (addressesOf .router)
    nameServers := os.findSome? (addressesOf .domainNameServer)
    duration := os.findSome? (durationOf .leaseTime)
    renewalTime := os.findSome? (durationOf .renewalTime)
    rebindingTime := os.findSome? (durationOf .rebindingTime)
    serverIdentifier := os.findSome? (addressOf .serverIdentifier) }

end Lease

end Dhcp
