import Dhcp.Fault

/-!
# The host a socket is opened on

Opening a socket can fail for what the host is: an interface that it does not have, or an address
that is not its own. Whether a datagram leaves the host, and how long it may be, is also the host's
affair. `Host` names these facts, so that clients and servers can be spoken of without a system
below them.

The device is pinned before the address is bound, so of two reasons to fail the interface is
reported.
-/

namespace Dhcp

/-- A datagram on its way. -/
structure Packet where
  target : Endpoint
  data : Octets
deriving DecidableEq

namespace Packet

/-- The longest payload of a UDP datagram over IPv4. -/
def maxSize : Nat := 65507

/-- Whether a packet is short enough to be sent at all. -/
def fits (p : Packet) : Bool := p.data.length ≤ maxSize

end Packet

/-- The octets of a datagram that a receiver reads; the rest of a longer one is lost. -/
def receiveLimit : Nat := 2048

/-- The part of a datagram that a receiver sees. -/
def received (datagram : Octets) : Octets := datagram.take receiveLimit

/-- What opening a socket depends on. -/
structure Host where
  hasInterface : String → Bool
  ownsAddress : Ipv4 → Bool

namespace Host

/-- Opens a socket at an endpoint, pinned to an interface if one is given; the empty name pins to
none. -/
def openSocket (host : Host) (endpoint : Ipv4Endpoint) (interface : Option String) :
    Except Fault Unit :=
  match interface.filter fun name => ¬name.isEmpty ∧ ¬host.hasInterface name with
  | some name => .error (.socket (.bindToDevice name))
  | none =>
    if host.ownsAddress endpoint.address then .ok () else .error (.socket (.bind endpoint))

end Host

end Dhcp
