import Dhcp.Address.Endpoint

/-!
# The configuration of a server

A server is told where to listen, where replies go, which address it announces as its own, how many
requests it may work on at a time and what it does with a datagram that is no message. The defaults
are those of RFC 2131: port 67 for servers, 68 for clients, and replies by broadcast.
-/

namespace Dhcp

/-- The port that clients listen on. -/
def clientPort : UInt16 := 68

/-- The port that servers listen on. -/
def serverPort : UInt16 := 67

/-- The endpoint that a server listens on by default: every address of the host. -/
def serverEndpoint : Ipv4Endpoint := ⟨.unspecified, serverPort⟩

/-- Where a server sends replies. -/
inductive ReplyMode where
  /-- To the broadcast address, on the port of clients. -/
  | broadcast
  /-- To the place the request came from. -/
  | unicast
deriving DecidableEq

/-- What a server does with a datagram that is no message. -/
inductive DecodeFailurePolicy where
  /-- Goes on with the next one. -/
  | drop
  /-- Stops serving. -/
  | abort
deriving DecidableEq

/-- The configuration of a server. -/
structure ServerConfig where
  listen : Ipv4Endpoint := serverEndpoint
  interface : Option String := none
  clientPort : UInt16 := Dhcp.clientPort
  broadcastAddress : Ipv4 := .everyone
  replyMode : ReplyMode := .broadcast
  /-- The address that the server announces as its own. -/
  serverAddress : Option Ipv4 := none
  maxInFlight : Nat := 64
  decodeFailure : DecodeFailurePolicy := .drop

namespace ServerConfig

/-- The most requests that any server works on at a time. -/
def maxWorkers : Nat := 65536

/-- How many requests the server works on at a time: what the configuration says, but at least one
and at most `maxWorkers`. -/
def workers (c : ServerConfig) : Nat := max 1 (min c.maxInFlight maxWorkers)

/-- Where the reply to a request from `source` goes. -/
def destination (c : ServerConfig) (source : Endpoint) : Endpoint :=
  match c.replyMode with
  | .broadcast => .v4 ⟨c.broadcastAddress, c.clientPort⟩
  | .unicast => source

end ServerConfig

end Dhcp
