import Dhcp.Client.Operation
import Dhcp.CommandLine.Arguments
import Dhcp.Server.StaticLease

/-!
# From arguments to a client or a server

Arguments name a client or a server; this module says which. A client needs a hardware address, its
own or that of its interface, and it is the first thing that can be wrong with its arguments.
-/

namespace Dhcp.CommandLine

/-! ## The client -/

namespace ClientArguments

/-- The hardware address of a client, where `addressText` is what the host says of an interface. -/
def macWith (a : ClientArguments) (addressText : String → Option String) : Except Fault Mac :=
  match a.mac, a.interface with
  | some mac, _ => .ok mac
  | none, none => .error (.missing .macAddress)
  | none, some interface =>
    match addressText interface with
    | none => .error .io
    | some text =>
      let text := text.trimAscii.toString
      match Mac.ofText? text with
      | some mac => .ok mac
      | none => .error (.invalidMac text)

/-- The configuration of a client with a hardware address. -/
def config (a : ClientArguments) (mac : Mac) : ClientConfig where
  mac := mac
  interface := a.interface
  hostName := a.hostName
  timeout := .ofSeconds a.timeout.toNat
  server := a.server
  clientAddress := a.clientAddress

end ClientArguments

/-- The operation of an action that is one operation. -/
def Action.operation? : Action → Option Operation
  | .lease => none
  | .discover => some .discover
  | .renew => some .renew
  | .release => some .release
  | .inform => some .inform

/-! ## The server -/

namespace ServerArguments

/-- The configuration of a server. -/
def config (a : ServerArguments) : ServerConfig where
  listen := a.listen
  interface := a.interface
  serverAddress := a.serverAddress
  maxInFlight := a.maxInFlight.toNat
  replyMode := if a.unicast then .unicast else .broadcast

/-- The address that the server hands out, with its options. -/
def lease (a : ServerArguments) : StaticLease where
  address := a.offer
  leaseTime := a.leaseTime
  subnetMask := a.subnetMask
  router := a.router
  nameServers := a.nameServers

end ServerArguments

end Dhcp.CommandLine
