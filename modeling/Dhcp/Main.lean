import Dhcp.Client.Exchange
import Dhcp.CommandLine.Setup
import Dhcp.Message.Text
import Std.Async.Timer
import Std.Async.UDP

/-!
# The command line

The outer layer: it opens a socket, waits on it and prints. What to send, what a datagram means and
when to stop are decided by the rest of the library; a server handles each request before it takes
the next datagram.

A socket cannot be pinned to an interface here, so a command that asks for one is refused. The
hardware address of an interface can be read all the same.
-/

namespace Dhcp.Program

open Std.Net Std.Async

/-! ## Sockets -/

/-- An address as the system writes it. -/
def systemAddress (a : Ipv4) : IPv4Addr :=
  let octet := fun i => a.octets.getD i 0
  IPv4Addr.ofParts (octet 0) (octet 1) (octet 2) (octet 3)

/-- The endpoint that the system means. -/
def endpointOf : SocketAddress → Endpoint
  | .v4 e => .v4 ⟨Ipv4.ofOctets e.addr.octets.toList, e.port⟩
  | .v6 e => .v6 ⟨e.addr.segments.toList, by simp⟩ 0 e.port

/-- The endpoint as the system writes it; sockets here are IPv4 alone. -/
def systemEndpoint? : Endpoint → Option SocketAddress
  | .v4 e => some (.v4 ⟨systemAddress e.address, e.port⟩)
  | .v6 .. => none

/-- Opens a socket that may send broadcasts. -/
def openSocket (endpoint : Ipv4Endpoint) (interface : Option String) :
    IO (Except Fault UDP.Socket) := do
  if interface.any fun name => ¬name.isEmpty then
    return .error (.socket .noDeviceBinding)
  let socket ← UDP.Socket.mk
  try socket.bind (.v4 ⟨systemAddress endpoint.address, endpoint.port⟩)
  catch _ => return .error (.socket (.bind endpoint))
  try socket.setBroadcast true
  catch _ => return .error (.socket .setBroadcast)
  return .ok socket

/-- Sends a packet and tells whether it could be sent. -/
def sendPacket (socket : UDP.Socket) (p : Packet) : IO Bool := do
  match systemEndpoint? p.target with
  | none => return false
  | some target =>
    try
      (socket.send ⟨p.data.toArray⟩ (some target)).block
      return true
    catch _ => return false

/-! ## The client -/

/-- The next datagram that arrives before an instant of the monotonic clock, in milliseconds. -/
def nextDatagram? (socket : UDP.Socket) (deadline : Nat) : IO (Option Octets) := do
  let now ← IO.monoMsNow
  if deadline ≤ now then
    return none
  let wait : Async (Option Octets) := do
    let timer ← Selector.sleep (.ofNat (deadline - now))
    Selectable.one #[
      .case (socket.recvSelector (UInt64.ofNat receiveLimit)) fun (data, _) =>
        pure (some data.data.toList),
      .case timer fun _ => pure none]
  wait.block

/-- Waits for the reply of a transaction. -/
def awaitReply (c : Client) (socket : UDP.Socket) (xid : UInt32) : IO (Except Fault Message) := do
  let deadline := (← IO.monoMsNow) + c.config.timeout.nanos / 1000000
  repeat
    match ← nextDatagram? socket deadline with
    | none => break
    | some datagram =>
      if let some verdict := c.verdict? xid datagram then
        return verdict
  return .error (.timeout c.config.timeout)

/-- Sends a message and waits for its reply. -/
def exchange (c : Client) (socket : UDP.Socket) (target : Endpoint) (m : Message) :
    IO (Except Fault Message) := do
  match m.encode with
  | .error cause => return .error (.unwritable cause)
  | .ok data =>
    if ← sendPacket socket ⟨target, data⟩ then awaitReply c socket m.xid
    else return .error .io

/-- Runs a dialogue on a socket. -/
def runDialogue {α : Type} (c : Client) (socket : UDP.Socket) : Dialogue α → IO α
  | .done result => pure result
  | .exchange target m next => do
    let reply ← exchange c socket target m
    runDialogue c socket (next reply)

/-- What is printed about a lease. -/
def leaseLines (l : Lease) : List String :=
  let line := fun (label : String) (value : Option String) =>
    (value.map fun text => label ++ ": " ++ text).toList
  let many := fun (addrs : List Ipv4) => ", ".intercalate (addrs.map Ipv4.text)
  line "Address" (some l.address.text) ++ line "Subnet mask" (l.subnetMask.map Ipv4.text)
    ++ line "Routers" (l.routers.map many) ++ line "Name servers" (l.nameServers.map many)
    ++ line "Lease time" (l.duration.map Duration.text)
    ++ line "Renewal time" (l.renewalTime.map Duration.text)
    ++ line "Rebinding time" (l.rebindingTime.map Duration.text)
    ++ line "Server" (l.serverIdentifier.map Ipv4.text)

/-- What the system says of the hardware address of an interface. -/
def addressTextOf (interface : String) : IO (Option String) := do
  let all ← interfaceAddresses
  let found := all.find? fun a => a.name = interface
  return found.map fun a => Octets.hex a.physicalAddress.octets.toList ":"

/-- Does what the arguments of a client ask for. -/
def runClient (arguments : CommandLine.ClientArguments) : IO (Except Fault Unit) := do
  let addressText ←
    match arguments.interface with
    | some interface => addressTextOf interface
    | none => pure none
  match arguments.macWith fun _ => addressText with
  | .error fault => return .error fault
  | .ok mac =>
    let c : Client := { config := arguments.config mac }
    match ← openSocket ⟨c.config.bindAddress, c.config.clientPort⟩ c.config.interface with
    | .error fault => return .error fault
    | .ok socket =>
      let xid := UInt32.ofNat (← IO.rand 0 4294967295)
      match arguments.action.operation? with
      | none =>
        match ← runDialogue c socket (c.obtainLease xid) with
        | (.error fault, _) => return .error fault
        | (.ok lease, _) =>
          IO.println "Obtained lease:"
          for line in leaseLines lease do
            IO.println ("  " ++ line)
          return .ok ()
      | some operation =>
        match ← runDialogue c socket (c.perform operation xid) with
        | .ok reply =>
          IO.print reply.text
          return .ok ()
        | .error fault =>
          -- A server need not answer when an address is given back.
          if operation = .release ∧ fault = .timeout c.config.timeout then return .ok ()
          return .error fault

/-! ## The server -/

/-- Serves datagrams until one ends the loop. -/
def runServer (arguments : CommandLine.ServerArguments) : IO (Except Fault Unit) := do
  let s : Server := { config := arguments.config }
  match ← openSocket s.config.listen s.config.interface with
  | .error fault => return .error fault
  | .ok socket =>
    repeat
      let (data, source) ← (socket.recv (UInt64.ofNat receiveLimit)).block
      if let some source := source then
        let arrival : Arrival := ⟨endpointOf source, data.data.toList⟩
        let run := s.serve arguments.lease.callbacks.handler [arrival]
        for step in run.steps do
          for packet in step.sent do
            discard <| sendPacket socket packet
        if let some fault := run.fault? then
          return .error fault
    return .ok ()

/-! ## Commands -/

/-- What is printed to someone who asks for help. -/
def usage : String :=
  "Usage: dhcp client [--interface NAME] [--mac MAC] [--hostname NAME] [--timeout SECONDS]\n"
    ++ "                   [--server ADDRESS] [--client-ip ADDRESS]\n"
    ++ "                   [--action lease|discover|renew|release|inform]\n"
    ++ "       dhcp server --offer-ip ADDRESS [--listen ADDRESS:PORT] [--interface NAME]\n"
    ++ "                   [--server-ip ADDRESS] [--subnet-mask ADDRESS] [--router ADDRESS]\n"
    ++ "                   [--dns ADDRESS]... [--lease-time SECONDS] [--max-in-flight COUNT]\n"
    ++ "                   [--unicast]"

/-- The words for arguments that do not lead to a command. -/
def refusalText : Refusal → String
  | .displayHelp => usage
  | .displayHelpForMissing => usage
  | .displayVersion => "dhcp 0.1.0"
  | .invalidSubcommand => "error: there is no such command"
  | .unknownArgument => "error: unexpected argument"
  | .invalidValue => "error: a value is missing or is none of the possible ones"
  | .valueValidation => "error: a value cannot be read"
  | .argumentConflict => "error: an option is given more than once"
  | .tooManyValues => "error: an option takes no value"
  | .missingRequiredArgument => "error: --offer-ip is required"

end Dhcp.Program

open Dhcp Dhcp.Program in
/-- Runs the command that the arguments ask for; the exit code tells whether it could. -/
def main (arguments : List String) : IO UInt32 := do
  match CommandLine.Command.ofArguments arguments with
  | .error refusal =>
    if refusal = .displayHelp ∨ refusal = .displayVersion then
      IO.println (refusalText refusal)
      return 0
    IO.eprintln (refusalText refusal)
    return 2
  | .ok command =>
    let outcome ←
      match command with
      | .client a => runClient a
      | .server a => runServer a
    match outcome with
    | .ok _ => return 0
    | .error fault =>
      IO.eprintln ("Error: " ++ fault.message)
      return 1
