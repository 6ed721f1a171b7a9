import Dhcp.Server.Handler

/-!
# The loop of a server

A server takes datagrams one after another. Each is cut to what a receiver reads and decoded; a
request is handed to the handler with a writer of its own, a message that is no request is passed
over, and a datagram that is no message is dropped or ends the loop, as the configuration says.

`Server.serve` is the loop when every request is handled before the next datagram is taken.
`Server.serveStalled` is the loop when no handler makes progress before the server is told to stop:
then only as many requests are handled as the server works on at a time.
-/

namespace Dhcp

/-- A server: its configuration and what it decodes options with. -/
structure Server where
  config : ServerConfig
  registry : Registry := .standard

/-- A datagram and where it came from. -/
structure Arrival where
  source : Endpoint
  datagram : Octets

/-- What a server makes of a datagram before any handler sees it. -/
inductive Intake where
  | request (m : Message)
  | passedOver
  | undecodable (cause : WireFault)
deriving DecidableEq

namespace Intake

/-- What a datagram is to a server. -/
def ofDatagram (r : Registry) (datagram : Octets) : Intake :=
  match Message.decodeWith r (received datagram) with
  | .error cause => .undecodable cause
  | .ok m => if m.op = .bootRequest then .request m else .passedOver

end Intake

/-- What one datagram led to: the result of the handler, if it saw a request, and the packets that
were queued. -/
structure Handled (α : Type) where
  result : Option α
  packets : List Packet

namespace Handled

/-- A datagram that no handler saw. -/
def nothing {α : Type} : Handled α := ⟨none, []⟩

/-- The packets that leave the host; one that is too long is lost. -/
def sent {α : Type} (h : Handled α) : List Packet := h.packets.filter Packet.fits

end Handled

/-- What became of a sequence of datagrams: what each of those taken led to, and the fault that
ended the loop, if one did. -/
structure Run (α : Type) where
  steps : List (Handled α)
  fault? : Option Fault

namespace Run

/-- A run with one more datagram in front. -/
def push {α : Type} (h : Handled α) (run : Run α) : Run α := { run with steps := h :: run.steps }

end Run

namespace Server

/-- Opens the socket of a server on a host. -/
def open? (host : Host) (config : ServerConfig) (registry : Registry) : Except Fault Server :=
  match host.openSocket config.listen config.interface with
  | .error fault => .error fault
  | .ok _ => .ok ⟨config, registry⟩

/-- What handling a request leads to. -/
def handle {α : Type} (s : Server) (h : Handler α) (source : Endpoint) (m : Message) : Handled α :=
  let w := ReplyWriter.forRequest s.config m source
  let (result, box) := (h w).run w {}
  ⟨some result, box.packets⟩

/-- Serves datagrams one after another. -/
def serve {α : Type} (s : Server) (h : Handler α) : List Arrival → Run α
  | [] => ⟨[], none⟩
  | a :: rest =>
    match Intake.ofDatagram s.registry a.datagram with
    | .request m => (serve s h rest).push (s.handle h a.source m)
    | .passedOver => (serve s h rest).push .nothing
    | .undecodable cause =>
      match s.config.decodeFailure with
      | .drop => (serve s h rest).push .nothing
      | .abort => ⟨[.nothing], some (.malformed cause)⟩

/-- Serves datagrams while no handler makes progress, with `free` workers left; a request that
finds none waits until the server stops, and nothing behind it is taken. -/
def serveStalledWith {α : Type} (s : Server) (h : Handler α) : (free : Nat) → List Arrival → Run α
  | _, [] => ⟨[], none⟩
  | free, a :: rest =>
    match Intake.ofDatagram s.registry a.datagram with
    | .request m =>
      match free with
      | 0 => ⟨[], none⟩
      | free + 1 => (serveStalledWith s h free rest).push (s.handle h a.source m)
    | .passedOver => (serveStalledWith s h free rest).push .nothing
    | .undecodable cause =>
      match s.config.decodeFailure with
      | .drop => (serveStalledWith s h free rest).push .nothing
      | .abort => ⟨[.nothing], some (.malformed cause)⟩

/-- Serves datagrams that all arrive, followed by the order to stop, before any handler makes
progress. -/
def serveStalled {α : Type} (s : Server) (h : Handler α) (arrivals : List Arrival) : Run α :=
  s.serveStalledWith h s.config.workers arrivals

end Server

end Dhcp
