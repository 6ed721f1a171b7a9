import Dhcp.Host
import Dhcp.Message.Forms
import Dhcp.Message.Wire
import Dhcp.Server.Config

/-!
# Replies to one request

A `ReplyWriter` belongs to one request. Whatever message it is given, it makes the reply to that
request of it: the operation code and the transaction are forced, options of the caller's are laid
over those of the message, and a server that announces an address is named in the reply. The reply
is then queued in an `Outbox`.

A message that cannot be written is refused before the outbox is looked at, so it is refused in the
same way whether or not anybody still takes replies.
-/

namespace Dhcp

/-! ## Outbox -/

/-- The packets that are queued for a socket, and whether anybody still takes them. -/
structure Outbox where
  isOpen : Bool := true
  packets : List Packet := []

namespace Outbox

/-- Queues a packet, unless nobody takes it. -/
def push (box : Outbox) (p : Packet) : Except Fault Unit × Outbox :=
  if box.isOpen then (.ok (), { box with packets := box.packets ++ [p] })
  else (.error .serverClosed, box)

/-- Nobody takes packets any more, also not those that are queued. -/
def close (box : Outbox) : Outbox := { box with isOpen := false }

end Outbox

/-! ## Replies -/

/-- What a caller can ask to be sent as a reply: one of the usual messages or one of its own, each
with options to lay over it. -/
inductive Reply where
  | offer (addr : Ipv4) (extra : List Opt)
  | ack (addr : Ipv4) (extra : List Opt)
  | nak (reason : String) (extra : List Opt)
  | message (message : Message) (extra : List Opt)

namespace Reply

/-- The message that a reply starts from. -/
def base (request : Message) : Reply → Message
  | .offer addr _ => .offer request addr
  | .ack addr _ => .ack request addr
  | .nak reason _ => .nak request reason
  | .message m _ => m

/-- The options that are laid over a reply. -/
def extra : Reply → List Opt
  | .offer _ extra => extra
  | .ack _ extra => extra
  | .nak _ extra => extra
  | .message _ extra => extra

end Reply

/-- What replies to one request depend on. -/
structure ReplyWriter where
  request : Message
  source : Endpoint
  destination : Endpoint
  serverAddress : Option Ipv4

namespace ReplyWriter

/-- The writer for a request that came from `source`. -/
def forRequest (config : ServerConfig) (request : Message) (source : Endpoint) : ReplyWriter where
  request := request
  source := source
  destination := config.destination source
  serverAddress := config.serverAddress

/-- The message with the server named in it: in its header always, and among its options unless
they already hold a server identifier. -/
def sign (server? : Option Ipv4) (m : Message) : Message :=
  match server? with
  | none => m
  | some server =>
    let m := { m with siaddr := server }
    match m.serverIdentifier? with
    | some _ => m
    | none => m.withOption (.address .serverIdentifier server)

/-- The reply that a message becomes. -/
def compose (w : ReplyWriter) (m : Message) (extra : List Opt) : Message :=
  sign w.serverAddress { m.withOptions extra with op := .bootReply, xid := w.request.xid }

/-- The packet that a reply travels in, unless the reply cannot be written. -/
def packet (w : ReplyWriter) (r : Reply) : Except WireFault Packet :=
  match (w.compose (r.base w.request) r.extra).encode with
  | .error cause => .error cause
  | .ok data => .ok ⟨w.destination, data⟩

/-- Queues a reply. -/
def send (w : ReplyWriter) (r : Reply) (box : Outbox) : Except Fault Unit × Outbox :=
  match w.packet r with
  | .error cause => (.error (.unwritable cause), box)
  | .ok p => box.push p

end ReplyWriter

end Dhcp
