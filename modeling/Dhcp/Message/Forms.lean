import Dhcp.Message.Basic

/-!
# The messages of an exchange

One function for each message that a client or a server sends, with the fields that RFC 2131 asks
for in tables 3 and 5. Transaction numbers come from the caller: a client chooses them, and a reply
takes the one of its request.

A reply copies what lets its request be recognised and the answer be delivered: the transaction, the
relay, the flags and the hardware address. Nothing else of the request shows in it.
-/

namespace Dhcp

/-- The lease time in seconds that an offer or an acknowledgement has if no other is given: thirty
days. -/
def defaultLeaseTime : UInt32 := 2592000

namespace Message

/-! ## Replies -/

/-- A reply to a request, without options. -/
def reply (request : Message) : Message :=
  { new .bootReply request.xid with
    giaddr := request.giaddr
    flags := request.flags
    htype := request.htype
    hlen := request.hlen
    chaddr := request.chaddr }

/-- A reply that promises or grants an address. -/
def granting (request : Message) (type : MessageType) (addr : Ipv4) : Message :=
  { ((reply request).withMessageType type).withOption (.seconds .leaseTime defaultLeaseTime) with
    yiaddr := addr }

/-- A reply that offers an address. -/
def offer (request : Message) (addr : Ipv4) : Message := granting request .offer addr

/-- A reply that grants an address. -/
def ack (request : Message) (addr : Ipv4) : Message := granting request .ack addr

/-- A reply that refuses, with the reason for its reader. -/
def nak (request : Message) (reason : String) : Message :=
  ((reply request).withMessageType .nak).withNotice reason

/-! ## Requests -/

/-- A request of a type. -/
def ask (type : MessageType) (xid : UInt32) : Message :=
  (new .bootRequest xid).withMessageType type

/-- Asks for servers. -/
def discover (xid : UInt32) : Message := ask .discover xid

/-- Asks for an address. -/
def request (xid : UInt32) : Message := ask .request xid

/-- Tells the server of an offer, where it is known, that the address is in use. -/
def decline (addr : Ipv4) (server? : Option Ipv4) (xid : UInt32) : Message :=
  let m := (ask .decline xid).withOption (.address .requestedAddress addr)
  match server? with
  | some server => m.withOption (.address .serverIdentifier server)
  | none => m

/-- Asks for more time on the address that the client holds. -/
def renew (client : Ipv4) (xid : UInt32) : Message := { request xid with ciaddr := client }

/-- Gives the address of the client back. -/
def release (client : Ipv4) (xid : UInt32) : Message := { ask .release xid with ciaddr := client }

/-- Asks for parameters alone. -/
def inform (client : Ipv4) (xid : UInt32) : Message := { ask .inform xid with ciaddr := client }

end Message

end Dhcp
