/-!
# The two tags of a message

A message carries an operation code, which tells a request from a reply, and usually a message type
among its options, which tells the step of the exchange. Both are one octet. Octets without a
meaning here are kept as they are, so `toOctet_ofOctet` holds for every octet: a tag that was read
is written back unchanged.

The converse fails on purpose. `MessageType.unknown 1` can be built by hand; it is not `discover`,
though both are written as the octet 1.
-/

namespace Dhcp

/-! ## Operation codes -/

/-- Whether a message asks or answers. -/
inductive OpCode where
  | bootRequest
  | bootReply
  | unknown (octet : UInt8)
deriving DecidableEq, Inhabited

namespace OpCode

def ofOctet (octet : UInt8) : OpCode :=
  if octet = 1 then .bootRequest else if octet = 2 then .bootReply else .unknown octet

def toOctet : OpCode → UInt8
  | .bootRequest => 1
  | .bootReply => 2
  | .unknown octet => octet

/-- Every octet is that of the operation code that it stands for. -/
theorem toOctet_ofOctet (octet : UInt8) : (ofOctet octet).toOctet = octet := by
  unfold ofOctet
  split
  · next h => exact h.symm
  · split
    · next h => exact h.symm
    · rfl

/-- The text of an operation code. -/
def text : OpCode → String
  | .bootRequest => "BOOTREQUEST"
  | .bootReply => "BOOTREPLY"
  | .unknown octet => "UNKNOWN(" ++ toString octet.toNat ++ ")"

end OpCode

/-! ## Message types -/

/-- The step of an exchange that a message is, as option 53 tells it. -/
inductive MessageType where
  | discover
  | offer
  | request
  | decline
  | ack
  | nak
  | release
  | inform
  | forceRenew
  | leaseQuery
  | leaseUnassigned
  | leaseUnknown
  | leaseActive
  | bulkLeaseQuery
  | leaseQueryDone
  | activeLeaseQuery
  | leaseQueryStatus
  | tls
  | unknown (octet : UInt8)
deriving DecidableEq

namespace MessageType

/-- The types that have a name. -/
def named : List MessageType :=
  [discover, offer, request, decline, ack, nak, release, inform, forceRenew, leaseQuery,
    leaseUnassigned, leaseUnknown, leaseActive, bulkLeaseQuery, leaseQueryDone, activeLeaseQuery,
    leaseQueryStatus, tls]

def toOctet : MessageType → UInt8
  | discover => 1
  | offer => 2
  | request => 3
  | decline => 4
  | ack => 5
  | nak => 6
  | release => 7
  | inform => 8
  | forceRenew => 9
  | leaseQuery => 10
  | leaseUnassigned => 11
  | leaseUnknown => 12
  | leaseActive => 13
  | bulkLeaseQuery => 14
  | leaseQueryDone => 15
  | activeLeaseQuery => 16
  | leaseQueryStatus => 17
  | tls => 18
  | unknown octet => octet

/-- The named type of an octet, or the octet itself where there is none. -/
def ofOctet (octet : UInt8) : MessageType :=
  (named.find? fun t => t.toOctet = octet).getD (.unknown octet)

/-- Every octet is that of the message type that it stands for. -/
theorem toOctet_ofOctet (octet : UInt8) : (ofOctet octet).toOctet = octet := by
  unfold ofOctet
  cases h : named.find? fun t => t.toOctet = octet with
  | none => rfl
  | some t => simpa using List.find?_some h

/-- The name of a type in words run together. -/
def name : MessageType → String
  | discover => "Discover"
  | offer => "Offer"
  | request => "Request"
  | decline => "Decline"
  | ack => "Ack"
  | nak => "Nak"
  | release => "Release"
  | inform => "Inform"
  | forceRenew => "ForceRenew"
  | leaseQuery => "LeaseQuery"
  | leaseUnassigned => "LeaseUnassigned"
  | leaseUnknown => "LeaseUnknown"
  | leaseActive => "LeaseActive"
  | bulkLeaseQuery => "BulkLeaseQuery"
  | leaseQueryDone => "LeaseQueryDone"
  | activeLeaseQuery => "ActiveLeaseQuery"
  | leaseQueryStatus => "LeaseQueryStatus"
  | tls => "Tls"
  | unknown octet => "Unknown(" ++ toString octet.toNat ++ ")"

/-- The text of a type: its name in capitals behind the name of the protocol. -/
def text (t : MessageType) : String :=
  match t with
  | unknown _ => t.name.map Char.toUpper
  | _ => "DHCP" ++ t.name.map Char.toUpper

end MessageType

end Dhcp
