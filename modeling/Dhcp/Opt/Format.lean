/-!
# The formats of the known options

Eighteen option codes have a known format. Several of them share a payload and differ in what it is
used for, so a format is a kind of payload together with a use: an address, a list of addresses, a
text, a number of seconds, and four formats that stand alone.

**The law** (`ofCode?_eq_some_iff`): looking a code up finds exactly the format with that code, so
the table of codes is one-to-one.
-/

namespace Dhcp

/-- What a single address tells. -/
inductive AddressUse where
  | subnetMask
  | broadcastAddress
  | requestedAddress
  | serverIdentifier
deriving DecidableEq

/-- What a list of addresses tells. -/
inductive AddressListUse where
  | router
  | domainNameServer
  | accessController
deriving DecidableEq

/-- What a text tells. -/
inductive TextUse where
  | hostName
  | domainName
  | message
deriving DecidableEq

/-- What a number of seconds tells. -/
inductive SecondsUse where
  | leaseTime
  | renewalTime
  | rebindingTime
  | ipv6OnlyPreferred
deriving DecidableEq

/-- The format of a known option: its payload and the use of it. -/
inductive Format where
  | address (use : AddressUse)
  | addresses (use : AddressListUse)
  | text (use : TextUse)
  | seconds (use : SecondsUse)
  | messageType
  | parameterRequestList
  | maximumMessageSize
  | clientIdentifier
deriving DecidableEq

namespace Format

/-- The code that an option of a format carries. -/
def code : Format → UInt8
  | .address .subnetMask => 1
  | .addresses .router => 3
  | .addresses .domainNameServer => 6
  | .text .hostName => 12
  | .text .domainName => 15
  | .address .broadcastAddress => 28
  | .address .requestedAddress => 50
  | .seconds .leaseTime => 51
  | .messageType => 53
  | .address .serverIdentifier => 54
  | .parameterRequestList => 55
  | .text .message => 56
  | .maximumMessageSize => 57
  | .seconds .renewalTime => 58
  | .seconds .rebindingTime => 59
  | .clientIdentifier => 61
  | .seconds .ipv6OnlyPreferred => 108
  | .addresses .accessController => 138

/-- The name of a format for a reader. -/
def name : Format → String
  | .address .subnetMask => "Subnet Mask"
  | .addresses .router => "Router"
  | .addresses .domainNameServer => "Domain Name Server"
  | .text .hostName => "Host Name"
  | .text .domainName => "Domain Name"
  | .address .broadcastAddress => "Broadcast Address"
  | .address .requestedAddress => "Requested IP Address"
  | .seconds .leaseTime => "IP Address Lease Time"
  | .messageType => "DHCP Message Type"
  | .address .serverIdentifier => "Server Identifier"
  | .parameterRequestList => "Parameter Request List"
  | .text .message => "Message"
  | .maximumMessageSize => "Maximum DHCP Message Size"
  | .seconds .renewalTime => "Renewal (T1) Time"
  | .seconds .rebindingTime => "Rebinding (T2) Time"
  | .clientIdentifier => "Client Identifier"
  | .seconds .ipv6OnlyPreferred => "IPv6-Only Preferred"
  | .addresses .accessController => "CAPWAP AC IPv4 Address"

/-- Every format, in the order of the codes. -/
def all : List Format :=
  [.address .subnetMask, .addresses .router, .addresses .domainNameServer, .text .hostName,
    .text .domainName, .address .broadcastAddress, .address .requestedAddress,
    .seconds .leaseTime, .messageType, .address .serverIdentifier, .parameterRequestList,
    .text .message, .maximumMessageSize, .seconds .renewalTime, .seconds .rebindingTime,
    .clientIdentifier, .seconds .ipv6OnlyPreferred, .addresses .accessController]

/-- The format with a code, if the code has one. -/
def ofCode? (code : UInt8) : Option Format :=
  all.find? fun f => f.code = code

@[simp] theorem ofCode?_code (f : Format) : ofCode? f.code = some f := by
  cases f with
  | address use => cases use <;> rfl
  | addresses use => cases use <;> rfl
  | text use => cases use <;> rfl
  | seconds use => cases use <;> rfl
  | messageType => rfl
  | parameterRequestList => rfl
  | maximumMessageSize => rfl
  | clientIdentifier => rfl

theorem mem_all (f : Format) : f ∈ all := List.mem_of_find?_eq_some (ofCode?_code f)

theorem code_of_ofCode? {code : UInt8} {f : Format} (h : ofCode? code = some f) :
    f.code = code := by
  simpa using List.find?_some h

/-- A code has the one format whose code it is. -/
theorem ofCode?_eq_some_iff {code : UInt8} {f : Format} :
    ofCode? code = some f ↔ f.code = code :=
  ⟨code_of_ofCode?, fun h => h ▸ ofCode?_code f⟩

end Format

end Dhcp
