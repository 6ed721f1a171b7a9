import Dhcp.Address.Ipv4
import Dhcp.Address.Mac
import Dhcp.Message.Kind
import Dhcp.Message.WireFault
import Dhcp.Opt.Format
import Dhcp.Text.Quoted
import Dhcp.Text.Utf8

/-!
# Options

An option is a value under a code of one octet. A known option holds the value of its format; any
other option, and any payload that its format cannot hold, is kept as `raw` octets. On the wire an
option is a triple: its code, the length of its payload in one octet, and the payload.

Writing is stricter than building. An empty list of addresses and a client identifier without
octets can be built, but `Opt.encode` refuses them, as it refuses a payload of more than 255 octets.
A raw option has no shape to be refused for, whatever its code.
-/

namespace Dhcp

/-- An option of a message. -/
inductive Opt where
  | address (use : AddressUse) (addr : Ipv4)
  | addresses (use : AddressListUse) (addrs : List Ipv4)
  | text (use : TextUse) (value : String)
  | seconds (use : SecondsUse) (secs : UInt32)
  | messageType (value : MessageType)
  | parameterRequestList (codes : Octets)
  | maximumMessageSize (size : UInt16)
  | clientIdentifier (kind : UInt8) (id : Octets)
  | raw (code : UInt8) (data : Octets)
deriving DecidableEq

namespace Opt

/-- The client identifier that names an Ethernet address: hardware type 1 and the address. -/
def identifierOfMac (mac : Mac) : Opt := .clientIdentifier 1 mac.octets

/-! ## Code and name -/

/-- The format of a known option. -/
def format? : Opt → Option Format
  | .address use _ => some (.address use)
  | .addresses use _ => some (.addresses use)
  | .text use _ => some (.text use)
  | .seconds use _ => some (.seconds use)
  | .messageType _ => some .messageType
  | .parameterRequestList _ => some .parameterRequestList
  | .maximumMessageSize _ => some .maximumMessageSize
  | .clientIdentifier _ _ => some .clientIdentifier
  | .raw _ _ => none

/-- The code of an option. -/
def code : Opt → UInt8
  | .address use _ => (Format.address use).code
  | .addresses use _ => (Format.addresses use).code
  | .text use _ => (Format.text use).code
  | .seconds use _ => (Format.seconds use).code
  | .messageType _ => Format.messageType.code
  | .parameterRequestList _ => Format.parameterRequestList.code
  | .maximumMessageSize _ => Format.maximumMessageSize.code
  | .clientIdentifier _ _ => Format.clientIdentifier.code
  | .raw code _ => code

/-- An option with a format has the code of the format. -/
theorem code_of_format? {o : Opt} {f : Format} (h : o.format? = some f) : o.code = f.code := by
  cases o <;> cases h <;> rfl

/-- The name of an option for a reader. -/
def name (o : Opt) : String :=
  match o.format? with
  | some f => f.name
  | none => "Unrecognized"

/-! ## Octets -/

/-- The longest payload that the length octet can tell. -/
def maxPayload : Nat := 255

/-- The payload of an option. -/
def payload : Opt → Octets
  | .address _ addr => addr.octets
  | .addresses _ addrs => addrs.flatMap Ipv4.octets
  | .text _ value => Octets.ofText value
  | .seconds _ secs => Octets.ofNat 4 secs.toNat
  | .messageType value => [value.toOctet]
  | .parameterRequestList codes => codes
  | .maximumMessageSize size => Octets.ofNat 2 size.toNat
  | .clientIdentifier kind id => kind :: id
  | .raw _ data => data

/-- Why an option has no shape to be written in. -/
def defect? : Opt → Option Defect
  | .addresses _ [] => some .emptyAddressList
  | .clientIdentifier _ [] => some .emptyIdentifier
  | _ => none

/-- The code, length and payload of an option. -/
def encode (o : Opt) : Except WireFault Octets :=
  match o.defect? with
  | some defect => .error (.malformedOption o.code defect)
  | none =>
    if maxPayload < o.payload.length then .error (.optionTooLong o.code o.payload.length)
    else .ok (o.code :: UInt8.ofNat o.payload.length :: o.payload)

/-- Writes an option behind what a buffer holds; one that is refused leaves the buffer as it was. -/
def writeTo (o : Opt) (buffer : Octets) : Except WireFault Unit × Octets :=
  match o.encode with
  | .error fault => (.error fault, buffer)
  | .ok triple => (.ok (), buffer ++ triple)

/-! ## Text -/

/-- The text of the value of an option. -/
def valueText : Opt → String
  | .address _ addr => addr.text
  | .addresses _ addrs => ", ".intercalate (addrs.map Ipv4.text)
  | .text _ value => Text.quoted value
  | .seconds _ secs => toString secs.toNat ++ "s"
  | .messageType value => value.text
  | .parameterRequestList codes => " ".intercalate (codes.map fun c => toString c.toNat)
  | .maximumMessageSize size => toString size.toNat ++ " bytes"
  | .clientIdentifier kind id => "type " ++ toString kind.toNat ++ ", " ++ id.hex ":"
  | .raw _ data => toString data.length ++ " bytes " ++ data.hex ""

/-- The text of an option: its name, its code and its value. -/
def describe (o : Opt) : String :=
  o.name ++ " (" ++ toString o.code.toNat ++ "): " ++ o.valueText

end Opt

end Dhcp
