import Dhcp.Opt.Collection

/-!
# Messages

A message is a header of fixed fields and a collection of options. The fields can be set freely, so
a message need not be one that a datagram could hold: a name may be longer than its slot, and the
hardware length need not be the length of the hardware address. What becomes of such a message on
the wire is said in `Dhcp.Message.Wire`.

Two codes are no options: 0 pads the option area and 255 ends it. `Message.withOption` keeps them
out.
-/

namespace Dhcp

/-- The number that marks a DHCP message among BOOTP messages. -/
def magicCookie : UInt32 := 0x63825363

/-- The bit of the flags that asks for an answer by broadcast. -/
def broadcastFlag : UInt16 := 0x8000

/-- The hardware type of Ethernet. -/
def ethernet : UInt8 := 1

/-- The octets in the slot of the hardware address. -/
def hardwareWidth : Nat := 16

/-- The fixed fields of a message. -/
structure Header where
  op : OpCode
  htype : UInt8
  hlen : UInt8
  hops : UInt8
  xid : UInt32
  secs : UInt16
  flags : UInt16
  ciaddr : Ipv4
  yiaddr : Ipv4
  siaddr : Ipv4
  giaddr : Ipv4
  /-- The hardware address without the padding of its slot. -/
  chaddr : Octets
  /-- The name of the server without the padding of its slot. -/
  sname : Octets
  /-- The name of the boot file without the padding of its slot. -/
  file : Octets
  cookie : UInt32
deriving DecidableEq

/-- A DHCP message. -/
structure Message extends Header where
  options : Options
deriving DecidableEq

namespace Message

/-- An Ethernet message with no address set and no options. -/
def new (op : OpCode) (xid : UInt32) : Message where
  op := op
  htype := ethernet
  hlen := 6
  hops := 0
  xid := xid
  secs := 0
  flags := 0
  ciaddr := .unspecified
  yiaddr := .unspecified
  siaddr := .unspecified
  giaddr := .unspecified
  chaddr := List.replicate 6 0
  sname := []
  file := []
  cookie := magicCookie
  options := .empty

/-! ## Options -/

/-- A code that frames the option area and is no option. -/
def isFraming (code : UInt8) : Bool := code = 0 || code = 255

/-- The option under a code. -/
def option? (m : Message) (code : UInt8) : Option Opt := m.options.get? code

/-- The message with an option in the place of its code; a framing code changes nothing. -/
def withOption (m : Message) (o : Opt) : Message :=
  if isFraming o.code then m else { m with options := m.options.insert o }

/-- The message with several options put in from left to right, so that later ones win. -/
def withOptions (m : Message) (os : List Opt) : Message := os.foldl withOption m

/-- Puts an option in and tells the one it replaces. -/
def setOption (m : Message) (o : Opt) : Option Opt × Message :=
  (if isFraming o.code then none else m.option? o.code, m.withOption o)

/-- Takes the option of a code out and tells which it was. -/
def removeOption (m : Message) (code : UInt8) : Option Opt × Message :=
  (m.option? code, { m with options := m.options.erase code })

/-! ## Values of known options

Each reading looks at the option of one code and answers only where it holds a value of its format;
a raw option under the same code has none. -/

def messageType? (m : Message) : Option MessageType :=
  match m.option? Format.messageType.code with
  | some (.messageType type) => some type
  | _ => none

def requestedAddress? (m : Message) : Option Ipv4 :=
  match m.option? (Format.address .requestedAddress).code with
  | some (.address .requestedAddress addr) => some addr
  | _ => none

def serverIdentifier? (m : Message) : Option Ipv4 :=
  match m.option? (Format.address .serverIdentifier).code with
  | some (.address .serverIdentifier addr) => some addr
  | _ => none

def leaseTime? (m : Message) : Option UInt32 :=
  match m.option? (Format.seconds .leaseTime).code with
  | some (.seconds .leaseTime secs) => some secs
  | _ => none

def hostName? (m : Message) : Option String :=
  match m.option? (Format.text .hostName).code with
  | some (.text .hostName value) => some value
  | _ => none

def noticeText? (m : Message) : Option String :=
  match m.option? (Format.text .message).code with
  | some (.text .message value) => some value
  | _ => none

def withMessageType (m : Message) (type : MessageType) : Message :=
  m.withOption (.messageType type)

/-- The message with a host name; an empty name changes nothing. -/
def withHostName (m : Message) (name : String) : Message :=
  if name.isEmpty then m else m.withOption (.text .hostName name)

/-- The message with a text for its reader. -/
def withNotice (m : Message) (notice : String) : Message :=
  m.withOption (.text .message notice)

/-! ## Names -/

/-- The name of the server, if it is a text. -/
def serverName? (m : Message) : Option String := m.sname.text?

/-- The name of the boot file, if it is a text. -/
def bootFile? (m : Message) : Option String := m.file.text?

def withServerName (m : Message) (name : String) : Message :=
  { m with sname := Octets.ofText name }

def withBootFile (m : Message) (name : String) : Message :=
  { m with file := Octets.ofText name }

/-! ## Hardware address -/

/-- The message with a hardware address of a type; one that is longer than its slot is refused. -/
def withHardwareAddress (m : Message) (htype : UInt8) (addr : Octets) :
    Except WireFault Message :=
  if hardwareWidth < addr.length then
    .error (.invalidHardwareLength (UInt8.ofNat (min addr.length 255)))
  else .ok { m with htype := htype, hlen := UInt8.ofNat addr.length, chaddr := addr }

/-- The message with an Ethernet address. -/
def withMac (m : Message) (mac : Mac) : Message :=
  { m with htype := ethernet, hlen := 6, chaddr := mac.octets }

/-- The hardware address in lower-case hexadecimal with colons. -/
def hardwareText (m : Message) : String := m.chaddr.hex ":"

/-! ## Flags and cookie -/

/-- Whether the message asks for an answer by broadcast. -/
def isBroadcast (m : Message) : Bool := m.flags &&& broadcastFlag ≠ 0

def withBroadcast (m : Message) (on : Bool) : Message :=
  { m with flags := if on then m.flags ||| broadcastFlag else m.flags &&& ~~~broadcastFlag }

def hasValidCookie (m : Message) : Bool := m.cookie = magicCookie

end Message

end Dhcp
