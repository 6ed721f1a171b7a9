import Dhcp.Address.Endpoint
import Dhcp.Message.Kind
import Dhcp.Message.WireFault
import Dhcp.Text.Duration

/-!
# What can go wrong in an exchange

A client or server fails because a socket cannot be set up, because a datagram cannot be sent or
read, because the other side answers something else than it should, or because a fact that an
operation needs is not known. Each cause is a constructor; `SocketFault.message` and `Fault.message`
are where causes become words. Where one fault is the cause of another, the words of the outer one
do not repeat those of the inner one.
-/

namespace Dhcp

/-! ## Sockets -/

/-- The step at which setting up a socket failed. -/
inductive SocketFault where
  | create
  | setBroadcast
  | bindToDevice (interface : String)
  | bind (endpoint : Ipv4Endpoint)
  | setReuseAddress
  | setNonBlocking
  | register
  | noDeviceBinding
deriving DecidableEq

/-- The words for a fault of a socket. -/
def SocketFault.message : SocketFault → String
  | .create => "Failed to create a new socket"
  | .setBroadcast => "Failed to enable broadcast on socket"
  | .bindToDevice interface =>
    "Failed to set SO_BINDTODEVICE on interface '" ++ interface ++ "'"
  | .bind endpoint => "Failed to bind socket to " ++ endpoint.text
  | .setReuseAddress => "Failed to set SO_REUSEADDR on socket"
  | .setNonBlocking => "Failed to set socket to non-blocking mode"
  | .register => "Failed to convert socket to TokioUdpSocket"
  | .noDeviceBinding => "Binding to a specific device is not implemented on this platform"

/-! ## Exchanges -/

/-- A fact that an operation needs. -/
inductive Need where
  | clientAddress
  | serverAddress
  | macAddress
deriving DecidableEq

/-- The words for a fact. -/
def Need.text : Need → String
  | .clientAddress => "client IP address"
  | .serverAddress => "server address"
  | .macAddress => "MAC address (pass --mac or --interface)"

/-- Why a client or a server could not do what it was asked to. -/
inductive Fault where
  /-- A socket could not be set up. -/
  | socket (cause : SocketFault)
  /-- The system could not send or receive. -/
  | io
  /-- A message could not be written. -/
  | unwritable (cause : WireFault)
  /-- A datagram that came is no message. -/
  | malformed (cause : WireFault)
  /-- A message came that is no reply. -/
  | unexpectedOpCode (octet : UInt8)
  /-- A reply came that is not of the type it should be. -/
  | unexpectedType (expected : MessageType) (actual : Option MessageType)
  /-- The server refused, for this reason. -/
  | refused (reason : String)
  /-- No reply came in time. -/
  | timeout (after : Duration)
  /-- The operation needs a fact that is not known. -/
  | missing (need : Need)
  /-- A text is no Ethernet address. -/
  | invalidMac (text : String)
  /-- Nobody takes replies any more. -/
  | serverClosed
deriving DecidableEq

namespace Fault

/-- The words for the message type that a reply had. -/
def actualText : Option MessageType → String
  | none => "None"
  | some type => "Some(" ++ type.name ++ ")"

/-- The words for a fault. -/
def message : Fault → String
  | .socket _ => "Socket operation failed"
  | .io => "I/O error"
  | .unwritable _ => "Failed to encode DHCP message"
  | .malformed _ => "Received a malformed DHCP message"
  | .unexpectedOpCode octet => "Received unexpected op code " ++ toString octet.toNat
  | .unexpectedType expected actual =>
    "Expected " ++ expected.text ++ " but received " ++ actualText actual
  | .refused reason => "Server refused the request: " ++ reason
  | .timeout after => "No reply received within " ++ after.text
  | .missing need => "Operation requires a known " ++ need.text
  | .invalidMac text => "Failed to parse MAC address: " ++ text
  | .serverClosed => "Server stopped accepting replies"

end Fault

end Dhcp
