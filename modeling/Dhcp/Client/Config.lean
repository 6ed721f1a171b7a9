import Dhcp.Address.Mac
import Dhcp.Opt.Format
import Dhcp.Server.Config
import Dhcp.Text.Duration

/-!
# The configuration of a client

A client is told its hardware address; everything else has a default. Two facts are remembered here
as well and change while the client runs: the address that it holds and the server that granted it.
-/

namespace Dhcp

/-- The configuration of a client. -/
structure ClientConfig where
  mac : Mac
  interface : Option String := none
  bindAddress : Ipv4 := .unspecified
  clientPort : UInt16 := Dhcp.clientPort
  serverPort : UInt16 := Dhcp.serverPort
  broadcastAddress : Ipv4 := .everyone
  /-- How long the client waits for a reply. -/
  timeout : Duration := .ofSeconds 10
  hostName : Option String := none
  /-- The server that renewing, releasing and informing go to. -/
  server : Option Ipv4 := none
  /-- The address that the client holds. -/
  clientAddress : Option Ipv4 := none
  /-- The codes of the options that the client asks for. -/
  parameterRequestList : List UInt8 :=
    [(Format.address .subnetMask).code, (Format.addresses .router).code,
      (Format.addresses .domainNameServer).code, (Format.text .domainName).code]

end Dhcp
