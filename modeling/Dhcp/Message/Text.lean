import Dhcp.Message.Basic

/-!
# The text of a message

A message is shown as a title, one line for each field of its header and one for each option. The
options quote their texts; the two names of the header are shown as they came, with a replacement
character for what is no text.
-/

namespace Dhcp

/-- A number in hexadecimal, at the width of its octets. -/
def hexNumber (width n : Nat) : String := "0x" ++ (Octets.ofNat width n).hex ""

/-- The lines of a header, each a label and a value. -/
def Header.fields (h : Header) : List (String × String) :=
  [("OpCode", h.op.text),
    ("HardwareType", toString h.htype.toNat),
    ("HardwareLength", toString h.hlen.toNat),
    ("Hops", toString h.hops.toNat),
    ("Xid", hexNumber 4 h.xid.toNat),
    ("Seconds", toString h.secs.toNat),
    ("Flags", hexNumber 2 h.flags.toNat),
    ("ClientIPAddr", h.ciaddr.text),
    ("YourIPAddr", h.yiaddr.text),
    ("ServerIPAddr", h.siaddr.text),
    ("GatewayIPAddr", h.giaddr.text),
    ("ClientHardwareAddr", h.chaddr.hex ":"),
    ("ServerHostName", h.sname.lossyText),
    ("BootFileName", h.file.lossyText),
    ("MagicCookie", (Octets.ofNat 4 h.cookie.toNat).hex "")]

namespace Message

/-- The lines of a message, without their ends. -/
def lines (m : Message) : List String :=
  "DHCP Message:" :: m.toHeader.fields.map (fun field => "  " ++ field.1 ++ ": " ++ field.2)
    ++ "  Options:" :: m.options.toList.map (fun o => "    " ++ o.describe)

/-- The text of a message. -/
def text (m : Message) : String := String.join (m.lines.map (· ++ "\n"))

end Message

end Dhcp
