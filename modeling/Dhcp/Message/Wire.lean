import Dhcp.Message.Area
import Dhcp.Message.Basic

/-!
# Messages on the wire

A datagram is 240 octets of header and an option area. The header has each field at a fixed place,
numbers with the most significant octet first, and the hardware address and the two names in slots
that are padded with zero octets.

| place | octets | field |
|-------|--------|-------|
| 0 | 1 | operation code |
| 1 | 1 | hardware type |
| 2 | 1 | hardware length |
| 3 | 1 | hops |
| 4 | 4 | transaction |
| 8 | 2 | seconds |
| 10 | 2 | flags |
| 12 | 4 | address of the client |
| 16 | 4 | address for the client |
| 20 | 4 | address of the server |
| 24 | 4 | address of the relay |
| 28 | 16 | hardware address |
| 44 | 64 | name of the server |
| 108 | 128 | name of the boot file |
| 236 | 4 | cookie |

**The law of the header** (`Header.length_octets`): a header is 240 octets, whatever its fields
hold, so no field can shift another one.
-/

namespace Dhcp

/-! ## Header -/

namespace Header

/-- The octets in a header. -/
def size : Nat := 240

/-- The octets of a header; what does not fit its slot is cut. -/
def octets (h : Header) : Octets :=
  [h.op.toOctet, h.htype, h.hlen, h.hops] ++ Octets.ofNat 4 h.xid.toNat
    ++ Octets.ofNat 2 h.secs.toNat ++ Octets.ofNat 2 h.flags.toNat
    ++ h.ciaddr.octets ++ h.yiaddr.octets ++ h.siaddr.octets ++ h.giaddr.octets
    ++ h.chaddr.fit hardwareWidth ++ h.sname.fit 64 ++ h.file.fit 128
    ++ Octets.ofNat 4 h.cookie.toNat

/-- The header that octets hold; the padding of a slot is not part of its field. -/
def ofOctets (data : Octets) : Header :=
  let hlen := data.getD 2 0
  { op := OpCode.ofOctet (data.getD 0 0)
    htype := data.getD 1 0
    hlen := hlen
    hops := data.getD 3 0
    xid := UInt32.ofNat (data.slice 4 4).toNat
    secs := UInt16.ofNat (data.slice 8 2).toNat
    flags := UInt16.ofNat (data.slice 10 2).toNat
    ciaddr := Ipv4.ofOctets (data.slice 12 4)
    yiaddr := Ipv4.ofOctets (data.slice 16 4)
    siaddr := Ipv4.ofOctets (data.slice 20 4)
    giaddr := Ipv4.ofOctets (data.slice 24 4)
    chaddr := (data.slice 28 hardwareWidth).take hlen.toNat
    sname := (data.slice 44 64).trim
    file := (data.slice 108 128).trim
    cookie := UInt32.ofNat (data.slice 236 4).toNat }

/-- Whatever the fields hold, a header has its fixed length. -/
theorem length_octets (h : Header) : h.octets.length = size := by
  simp [octets, size, hardwareWidth]

end Header

/-! ## Datagrams -/

namespace Message

/-- The message that a datagram holds, its options decoded by a registry. -/
def decodeWith (r : Registry) (data : Octets) : Except WireFault Message :=
  if data.length < Header.size then .error (.truncated Header.size data.length)
  else
    let header := Header.ofOctets data
    if hardwareWidth < header.hlen.toNat then .error (.invalidHardwareLength header.hlen)
    else
      match (Area.read (data.drop Header.size)).decode r with
      | .error fault => .error fault
      | .ok options => .ok { header with options := options }

/-- The message that a datagram holds, its options decoded as the known formats. -/
def decode (data : Octets) : Except WireFault Message := decodeWith .standard data

/-- The triples of options in order, or the fault of the first that cannot be written. -/
def encodeOptions : List Opt → Except WireFault Octets
  | [] => .ok []
  | o :: os =>
    match o.encode with
    | .error fault => .error fault
    | .ok triple =>
      match encodeOptions os with
      | .error fault => .error fault
      | .ok rest => .ok (triple ++ rest)

/-- The datagram of a message: its header, its options in ascending order of their codes, and the
octet that ends the area. -/
def encode (m : Message) : Except WireFault Octets :=
  match encodeOptions m.options.toList with
  | .error fault => .error fault
  | .ok area => .ok (m.toHeader.octets ++ area ++ [255])

end Message

end Dhcp
