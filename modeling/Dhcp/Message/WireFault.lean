/-!
# What can be wrong with octets or with what is to become octets

A datagram is refused for being too short, for an option whose payload does not have the shape its
code demands, or for a hardware address longer than its slot. A message is refused for an option
that cannot be written. Each cause is a constructor, and `WireFault.message` is the one place where
causes become words.
-/

namespace Dhcp

/-- Why the payload of an option has not the shape that its code demands. -/
inductive Defect where
  /-- A payload of a fixed size has another one. -/
  | wrongSize (expected actual : Nat)
  /-- A list of addresses that ends inside an address, or has none. -/
  | brokenAddressList (length : Nat)
  /-- A client identifier without octets behind its type. -/
  | shortIdentifier (length : Nat)
  /-- A list of addresses that has none, about to be written. -/
  | emptyAddressList
  /-- A client identifier without octets, about to be written. -/
  | emptyIdentifier
  /-- A cause that a decoder of the caller's own gives. -/
  | other (reason : String)
deriving DecidableEq

/-- The words for a defect. -/
def Defect.message : Defect → String
  | .wrongSize expected actual =>
    "expected " ++ toString expected ++ " bytes, got " ++ toString actual
  | .brokenAddressList length =>
    "address list length " ++ toString length ++ " is not a positive multiple of 4"
  | .shortIdentifier length => "expected at least 2 bytes, got " ++ toString length
  | .emptyAddressList => "address list is empty"
  | .emptyIdentifier => "identifier after the type byte is empty"
  | .other reason => reason

/-- Why octets are no message, or a message cannot become octets. -/
inductive WireFault where
  | truncated (needed available : Nat)
  | malformedOption (code : UInt8) (defect : Defect)
  | optionTooLong (code : UInt8) (length : Nat)
  | invalidHardwareLength (length : UInt8)
deriving DecidableEq

/-- The words for a fault. -/
def WireFault.message : WireFault → String
  | .truncated needed available =>
    "Message truncated: needed " ++ toString needed ++ " bytes but only " ++ toString available
      ++ " remain"
  | .malformedOption code defect =>
    "Malformed option " ++ toString code.toNat ++ ": " ++ defect.message
  | .optionTooLong code length =>
    "Option " ++ toString code.toNat ++ " payload is " ++ toString length
      ++ " bytes, the limit is 255"
  | .invalidHardwareLength length =>
    "Hardware address length " ++ toString length.toNat ++ " exceeds 16 bytes"

end Dhcp
