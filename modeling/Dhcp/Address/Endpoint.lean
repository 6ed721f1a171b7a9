import Dhcp.Address.Ipv6

/-!
# Endpoints

An endpoint is an address with a port: where a datagram comes from or goes to. A server listens on
an IPv4 endpoint; a request may be said to come from either kind.

The port stands behind a colon, and an IPv6 address between brackets, with its scope behind a
percent sign unless the scope is zero. A port and a scope may be written with spare zeros.
-/

namespace Dhcp

/-- An IPv4 address with a port. -/
structure Ipv4Endpoint where
  address : Ipv4
  port : UInt16
deriving DecidableEq

/-- Where a datagram comes from or goes to. -/
inductive Endpoint where
  | v4 (endpoint : Ipv4Endpoint)
  | v6 (address : Ipv6) (scope : UInt32) (port : UInt16)
deriving DecidableEq

/-! ## Writing -/

namespace Ipv4Endpoint

/-- The text of an endpoint. -/
def text (e : Ipv4Endpoint) : String := e.address.text ++ ":" ++ toString e.port.toNat

end Ipv4Endpoint

namespace Endpoint

/-- The text of an endpoint. -/
def text : Endpoint → String
  | .v4 e => e.text
  | .v6 address scope port =>
    let scopeText := if scope = 0 then "" else "%" ++ toString scope.toNat
    "[" ++ address.text ++ scopeText ++ "]:" ++ toString port.toNat

/-- The text of the address of an endpoint. -/
def addressText : Endpoint → String
  | .v4 e => e.address.text
  | .v6 address _ _ => address.text

end Endpoint

/-! ## Reading -/

/-- A port behind its colon, up to the end of a text. -/
def readPort? : List Char → Option UInt16
  | ':' :: text =>
    let numeral : Text.Numeral := { limit := UInt16.size }
    (numeral.readAll? text).map UInt16.ofNat
  | _ => none

namespace Ipv4Endpoint

/-- The endpoint that a text is, all of it. -/
def ofText? (text : String) : Option Ipv4Endpoint := do
  let (address, text) ← Ipv4.read? text.toList
  let port ← readPort? text
  pure ⟨address, port⟩

end Ipv4Endpoint

namespace Endpoint

/-- A scope behind its percent sign, or the scope zero where there is none. -/
def readScope? : List Char → Option (UInt32 × List Char)
  | '%' :: text =>
    let numeral : Text.Numeral := { limit := UInt32.size }
    (numeral.read? text).map fun (n, text) => (UInt32.ofNat n, text)
  | text => some (0, text)

/-- The IPv6 endpoint that a text is, all of it. -/
def readBrackets? : List Char → Option Endpoint
  | '[' :: text => do
    let (address, text) ← Ipv6.read? text
    let (scope, text) ← readScope? text
    match text with
    | ']' :: text => (readPort? text).map fun port => .v6 address scope port
    | _ => none
  | _ => none

/-- The endpoint that a text is, all of it. -/
def ofText? (text : String) : Option Endpoint :=
  match Ipv4Endpoint.ofText? text with
  | some e => some (.v4 e)
  | none => readBrackets? text.toList

end Endpoint

end Dhcp
