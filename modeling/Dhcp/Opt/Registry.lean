import Dhcp.Opt.Basic

/-!
# Decoding payloads

`Format.decode` reads the payload of a known option. A registry says which decoder is in force for
which code; a caller may put decoders of its own into it. A code without a decoder gives a raw
option.

**The law** (`code_decode`): whatever the decoders of a registry do, an option that the registry
decodes carries the code that was asked for. An option of another code is dropped for the raw
octets, so a decoder cannot put a value under a foreign code.
-/

namespace Dhcp

/-! ## Known formats -/

/-- The octets, if there are `size` of them. -/
def exactly (code : UInt8) (size : Nat) (data : Octets) : Except WireFault Octets :=
  if data.length = size then .ok data
  else .error (.malformedOption code (.wrongSize size data.length))

/-- The addresses that a payload lists, four octets each; octets that are left over are dropped. -/
def addressesOf : Octets → List Ipv4
  | a :: b :: c :: d :: rest => Ipv4.ofOctets [a, b, c, d] :: addressesOf rest
  | _ => []

/-- The option of a format that a payload holds. A text that is not UTF-8 is kept as raw octets. -/
def Format.decode (f : Format) (data : Octets) : Except WireFault Opt :=
  match f with
  | .address use => do
    let data ← exactly f.code 4 data
    pure (.address use (Ipv4.ofOctets data))
  | .addresses use =>
    if data = [] ∨ data.length % 4 ≠ 0 then
      .error (.malformedOption f.code (.brokenAddressList data.length))
    else .ok (.addresses use (addressesOf data))
  | .text use =>
    match data.text? with
    | some value => .ok (.text use value)
    | none => .ok (.raw f.code data)
  | .seconds use => do
    let data ← exactly f.code 4 data
    pure (.seconds use (UInt32.ofNat data.toNat))
  | .messageType => do
    let data ← exactly f.code 1 data
    pure (.messageType (MessageType.ofOctet (UInt8.ofNat data.toNat)))
  | .parameterRequestList => .ok (.parameterRequestList data)
  | .maximumMessageSize => do
    let data ← exactly f.code 2 data
    pure (.maximumMessageSize (UInt16.ofNat data.toNat))
  | .clientIdentifier =>
    match data with
    | kind :: b :: id => .ok (.clientIdentifier kind (b :: id))
    | _ => .error (.malformedOption f.code (.shortIdentifier data.length))

/-- Reads the payload of an option; it is told the code, so that one decoder can serve several. -/
abbrev Decoder := UInt8 → Octets → Except WireFault Opt

/-- The decoder of the known formats; other codes give raw octets. -/
def decodeKnown : Decoder := fun code data =>
  match Format.ofCode? code with
  | some f => f.decode data
  | none => .ok (.raw code data)

/-! ## Registries -/

/-- Which decoder is in force for each code. -/
structure Registry where
  decoder? : UInt8 → Option Decoder

namespace Registry

/-- The registry that leaves every option raw. -/
def empty : Registry := ⟨fun _ => none⟩

/-- The registry of the known formats. -/
def standard : Registry := ⟨fun code => (Format.ofCode? code).map fun _ => decodeKnown⟩

/-- The registry where none is given. -/
instance : Inhabited Registry := ⟨standard⟩

/-- Whether a decoder is in force for a code. -/
def isRegistered (r : Registry) (code : UInt8) : Bool := (r.decoder? code).isSome

/-- The registry with `decoder?` in force for `code` alone changed. -/
def set (r : Registry) (code : UInt8) (decoder? : Option Decoder) : Registry :=
  ⟨fun c => if c = code then decoder? else r.decoder? c⟩

/-- Puts a decoder in force for a code and tells the one it replaces. -/
def register (r : Registry) (code : UInt8) (decoder : Decoder) : Option Decoder × Registry :=
  (r.decoder? code, r.set code (some decoder))

/-- Takes the decoder of a code out of force and tells which it was. -/
def unregister (r : Registry) (code : UInt8) : Option Decoder × Registry :=
  (r.decoder? code, r.set code none)

/-- The option that a payload under a code holds. -/
def decode (r : Registry) (code : UInt8) (data : Octets) : Except WireFault Opt :=
  match r.decoder? code with
  | none => .ok (.raw code data)
  | some decoder =>
    match decoder code data with
    | .error fault => .error fault
    | .ok o => .ok (if o.code = code then o else .raw code data)

/-- Whatever decoder is asked, the option that comes of a code has that code. -/
theorem code_decode {r : Registry} {code : UInt8} {data : Octets} {o : Opt}
    (h : r.decode code data = .ok o) : o.code = code := by
  unfold decode at h
  split at h
  · cases h
    rfl
  · split at h
    · cases h
    · cases h
      split
      · assumption
      · rfl

end Registry

end Dhcp
